import TagGovernance.Policy.Mark
import TagGovernance.Proofs.Calendar.Due

/-!
# How early a mark is due

A filter finds a mark some days and hours before its due date. Times that cannot be represented on
the way to that instant are decided by sign, and the signs of days and hours are looked at one by
one. That is right if the two do not have opposite signs. If they do, the filter finds every mark,
also one that is not due yet.
-/

namespace TagGovernance

namespace Span

def Fits (n : Int) : Prop := -maxSeconds ≤ n ∧ n ≤ maxSeconds

theorem ofSeconds?_eq_some_iff {n : Int} {s : Span} : ofSeconds? n = some s ↔ Fits n ∧ s = ⟨n⟩ := by
  rw [ofSeconds?, Option.ite_none_right_eq_some, Option.some.injEq, eq_comm (a := s), Fits]

end Span

namespace Instant

theorem representable_iff (t : Instant) :
    t.Representable ↔ -8334601228800 ≤ t.seconds ∧ t.seconds ≤ 8210266876799 := by
  have hfirst : Date.first.toDays = -96465292 := by decide
  have hlast : Date.last.toDays = 95026236 := by decide
  rw [Representable, hfirst, hlast, day]
  omega

end Instant

namespace MarkedFilter

variable {filter : MarkedFilter} {due now : Instant}

/-- When the filter begins to match, whether or not that can be represented. -/
def start (filter : MarkedFilter) (due : Instant) : Instant :=
  ⟨due.seconds - 3600 * (24 * filter.skewDays + filter.skewHours)⟩

def Opposed (filter : MarkedFilter) : Prop :=
  filter.skewDays < 0 ∧ 0 < filter.skewHours ∨ filter.skewHours < 0 ∧ 0 < filter.skewDays

/-- All times on the way to the start are represented. -/
structure Reckoned (filter : MarkedFilter) (due : Instant) : Prop where
  days : Span.Fits (filter.skewDays * 86400)
  hours : Span.Fits (filter.skewHours * 3600)
  sum : Span.Fits (filter.skewDays * 86400 + filter.skewHours * 3600)
  start : (filter.start due).Representable

private theorem start_eq (filter : MarkedFilter) (due : Instant) : filter.start due =
    ⟨due.seconds - (filter.skewDays * 86400 + filter.skewHours * 3600)⟩ := by
  rw [start]
  congr 1
  omega

theorem from?_eq_some_iff {t : Instant} :
    filter.from? due = some t ↔ filter.Reckoned due ∧ t = filter.start due := by
  simp only [from?, Option.bind_eq_bind, Option.bind_eq_some_iff, Span.ofDays?, Span.ofHours?,
    Span.add?, Instant.sub?, Instant.ofSeconds?, Span.ofSeconds?_eq_some_iff,
    Option.ite_none_right_eq_some, Option.some.injEq]
  constructor
  · rintro ⟨days, ⟨hdays, rfl⟩, hours, ⟨hhours, rfl⟩, sum, ⟨hsum, rfl⟩, hstart, rfl⟩
    rw [← start_eq] at hstart ⊢
    exact ⟨⟨hdays, hhours, hsum, hstart⟩, rfl⟩
  · rintro ⟨h, rfl⟩
    have hstart := h.start
    rw [start_eq] at hstart ⊢
    exact ⟨_, ⟨h.days, rfl⟩, _, ⟨h.hours, rfl⟩, _, ⟨h.sum, rfl⟩, hstart, rfl⟩

/-- Without a representation, a filter with opposed days and hours finds every mark, and any other
filter finds those that are due. -/
theorem isDue_iff (hdue : due.Representable) (hnow : now.Representable) :
    filter.isDue due now = true ↔
      filter.start due ≤ now ∨ ¬filter.Reckoned due ∧ filter.Opposed := by
  cases hfrom : filter.from? due with
  | some t =>
    obtain ⟨hreckoned, rfl⟩ := from?_eq_some_iff.1 hfrom
    simp [isDue, hfrom, hreckoned]
  | none =>
    have hunreckoned : ¬filter.Reckoned due := by
      intro h
      rw [from?_eq_some_iff.2 ⟨h, rfl⟩] at hfrom
      cases hfrom
    have hsigns : filter.isDue due now = true ↔ 0 < filter.skewDays ∨ 0 < filter.skewHours := by
      simp [isDue, hfrom]
    rw [hsigns, and_iff_right hunreckoned]
    rw [Instant.representable_iff] at hdue hnow
    -- A start that is not represented lies beyond all instants, on the side that its sign says.
    have hbeyond : ¬(Span.Fits (filter.skewDays * 86400) ∧ Span.Fits (filter.skewHours * 3600) ∧
        Span.Fits (filter.skewDays * 86400 + filter.skewHours * 3600) ∧
        (filter.start due).Representable) :=
      fun ⟨hdays, hhours, hsum, hstart⟩ => hunreckoned ⟨hdays, hhours, hsum, hstart⟩
    rw [Instant.representable_iff] at hbeyond
    change _ ↔ (filter.start due).seconds ≤ now.seconds ∨ _
    simp only [start, Span.Fits, Span.maxSeconds, Opposed] at hbeyond ⊢
    omega

/-- A filter finds a mark with a due date from its start on. Only a filter with opposed days and
hours, and a start that is not reckoned, finds it before that too. -/
theorem accepts_iff_start (filter : MarkedFilter) {tags : TagSet} {due now : Instant}
    (hdue : filter.due? tags = some due) (hnow : now.Representable) :
    filter.accepts tags now = true ↔
      filter.start due ≤ now ∨ ¬filter.Reckoned due ∧ filter.Opposed := by
  have hrepresentable : due.Representable := by
    obtain ⟨value, -, h⟩ := Option.bind_eq_some_iff.1 hdue
    obtain ⟨⟨action, date⟩, -, h⟩ := Option.bind_eq_some_iff.1 h
    exact Due.representable_of_read? (Option.ite_none_right_eq_some.1 h).2
  rw [accepts, hdue]
  exact isDue_iff hrepresentable hnow

def markedForDelete : TagSet :=
  TagSet.empty.insert defaultMarkTag (defaultMarkMessage ++ ": delete@2024/03/10")

/-- Finds marks from far behind their due date, but for an hour. -/
def farBehind : MarkedFilter where
  action := "delete"
  skewDays := -200000000
  skewHours := 1

theorem accepts_iff_start_farBehind :
    farBehind.due? markedForDelete = some ⟨1710028800⟩ ∧ Instant.Representable ⟨0⟩ ∧
    (farBehind.accepts markedForDelete ⟨0⟩ = true ↔
      farBehind.start ⟨1710028800⟩ ≤ ⟨0⟩ ∨
        ¬farBehind.Reckoned ⟨1710028800⟩ ∧ farBehind.Opposed) := by
  have hdue : farBehind.due? markedForDelete = some ⟨1710028800⟩ := by decide
  have hnow : Instant.Representable ⟨0⟩ := by decide
  exact ⟨hdue, hnow, accepts_iff_start farBehind hdue hnow⟩

/-- A filter can find a mark long before its start: here half a million years. -/
theorem accepts_before_start :
    farBehind.due? markedForDelete = some ⟨1710028800⟩ ∧ Instant.Representable ⟨0⟩ ∧
    farBehind.accepts markedForDelete ⟨0⟩ = true ∧ ¬farBehind.start ⟨1710028800⟩ ≤ ⟨0⟩ := by
  refine ⟨by decide, by decide, by decide, by decide⟩

end MarkedFilter

end TagGovernance
