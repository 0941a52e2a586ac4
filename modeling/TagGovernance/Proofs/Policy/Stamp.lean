import TagGovernance.Proofs.Policy.Skew
import TagGovernance.Proofs.Tag.Payload

/-!
# Marks are found by their action

The value of a mark is put together from message, action and date, and taken apart again at the last
colon and the first at-sign behind it. An action that can be read out of a value at all has neither
of these characters and does not begin with white space. Marks for such actions are found again,
with the date that was written, whatever the message is. Marks for other actions are never found.
-/

namespace TagGovernance

theorem Date.mem_render {d : Date} {c separator : Char} (h : c ∈ d.render separator) :
    Text.isDigit c = true ∨ c = '-' ∨ c = '+' ∨ c = separator := by
  simp only [render, yearText, List.mem_append, List.mem_cons] at h
  rcases h with (h | rfl | h) | rfl | h
  · split at h
    · exact .inl (Text.isDigit_of_mem_padded h)
    · rcases List.mem_cons.1 h with rfl | h
      · split <;> simp
      · exact .inl (Text.isDigit_of_mem_padded h)
  · simp
  · exact .inl (Text.isDigit_of_mem_padded h)
  · simp
  · exact .inl (Text.isDigit_of_mem_padded h)

theorem Date.plain_render {d : Date} {c : Char} (h : c ∈ d.render '/') :
    Text.isBlank c = false ∧ c ≠ ':' := by
  rcases mem_render h with h | rfl | rfl | rfl
  · refine ⟨Text.isBlank_of_isDigit h, ?_⟩
    rintro rfl
    exact absurd h (by decide)
  · decide
  · decide
  · decide

namespace MarkedFilter

/-- An action that can be told from what stands around it in the value of a mark. -/
structure Nameable (action : String) : Prop where
  colon : ':' ∉ action.toList
  atSign : '@' ∉ action.toList
  blank : ∀ c ∈ action.toList.head?, Text.isBlank c = false

theorem nameable_of_parts? {value action date : String} (h : parts? value = some (action, date)) :
    Nameable action := by
  obtain ⟨⟨front, behind⟩, hlast, h⟩ := Option.bind_eq_some_iff.1 h
  obtain ⟨⟨found, rest⟩, hfirst, h⟩ := Option.bind_eq_some_iff.1 h
  obtain ⟨rfl, -⟩ := Prod.mk.inj (Option.some.inj h)
  obtain ⟨-, hcolon⟩ := Text.splitLast?_eq_some_iff.1 hlast
  obtain ⟨htrim, hat⟩ := Text.splitFirst?_eq_some_iff.1 hfirst
  have hchars : Text.trimChars behind.toList = found.toList ++ '@' :: rest.toList := by
    have := congrArg String.toList htrim
    simpa [Text.trim] using this
  refine ⟨fun hmem => hcolon ?_, hat, fun c hc => ?_⟩
  · apply Text.mem_of_mem_trimChars
    rw [hchars]
    exact List.mem_append_left _ hmem
  · apply Text.isBlank_head_trimChars
    rw [hchars, List.head?_append, Option.mem_def.1 hc]
    rfl

end MarkedFilter

namespace Mark

variable {mark : Mark} {d : Date}

private theorem trim_render (d : Date) :
    Text.trim (String.ofList (d.render '/')) = String.ofList (d.render '/') := by
  rw [Text.trim, String.toList_ofList, Text.trimChars_eq_self]
  · exact fun c hc => (Date.plain_render (List.mem_of_mem_head? hc)).1
  · exact fun c hc => (Date.plain_render (List.mem_of_mem_getLast? hc)).1

private theorem trim_target (h : MarkedFilter.Nameable mark.action) :
    Text.trim (" " ++ mark.action ++ "@" ++ String.ofList (d.render '/')) =
      mark.action ++ "@" ++ String.ofList (d.render '/') := by
  have htrim : Text.trimChars (mark.action.toList ++ '@' :: d.render '/') =
      mark.action.toList ++ '@' :: d.render '/' := by
    refine Text.trimChars_eq_self (fun c hc => ?_) fun c hc => ?_
    · rw [List.head?_append, Option.mem_def, Option.or_eq_some_iff] at hc
      rcases hc with hc | ⟨-, hc⟩
      · exact h.blank c hc
      · cases hc
        decide
    · rw [List.getLast?_append, List.getLast?_cons, Option.some_or, ← List.getLast?_cons] at hc
      rcases List.mem_cons.1 (List.mem_of_mem_getLast? hc) with rfl | hc
      · decide
      · exact (Date.plain_render hc).1
  have hspace (cs : List Char) : Text.trimChars (' ' :: cs) = Text.trimChars cs := rfl
  refine String.toList_inj.1 ?_
  simpa [Text.trim, hspace] using htrim

/-- An action that can be named is read out of the value of a mark, and its date too. -/
theorem parts?_value (d : Date) (h : MarkedFilter.Nameable mark.action) :
    MarkedFilter.parts? (mark.value d) = some (mark.action, String.ofList (d.render '/')) := by
  have hlast : Text.splitLast? ':' (mark.value d) =
      some (mark.message, " " ++ mark.action ++ "@" ++ String.ofList (d.render '/')) := by
    refine Text.splitLast?_eq_some_iff.2 ⟨String.toList_inj.1 (by simp [value]), ?_⟩
    have hdate : ':' ∉ d.render '/' := fun hmem => (Date.plain_render hmem).2 rfl
    simp [h.colon, hdate]
  have hfirst : Text.splitFirst? '@' (mark.action ++ "@" ++ String.ofList (d.render '/')) =
      some (mark.action, String.ofList (d.render '/')) :=
    Text.splitFirst?_eq_some_iff.2 ⟨rfl, h.atSign⟩
  simp only [MarkedFilter.parts?, Option.bind_eq_bind, hlast, Option.bind_some, trim_target h,
    hfirst, trim_render]

theorem due?_eq_some {now due : Instant} (h : mark.due? now = some due) :
    due.Representable ∧ due.seconds = now.seconds + mark.days * 86400 := by
  simp only [due?, Span.ofDays?, Instant.add?, Instant.ofSeconds?, Option.bind_eq_bind,
    Option.bind_eq_some_iff, Span.ofSeconds?_eq_some_iff, Option.ite_none_right_eq_some,
    Option.some.injEq] at h
  obtain ⟨_, ⟨-, rfl⟩, hrepresentable, rfl⟩ := h
  exact ⟨hrepresentable, rfl⟩

def stamp (mark : Mark) (now : Instant) : Option Instant → Except Failure TagSet
  | some due => .ok (TagSet.empty.insert mark.tag (mark.value due.date))
  | none => .error (.mark ⟨mark.days, now⟩)

theorem tagsAt_eq (mark : Mark) (now : Instant) :
    mark.tagsAt now = mark.stamp now (mark.due? now) := rfl

/-- A mark is one tag, or has no due date. -/
theorem tagsAt_cases (mark : Mark) (now : Instant) :
    (∃ value, mark.tagsAt now = .ok (TagSet.empty.insert mark.tag value)) ∨
      mark.tagsAt now = .error (.mark ⟨mark.days, now⟩) := by
  -- Through stamp the due date is a variable: nothing tries to compute it.
  rw [tagsAt_eq]
  cases mark.due? now with
  | none => exact .inr rfl
  | some due => exact .inl ⟨mark.value due.date, rfl⟩

/-- Only a mark whose key is the empty one writes that key. -/
theorem tagsAt_has_empty {now : Instant} {stamp : TagSet} (h : mark.tagsAt now = .ok stamp) :
    stamp.has "" = true ↔ mark.tag = "" := by
  rcases mark.tagsAt_cases now with ⟨value, hok⟩ | herror
  · obtain rfl := Except.ok.inj (hok.symm.trans h)
    rw [TagSet.has_insert]
    simp [TagSet.has]
  · rw [herror] at h
    cases h

theorem tagsAt_eq_ok {now : Instant} {stamp : TagSet} (h : mark.tagsAt now = .ok stamp) :
    ∃ due : Instant, due.Representable ∧ due.seconds = now.seconds + 86400 * mark.days ∧
      stamp = TagSet.empty.insert mark.tag (mark.value due.date) := by
  rw [tagsAt_eq] at h
  cases hdue : mark.due? now with
  | some due =>
    obtain ⟨hrepresentable, hseconds⟩ := due?_eq_some hdue
    rw [hdue] at h
    exact ⟨due, hrepresentable, by omega, (Except.ok.inj h).symm⟩
  | none =>
    rw [hdue] at h
    cases h

/-- A filter for the action of a mark reads the date of the mark if the action can be named, and
nothing otherwise. -/
theorem due?_stamp (mark : Mark) (filter : MarkedFilter) (htag : filter.tag = mark.tag)
    (haction : filter.action = mark.action) (hd : d.Valid) (due : Instant) :
    filter.due? (TagSet.empty.insert mark.tag (mark.value d)) = some due ↔
      MarkedFilter.Nameable mark.action ∧ due = Instant.atTime d 0 0 := by
  have hvalue : (TagSet.empty.insert mark.tag (mark.value d)).get? filter.tag =
      some (mark.value d) := by
    rw [TagSet.get?_insert, if_pos htag.symm]
  simp only [MarkedFilter.due?, Option.bind_eq_bind, hvalue, Option.bind_some]
  constructor
  · intro h
    obtain ⟨⟨action, date⟩, hparts, h⟩ := Option.bind_eq_some_iff.1 h
    obtain ⟨rfl, hread⟩ := Option.ite_none_right_eq_some.1 h
    have hnameable := haction ▸ MarkedFilter.nameable_of_parts? hparts
    rw [parts?_value d hnameable] at hparts
    obtain ⟨-, rfl⟩ := Prod.mk.inj (Option.some.inj hparts)
    rw [String.toList_ofList, Due.read?_render hd] at hread
    exact ⟨hnameable, (Option.some.inj hread).symm⟩
  · rintro ⟨hnameable, rfl⟩
    rw [parts?_value d hnameable, Option.bind_some, if_pos haction.symm, String.toList_ofList,
      Due.read?_render hd]

/-- A mark is found by a filter for its tag and action, some days early, just if the action has no
colon and no at-sign and does not begin with white space, and that many days before the midnight of
the due date has come. The message does not matter. -/
theorem accepts_stamp_iff (mark : Mark) {made now : Instant} {stamp : TagSet}
    (hstamp : mark.tagsAt made = .ok stamp) (skew : Int) (hnow : now.Representable) :
    MarkedFilter.accepts { tag := mark.tag, action := mark.action, skewDays := skew } stamp
      now = true ↔
      (':' ∉ mark.action.toList ∧ '@' ∉ mark.action.toList ∧
        ∀ c ∈ mark.action.toList.head?, Text.isBlank c = false) ∧
      86400 * ((made.seconds + 86400 * mark.days) / 86400 - skew) ≤ now.seconds := by
  obtain ⟨due, hdue, hseconds, rfl⟩ := tagsAt_eq_ok hstamp
  have hread := due?_stamp mark { tag := mark.tag, action := mark.action, skewDays := skew } rfl rfl
    hdue.valid_date
  rw [MarkedFilter.accepts]
  split
  · rename_i found hfound
    obtain ⟨⟨hcolon, hat, hblank⟩, rfl⟩ := (hread found).1 hfound
    have hmidnight := Instant.representable_atTime hdue.valid_date (Nat.zero_le 23) (Nat.zero_le 59)
    have hopposed : ¬MarkedFilter.Opposed
        { tag := mark.tag, action := mark.action, skewDays := skew } := by
      simp [MarkedFilter.Opposed]
    have hdays : due.date.toDays = due.seconds / 86400 := Date.toDays_ofDays _
    have hstart : MarkedFilter.start { tag := mark.tag, action := mark.action, skewDays := skew }
          (Instant.atTime due.date 0 0) ≤ now ↔
        86400 * ((made.seconds + 86400 * mark.days) / 86400 - skew) ≤ now.seconds := by
      change (MarkedFilter.start _ _).seconds ≤ now.seconds ↔ _
      simp only [MarkedFilter.start, Instant.atTime, hdays, hseconds]
      omega
    rw [MarkedFilter.isDue_iff hmidnight hnow, or_iff_left fun h => hopposed h.2, hstart]
    exact (and_iff_right ⟨hcolon, hat, hblank⟩).symm
  · rename_i hnone
    refine iff_of_false Bool.false_ne_true ?_
    rintro ⟨⟨hcolon, hat, hblank⟩, -⟩
    rw [(hread _).2 ⟨⟨hcolon, hat, hblank⟩, rfl⟩] at hnone
    cases hnone

/-- A mark whose message has a colon, an at-sign and a date of its own. -/
def intricate : Mark where
  tag := "due"
  action := "stop it"
  days := 1
  message := "see: a@2024/01/01"

/-- It is made on the last day of the year 9999 and due on the first of the year 10000. -/
theorem accepts_stamp_iff_intricate : ∃ stamp,
    intricate.tagsAt ⟨253402300799⟩ = .ok stamp ∧ Instant.Representable ⟨253402300800⟩ ∧
    (MarkedFilter.accepts { tag := "due", action := "stop it", skewDays := 0 } stamp
        ⟨253402300800⟩ = true ↔
      (':' ∉ "stop it".toList ∧ '@' ∉ "stop it".toList ∧
        ∀ c ∈ "stop it".toList.head?, Text.isBlank c = false) ∧
      86400 * (((253402300799 : Int) + 86400 * 1) / 86400 - 0) ≤ 253402300800) := by
  have hdue : intricate.due? ⟨253402300799⟩ = some ⟨253402387199⟩ := by decide
  have hstamp : intricate.tagsAt ⟨253402300799⟩ =
      .ok (TagSet.empty.insert "due" (intricate.value ⟨10000, 1, 1⟩)) := by
    have hdate : Instant.date ⟨253402387199⟩ = ⟨10000, 1, 1⟩ := by decide
    rw [tagsAt_eq, hdue, ← hdate]
    rfl
  have hnow : Instant.Representable ⟨253402300800⟩ := by decide
  exact ⟨_, hstamp, hnow, accepts_stamp_iff intricate hstamp 0 hnow⟩

end Mark

end TagGovernance
