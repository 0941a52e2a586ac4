import TagGovernance.Calendar.Due
import TagGovernance.Proofs.Calendar.Date
import TagGovernance.Proofs.Text.Numeral

/-!
# Due dates read back

A date that was written with slashes is read as itself, whatever its year. What is read at all is an
instant that is represented.
-/

namespace TagGovernance

namespace Instant

theorem day_atTime (d : Date) {hour minute : Nat} (hhour : hour ≤ 23) (hminute : minute ≤ 59) :
    (atTime d hour minute).day = d.toDays := by
  simp only [day, atTime]
  omega

theorem representable_atTime {d : Date} (h : d.Valid) {hour minute : Nat} (hhour : hour ≤ 23)
    (hminute : minute ≤ 59) : (atTime d hour minute).Representable := by
  rw [Representable, day_atTime d hhour hminute]
  exact h.toDays_range

theorem Representable.valid_date {t : Instant} (h : t.Representable) : t.date.Valid :=
  Date.valid_ofDays h.1 h.2

end Instant

namespace Due

variable {digits rest : List Char}

/-- Digits that fit the width are read up to what is no digit. -/
theorem number?_append {width : Nat} (hdigits : ∀ c ∈ digits, Text.isDigit c = true)
    (hne : digits ≠ []) (hwidth : digits.length ≤ width)
    (hrest : ∀ c ∈ rest.head?, Text.isDigit c = false) :
    number? width (digits ++ rest) = some (Text.natOfDigits digits, rest) := by
  have hnone : (rest.take (width - digits.length)).takeWhile Text.isDigit = [] := by
    cases rest with
    | nil => simp
    | cons c rest =>
      have hc := hrest c rfl
      cases width - digits.length <;> simp [hc]
  have hread : ((digits ++ rest).take width).takeWhile Text.isDigit = digits := by
    rw [List.take_append, List.take_of_length_le hwidth, List.takeWhile_append_of_pos hdigits, hnone,
      List.append_nil]
  simp [number?, hread, hne]

private theorem number?_padded {width limit n : Nat} (hwidth : (Text.padded width n).length ≤ limit)
    (hrest : ∀ c ∈ rest.head?, Text.isDigit c = false) :
    number? limit (Text.padded width n ++ rest) = some (n, rest) := by
  rw [number?_append (fun _ => Text.isDigit_of_mem_padded) (Text.padded_ne_nil width n) hwidth hrest,
    Text.natOfDigits_padded]

private theorem trimStart_of_digit {c : Char} (h : Text.isDigit c = true) :
    Text.trimStartChars (c :: rest) = c :: rest := by
  simp [Text.trimStartChars, Text.isBlank_of_isDigit h]

private theorem padded_eq_cons (width n : Nat) :
    ∃ c digits, Text.padded width n = c :: digits ∧ Text.isDigit c = true := by
  obtain ⟨c, digits, hpadded⟩ := List.exists_cons_of_ne_nil (Text.padded_ne_nil width n)
  exact ⟨c, digits, hpadded, Text.isDigit_of_mem_padded (hpadded ▸ List.mem_cons_self)⟩

private theorem trimStart_padded (width n : Nat) :
    Text.trimStartChars (Text.padded width n ++ rest) = Text.padded width n ++ rest := by
  obtain ⟨c, digits, hpadded, hc⟩ := padded_eq_cons width n
  rw [hpadded, List.cons_append, trimStart_of_digit hc]

theorem twoDigits?_padded {n : Nat} (h : n < 100)
    (hrest : ∀ c ∈ rest.head?, Text.isDigit c = false) :
    twoDigits? (Text.padded 2 n ++ rest) = some (n, rest) := by
  rw [twoDigits?, trimStart_padded]
  exact number?_padded (Text.length_padded (by decide) h).le hrest

private theorem year?_minus (cs : List Char) :
    year? ('-' :: cs) = (number? cs.length cs).map fun p => (-(p.1 : Int), p.2) := rfl

private theorem year?_plus (cs : List Char) :
    year? ('+' :: cs) = (number? cs.length cs).map fun p => ((p.1 : Int), p.2) := rfl

theorem year?_yearText (year : Int) (hrest : ∀ c ∈ rest.head?, Text.isDigit c = false) :
    year? (Date.yearText year ++ rest) = some (year, rest) := by
  unfold Date.yearText
  split
  · rename_i hyear
    have hread : number? 4 (Text.padded 4 year.toNat ++ rest) = some (year.toNat, rest) :=
      number?_padded (Text.length_padded (by decide) (by omega)).le hrest
    obtain ⟨c, digits, hpadded, hc⟩ := padded_eq_cons 4 year.toNat
    rw [hpadded, List.cons_append] at hread ⊢
    rw [year?, trimStart_of_digit hc]
    -- The first character is a digit and no sign.
    split
    · rename_i heq
      obtain rfl := (List.cons.inj heq).1
      exact absurd hc (by decide)
    · rename_i heq
      obtain rfl := (List.cons.inj heq).1
      exact absurd hc (by decide)
    · simp only [hread, Option.map_some, Int.toNat_of_nonneg hyear.1]
  · rename_i hyear
    have hread : number? (Text.padded 4 year.natAbs ++ rest).length
        (Text.padded 4 year.natAbs ++ rest) = some (year.natAbs, rest) :=
      number?_padded (by simp) hrest
    split
    · rename_i hneg
      rw [List.cons_append, year?_minus, hread, Option.map_some,
        Int.ofNat_natAbs_of_nonpos hneg.le, Int.neg_neg]
    · rename_i hpos
      rw [List.cons_append, year?_plus, hread, Option.map_some,
        Int.natAbs_of_nonneg (Int.not_lt.1 hpos)]

/-- A written date is read back, and nothing is left. -/
theorem date?_render {d : Date} (h : d.Valid) : date? (d.render '/') = some (d, []) := by
  have hslash (cs : List Char) : ∀ c ∈ ('/' :: cs).head?, Text.isDigit c = false := by
    rintro c ⟨⟩
    decide
  have hmonth : d.month < 100 := by have := h.2.2.2.1; omega
  have hday : d.day < 100 := by
    have := h.2.2.2.2.2.trans (Date.daysInMonth_le d.year d.month)
    omega
  have hlast : twoDigits? (Text.padded 2 d.day) = some (d.day, []) := by
    rw [← List.append_nil (Text.padded 2 d.day)]
    exact twoDigits?_padded hday nofun
  simp [date?, Date.render, year?_yearText d.year (hslash _), sign?,
    twoDigits?_padded hmonth (hslash _), hlast, h]

theorem read?_render {d : Date} (h : d.Valid) :
    read? (d.render '/') = some (Instant.atTime d 0 0) := by
  simp [read?, date?_render h]

theorem representable_of_read? {cs : List Char} {due : Instant} (h : read? cs = some due) :
    due.Representable := by
  obtain ⟨⟨date, rest⟩, hdate, h⟩ := Option.bind_eq_some_iff.1 h
  have hvalid : date.Valid := by
    obtain ⟨year, -, hdate⟩ := Option.bind_eq_some_iff.1 hdate
    obtain ⟨behindYear, -, hdate⟩ := Option.bind_eq_some_iff.1 hdate
    obtain ⟨month, -, hdate⟩ := Option.bind_eq_some_iff.1 hdate
    obtain ⟨behindMonth, -, hdate⟩ := Option.bind_eq_some_iff.1 hdate
    obtain ⟨day, -, hdate⟩ := Option.bind_eq_some_iff.1 hdate
    obtain ⟨hvalid, hdate⟩ := Option.ite_none_right_eq_some.1 hdate
    obtain ⟨rfl, -⟩ := Prod.mk.inj (Option.some.inj hdate)
    exact hvalid
  dsimp only at h
  split at h
  · obtain rfl := Option.some.inj h
    exact Instant.representable_atTime hvalid (by decide) (by decide)
  · obtain ⟨⟨hour, minute⟩, htime, h⟩ := Option.bind_eq_some_iff.1 h
    obtain rfl := Option.some.inj h
    obtain ⟨hours, -, htime⟩ := Option.bind_eq_some_iff.1 htime
    obtain ⟨minutes, -, htime⟩ := Option.bind_eq_some_iff.1 htime
    obtain ⟨⟨-, hhour, hminute⟩, htime⟩ := Option.ite_none_right_eq_some.1 htime
    obtain ⟨rfl, rfl⟩ := Prod.mk.inj (Option.some.inj htime)
    exact Instant.representable_atTime hvalid hhour hminute

end Due

end TagGovernance
