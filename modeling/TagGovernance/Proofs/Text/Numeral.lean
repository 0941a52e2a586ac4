import Mathlib.Algebra.Group.Nat.Defs
import Mathlib.Data.List.Induction
import Mathlib.Data.Nat.Digits.Defs
import TagGovernance.Text.Blank
import TagGovernance.Text.Numeral

/-!
# Numerals read back

A padded numeral consists of digits, which stand for the number that was written, and it fills its
width if the number is not too long for it.

An unsigned number is read from a plus sign, which may be missing, and at least one digit, and from
nothing else. Its value counts every digit by its place, so zeros in front do not matter. Whether the
limit is looked at in the end or after every digit makes no difference, since the number only grows
from digit to digit.
-/

namespace TagGovernance.Text

theorem isBlank_of_isDigit {c : Char} (h : isDigit c = true) : isBlank c = false := by
  simp only [isDigit, Bool.and_eq_true, decide_eq_true_eq, Char.le_def, UInt32.le_iff_toNat_le] at h
  have hlow : 48 ≤ c.toNat := h.1
  have hhigh : c.toNat ≤ 57 := h.2
  simp only [isBlank, Bool.or_eq_false_iff, Bool.and_eq_false_iff, decide_eq_false_iff_not,
    beq_eq_false_iff_ne, ne_eq]
  omega

theorem padded_ne_nil (width n : Nat) : padded width n ≠ [] := by
  simp [padded, Nat.toDigits_ne_nil]

theorem isDigit_of_mem_padded {width n : Nat} {c : Char} (h : c ∈ padded width n) :
    isDigit c = true := by
  rcases List.mem_append.1 h with h | h
  · rw [List.eq_of_mem_replicate h]
    decide
  · exact Nat.isDigit_of_mem_toDigits (by decide) (by decide) h

theorem natOfDigits_padded (width n : Nat) : natOfDigits (padded width n) = n := by
  change Nat.ofDigitChars 10 (padded width n) 0 = n
  rw [padded, Nat.ofDigitChars_append, Nat.ofDigitChars_replicate_zero, Nat.mul_zero]
  exact Nat.ofDigitChars_ten_toDigits

theorem length_padded {width n : Nat} (hwidth : 0 < width) (h : n < 10 ^ width) :
    (padded width n).length = width := by
  have hlength := (Nat.length_toDigits_le_iff (by decide) hwidth).2 h
  simp only [padded, List.length_append, List.length_replicate]
  omega

variable {limit n : Nat} {word : String} {digits : List Char} {c : Char}

/-- The value of digits by their places, of which the last one counts ones. -/
def placeValue (digits : List Char) : Nat := Nat.ofDigits 10 (digits.map digitValue).reverse

/-- At least one ASCII digit, with an optional plus sign in front. -/
def IsNumeral (word : String) (n : Nat) : Prop :=
  ∃ sign digits, word = sign ++ String.ofList digits ∧ (sign = "" ∨ sign = "+") ∧ digits ≠ [] ∧
    (∀ c ∈ digits, '0' ≤ c ∧ c ≤ '9') ∧ n = placeValue digits

theorem isDigit_iff : isDigit c = true ↔ '0' ≤ c ∧ c ≤ '9' := by
  simp [isDigit]

theorem natOfDigits_concat (digits : List Char) (c : Char) :
    natOfDigits (digits ++ [c]) = 10 * natOfDigits digits + digitValue c := List.foldl_append

theorem placeValue_concat (digits : List Char) (c : Char) :
    placeValue (digits ++ [c]) = 10 * placeValue digits + digitValue c := by
  rw [placeValue, List.map_append, List.reverse_append]
  exact Nat.ofDigits_cons.trans (Nat.add_comm ..)

/-- Digits that are read one after the other come to what they count by their places. -/
theorem natOfDigits_eq_placeValue (digits : List Char) : natOfDigits digits = placeValue digits := by
  induction digits using List.reverseRecOn with
  | nil => rfl
  | append_singleton digits c ih => rw [natOfDigits_concat, placeValue_concat, ih]

theorem digits?_eq_some_iff : digits? digits = some n ↔
    digits ≠ [] ∧ (∀ c ∈ digits, '0' ≤ c ∧ c ≤ '9') ∧ n = placeValue digits := by
  simp only [digits?, natOfDigits_eq_placeValue, List.all_eq_true, isDigit_iff]
  split <;> grind

private theorem unsigned?_unsigned (limit : Nat) (word : String) : unsigned? limit word = some n ↔
    digits? (match word.toList with | '+' :: rest => rest | cs => cs) = some n ∧ n ≤ limit := by
  simp only [unsigned?, Option.bind_eq_bind, Option.bind_eq_some_iff]
  constructor
  · rintro ⟨value, hvalue, h⟩
    obtain ⟨hlimit, hsame⟩ := Option.ite_none_right_eq_some.1 h
    obtain rfl := Option.some.inj hsame
    exact ⟨hvalue, hlimit⟩
  · rintro ⟨hvalue, hlimit⟩
    exact ⟨n, hvalue, if_pos hlimit⟩

/-- An unsigned number is read from a numeral whose value is within the limit, and from nothing else. -/
theorem unsigned?_eq_some_iff :
    unsigned? limit word = some n ↔ IsNumeral word n ∧ n ≤ limit := by
  rw [unsigned?_unsigned]
  refine and_congr_left fun _ => ?_
  split
  · rename_i rest hword
    rw [digits?_eq_some_iff]
    constructor
    · rintro ⟨hne, hdigits, hvalue⟩
      refine ⟨"+", rest, String.toList_inj.1 ?_, .inr rfl, hne, hdigits, hvalue⟩
      simp [hword]
    · rintro ⟨sign, digits, rfl, rfl | rfl, hne, hdigits, hvalue⟩
      · -- The sign itself is no digit.
        have hplus := hdigits '+' (by simp_all)
        exact absurd hplus (by decide)
      · obtain rfl : digits = rest := by simpa using hword
        exact ⟨hne, hdigits, hvalue⟩
  · rename_i hbare
    rw [digits?_eq_some_iff]
    constructor
    · rintro ⟨hne, hdigits, hvalue⟩
      exact ⟨"", word.toList, by simp, .inl rfl, hne, hdigits, hvalue⟩
    · rintro ⟨sign, digits, rfl, rfl | rfl, hne, hdigits, hvalue⟩
      · simpa using ⟨hne, hdigits, hvalue⟩
      · exact absurd (by simp) (hbare digits)

def withDigit? (limit n : Nat) (c : Char) : Option Nat :=
  if ('0' ≤ c ∧ c ≤ '9') ∧ 10 * n + digitValue c ≤ limit then some (10 * n + digitValue c) else none

/-- Digits can be read with a look at the limit after each of them. -/
theorem foldlM_withDigit? : digits.foldlM (withDigit? limit) 0 = some n ↔
    (∀ c ∈ digits, '0' ≤ c ∧ c ≤ '9') ∧ n = placeValue digits ∧ n ≤ limit := by
  induction digits using List.reverseRecOn generalizing n with
  | nil =>
    have hvalue : placeValue [] = 0 := rfl
    simp only [List.foldlM_nil, Option.pure_def, Option.some.injEq, hvalue]
    grind
  | append_singleton digits c ih =>
    have hstep : (digits ++ [c]).foldlM (withDigit? limit) 0 =
        (digits.foldlM (withDigit? limit) 0).bind (withDigit? limit · c) := by
      simp [List.foldlM_append]
    simp only [hstep, Option.bind_eq_some_iff, ih, placeValue_concat, List.forall_mem_append,
      List.forall_mem_singleton]
    constructor
    · rintro ⟨_, ⟨hdigits, rfl, -⟩, h⟩
      obtain ⟨⟨hc, hlimit⟩, hsame⟩ := Option.ite_none_right_eq_some.1 h
      obtain rfl := Option.some.inj hsame
      exact ⟨⟨hdigits, hc⟩, rfl, hlimit⟩
    · rintro ⟨⟨hdigits, hc⟩, rfl, hlimit⟩
      exact ⟨placeValue digits, ⟨hdigits, rfl, by omega⟩, if_pos ⟨hc, hlimit⟩⟩

theorem unsigned?_eq_some_iff_foldlM : unsigned? limit word = some n ↔
    ∃ sign digits, word = sign ++ String.ofList digits ∧ (sign = "" ∨ sign = "+") ∧ digits ≠ [] ∧
      digits.foldlM (withDigit? limit) 0 = some n := by
  rw [unsigned?_eq_some_iff]
  constructor
  · rintro ⟨⟨sign, digits, hword, hsign, hne, hdigits, hvalue⟩, hlimit⟩
    exact ⟨sign, digits, hword, hsign, hne, foldlM_withDigit?.2 ⟨hdigits, hvalue, hlimit⟩⟩
  · rintro ⟨sign, digits, hword, hsign, hne, hread⟩
    obtain ⟨hdigits, hvalue, hlimit⟩ := foldlM_withDigit?.1 hread
    exact ⟨⟨sign, digits, hword, hsign, hne, hdigits, hvalue⟩, hlimit⟩

end TagGovernance.Text
