import TagGovernance.CommandLine.Value
import TagGovernance.Proofs.Text.Numeral

/-!
# Which words are values

A tag is cut at its first equals sign and a mark at its first colon, so what stands in front of the
cut is free of the sign and what stands behind it is anything. Days and the number of resources at
once are numerals within the limits of their widths. A word of any other form is refused.
-/

namespace TagGovernance.CommandLine

variable {word key value action : String} {days n : Nat}

theorem readTag_eq_ok_iff : readTag word = .ok (key, value) ↔
    word = key ++ "=" ++ value ∧ key ≠ "" ∧ '=' ∉ key.toList := by
  have hcut : Text.splitFirst? '=' word = some (key, value) ↔
      word = key ++ "=" ++ value ∧ '=' ∉ key.toList := Text.splitFirst?_eq_some_iff
  rw [and_left_comm, ← hcut, readTag]
  cases Text.splitFirst? '=' word with
  | none => simp
  | some parts =>
    obtain ⟨k, v⟩ := parts
    dsimp only
    split <;> grind

theorem readMark_eq_ok_iff : readMark word = .ok (action, days) ↔
    ∃ numeral, word = action ++ ":" ++ numeral ∧ ':' ∉ action.toList ∧
      Text.IsNumeral numeral days ∧ days ≤ 4294967295 := by
  have hcut (numeral : String) : Text.splitFirst? ':' word = some (action, numeral) ↔
      word = action ++ ":" ++ numeral ∧ ':' ∉ action.toList := Text.splitFirst?_eq_some_iff
  have hdays (numeral : String) : Text.unsigned? Text.maxU32 numeral = some days ↔
      Text.IsNumeral numeral days ∧ days ≤ 4294967295 := Text.unsigned?_eq_some_iff
  simp only [← and_assoc, ← hcut]
  simp only [and_assoc, ← hdays]
  rw [readMark]
  cases Text.splitFirst? ':' word with
  | none => simp
  | some parts =>
    obtain ⟨a, numeral⟩ := parts
    dsimp only
    cases hread : Text.unsigned? Text.maxU32 numeral <;> grind

theorem readConcurrency_eq_ok_iff : readConcurrency word = .ok n ↔
    Text.IsNumeral word n ∧ 1 ≤ n ∧ n ≤ 2 ^ 64 - 1 := by
  have hnumber : Text.unsigned? Text.maxU64 word = some n ↔
      Text.IsNumeral word n ∧ n ≤ 2 ^ 64 - 1 := Text.unsigned?_eq_some_iff
  rw [and_left_comm, ← hnumber, readConcurrency]
  cases Text.unsigned? Text.maxU64 word with
  | none => simp
  | some number =>
    cases number with
    | zero => simp; omega
    | succ number => simp; omega

/-- The values of options are just the words of their forms. A tag has a key that is not empty in
front of its first equals sign. A mark has an action, which may be empty, in front of its first colon,
and behind it a numeral of at most 32 bits. A number of resources at once is a numeral of at most 64
bits that is not zero. Numerals may have any number of zeros in front, and come to the same number if
they are read digit by digit within their limit. -/
theorem values_grammar (word : String) :
    (∀ key value, readTag word = .ok (key, value) ↔
      word = key ++ "=" ++ value ∧ key ≠ "" ∧ '=' ∉ key.toList) ∧
    (∀ action days, readMark word = .ok (action, days) ↔
      ∃ numeral, word = action ++ ":" ++ numeral ∧ ':' ∉ action.toList ∧
        Text.IsNumeral numeral days ∧ days ≤ 4294967295) ∧
    (∀ n, readConcurrency word = .ok n ↔ Text.IsNumeral word n ∧ 1 ≤ n ∧ n ≤ 2 ^ 64 - 1) ∧
    ∀ limit n, Text.unsigned? limit word = some n ↔
      ∃ sign digits, word = sign ++ String.ofList digits ∧ (sign = "" ∨ sign = "+") ∧ digits ≠ [] ∧
        digits.foldlM (Text.withDigit? limit) 0 = some n :=
  ⟨fun _ _ => readTag_eq_ok_iff, fun _ _ => readMark_eq_ok_iff, fun _ => readConcurrency_eq_ok_iff,
    fun _ _ => Text.unsigned?_eq_some_iff_foldlM⟩

end TagGovernance.CommandLine
