/-!
# White space

The characters with the Unicode property `White_Space`, and trimming them off a text.
-/

namespace TagGovernance.Text

/-- Whether a character is Unicode white space. -/
def isBlank (c : Char) : Bool :=
  let n := c.toNat
  (9 ≤ n && n ≤ 13) || n == 0x20 || n == 0x85 || n == 0xA0 || n == 0x1680 ||
    (0x2000 ≤ n && n ≤ 0x200A) || n == 0x2028 || n == 0x2029 || n == 0x202F || n == 0x205F ||
    n == 0x3000

def trimStartChars (cs : List Char) : List Char := cs.dropWhile isBlank

def trimChars (cs : List Char) : List Char :=
  (trimStartChars (trimStartChars cs).reverse).reverse

def trim (s : String) : String := String.ofList (trimChars s.toList)

theorem trimStartChars_eq_self {cs : List Char} (h : ∀ c ∈ cs.head?, isBlank c = false) :
    trimStartChars cs = cs := by
  cases cs with
  | nil => rfl
  | cons c r => simp [trimStartChars, h c (by simp)]

theorem trimChars_eq_self {cs : List Char} (hfirst : ∀ c ∈ cs.head?, isBlank c = false)
    (hlast : ∀ c ∈ cs.getLast?, isBlank c = false) : trimChars cs = cs := by
  simp only [trimChars, trimStartChars_eq_self hfirst]
  rw [trimStartChars_eq_self (by simpa using hlast), List.reverse_reverse]

theorem mem_of_mem_trimChars {c : Char} {cs : List Char} (h : c ∈ trimChars cs) : c ∈ cs := by
  have hinner := (List.dropWhile_sublist _).subset (List.mem_reverse.1 h)
  exact (List.dropWhile_sublist _).subset (List.mem_reverse.1 hinner)

/-- A trimmed text does not begin with white space. -/
theorem isBlank_head_trimChars {cs : List Char} : ∀ c ∈ (trimChars cs).head?, isBlank c = false := by
  intro c hc
  obtain ⟨tail, htail⟩ := List.dropWhile_suffix isBlank (l := (trimStartChars cs).reverse)
  have hstart : trimStartChars cs = trimChars cs ++ tail.reverse := by
    rw [trimChars, ← List.reverse_append]
    exact List.reverse_eq_iff.1 htail.symm
  have hhead : (trimStartChars cs).head? = some c := by
    rw [hstart, List.head?_append, Option.mem_def.1 hc, Option.some_or]
  have hfirst := List.head?_dropWhile_not isBlank cs
  rw [← trimStartChars, hhead] at hfirst
  exact hfirst

end TagGovernance.Text
