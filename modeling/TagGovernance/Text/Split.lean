/-!
# Cutting text at a character

A text is cut at the first or the last place where a character stands, or at all of them.
`splitFirst?_eq_some_iff` says that the first cut is the only one whose left part is free of the
character, and `splitLast?_eq_some_iff` that the last one is the only one whose right part is.
-/

namespace TagGovernance.Text

def splitChars? (c : Char) : List Char → Option (List Char × List Char)
  | [] => none
  | x :: rest => if x = c then some ([], rest)
    else (splitChars? c rest).map fun parts => (x :: parts.1, parts.2)

theorem splitChars?_eq_some_iff {c : Char} {s a b : List Char} :
    splitChars? c s = some (a, b) ↔ s = a ++ c :: b ∧ c ∉ a := by
  induction s generalizing a with
  | nil => simp [splitChars?]
  | cons x rest ih =>
    simp only [splitChars?]
    split
    · subst x
      constructor
      · rintro h
        simp only [Option.some.injEq, Prod.mk.injEq] at h
        obtain ⟨rfl, rfl⟩ := h
        simp
      · rintro ⟨h, hc⟩
        cases a with
        | nil => simpa using h
        | cons y a => simp_all
    · rename_i hx
      simp only [Option.map_eq_some_iff, Prod.exists, Prod.mk.injEq]
      constructor
      · rintro ⟨a', b', h, rfl, rfl⟩
        obtain ⟨rfl, hc⟩ := ih.1 h
        simp [hc, Ne.symm hx]
      · rintro ⟨h, hc⟩
        cases a with
        | nil => simp_all
        | cons y a =>
          simp only [List.cons_append, List.cons.injEq, List.mem_cons, not_or] at h hc
          exact ⟨a, b, ih.2 ⟨h.2, hc.2⟩, by simp [h.1], rfl⟩

/-- The parts before and behind the first `c`. -/
def splitFirst? (c : Char) (s : String) : Option (String × String) :=
  (splitChars? c s.toList).map fun parts => (String.ofList parts.1, String.ofList parts.2)

/-- The parts before and behind the last `c`. -/
def splitLast? (c : Char) (s : String) : Option (String × String) :=
  (splitChars? c s.toList.reverse).map fun parts =>
    (String.ofList parts.2.reverse, String.ofList parts.1.reverse)

theorem splitFirst?_eq_some_iff {c : Char} {s a b : String} :
    splitFirst? c s = some (a, b) ↔ s = a ++ String.singleton c ++ b ∧ c ∉ a.toList := by
  simp only [splitFirst?, Option.map_eq_some_iff, Prod.exists, splitChars?_eq_some_iff,
    Prod.mk.injEq]
  constructor
  · rintro ⟨x, y, ⟨hs, hc⟩, rfl, rfl⟩
    refine ⟨String.toList_inj.1 ?_, by simpa using hc⟩
    simp [hs]
  · rintro ⟨rfl, hc⟩
    exact ⟨a.toList, b.toList, ⟨by simp, hc⟩, by simp, by simp⟩

theorem splitLast?_eq_some_iff {c : Char} {s a b : String} :
    splitLast? c s = some (a, b) ↔ s = a ++ String.singleton c ++ b ∧ c ∉ b.toList := by
  simp only [splitLast?, Option.map_eq_some_iff, Prod.exists, splitChars?_eq_some_iff,
    Prod.mk.injEq]
  constructor
  · rintro ⟨x, y, ⟨hs, hc⟩, rfl, rfl⟩
    refine ⟨String.toList_inj.1 ?_, by simpa using hc⟩
    rw [List.reverse_eq_iff.1 hs]
    simp
  · rintro ⟨rfl, hc⟩
    exact ⟨b.toList.reverse, a.toList.reverse, ⟨by simp, by simpa using hc⟩, by simp, by simp⟩

/-- The pieces between the places where `c` stands; there is always one more than such places. -/
def piecesOf (c : Char) : List Char → List (List Char)
  | [] => [[]]
  | x :: rest =>
    if x = c then [] :: piecesOf c rest
    else match piecesOf c rest with
      | [] => [[x]]
      | piece :: pieces => (x :: piece) :: pieces

def pieces (c : Char) (s : String) : List String := (piecesOf c s.toList).map String.ofList

/-- What follows `start`, if the text begins with it. -/
def afterStart? (start s : String) : Option String :=
  if start.toList.isPrefixOf s.toList then some (String.ofList (s.toList.drop start.toList.length))
  else none

theorem afterStart?_eq_some_iff {start s rest : String} :
    afterStart? start s = some rest ↔ s = start ++ rest := by
  simp only [afterStart?]
  split
  · rename_i h
    obtain ⟨t, ht⟩ := List.isPrefixOf_iff_prefix.1 h
    simp only [← ht, List.drop_left, Option.some.injEq]
    constructor
    · rintro rfl
      exact String.toList_inj.1 (by simp [ht])
    · rintro rfl
      exact String.toList_inj.1 (by simpa using ht)
  · rename_i h
    simp only [reduceCtorEq, false_iff]
    rintro rfl
    exact h (List.isPrefixOf_iff_prefix.2 (by simp))

def endsWith (s ending : String) : Bool := ending.toList.isSuffixOf s.toList

end TagGovernance.Text
