import TagGovernance.Text.Numeral
import TagGovernance.Text.Split

/-!
# Ranges of code points

Sets of code points. A table of code points is written as words with blanks between them, each one a
hexadecimal number or two with a hyphen between them.
-/

namespace TagGovernance.Unicode

/-- A set of code points, as ranges in ascending order with gaps between them. Both ends of a range
are included. -/
structure Ranges where
  bounds : List (Nat × Nat)
  deriving DecidableEq, Repr

/-- The words of a text with blanks and line ends between them. -/
def words (text : String) : List String :=
  let (last, found) := text.toList.foldl
    (fun (word, found) c =>
      if c = ' ' ∨ c = '\n' then
        (if word.isEmpty then ([], found) else ([], String.ofList word.reverse :: found))
      else (c :: word, found))
    (([] : List Char), ([] : List String))
  (if last.isEmpty then found else String.ofList last.reverse :: found).reverse

/-- The number that hexadecimal digits stand for; other characters are passed over. -/
def readHex (word : String) : Nat :=
  word.toList.foldl (fun n c => match Text.hexValue? c with
    | some d => 16 * n + d
    | none => n) 0

namespace Ranges

def maxCodePoint : Nat := 0x10FFFF

def empty : Ranges := ⟨[]⟩

def single (n : Nat) : Ranges := ⟨[(n, n)]⟩

/-- The code points from `first` to `last`. -/
def between (first last : Nat) : Ranges := if first ≤ last then ⟨[(first, last)]⟩ else empty

def readRange (word : String) : Nat × Nat :=
  match Text.splitFirst? '-' word with
  | some (first, last) => (readHex first, readHex last)
  | none => (readHex word, readHex word)

def ofText (text : String) : Ranges := ⟨(words text).map readRange⟩

/-- Whether a code point lies in one of the ranges; those behind it need not be looked at. -/
def containsIn (n : Nat) : List (Nat × Nat) → Bool
  | [] => false
  | (first, last) :: rest => if n < first then false else n ≤ last || containsIn n rest

def contains (r : Ranges) (n : Nat) : Bool := containsIn n r.bounds

/-- Joins ranges that touch; `first` and `last` bound the range in hand. -/
def joinFrom (first last : Nat) : List (Nat × Nat) → List (Nat × Nat)
  | [] => [(first, last)]
  | (a, b) :: rest =>
    if a ≤ last + 1 then joinFrom first (max last b) rest else (first, last) :: joinFrom a b rest

def ofBounds (bounds : List (Nat × Nat)) : Ranges :=
  match bounds.mergeSort (fun x y => x.1 ≤ y.1) with
  | [] => empty
  | (a, b) :: rest => ⟨joinFrom a b rest⟩

def union (r s : Ranges) : Ranges := ofBounds (r.bounds ++ s.bounds)

/-- The gaps from `start` on. -/
def gapsFrom (start : Nat) : List (Nat × Nat) → List (Nat × Nat)
  | [] => if start ≤ maxCodePoint then [(start, maxCodePoint)] else []
  | (a, b) :: rest =>
    if start < a then (start, a - 1) :: gapsFrom (b + 1) rest else gapsFrom (b + 1) rest

def complement (r : Ranges) : Ranges := ⟨gapsFrom 0 r.bounds⟩

def inter (r s : Ranges) : Ranges := (r.complement.union s.complement).complement

def diff (r s : Ranges) : Ranges := r.inter s.complement

def symmDiff (r s : Ranges) : Ranges := (r.diff s).union (s.diff r)

def unions (rs : List Ranges) : Ranges := ofBounds (rs.flatMap bounds)

/-- Whether there are only code points up to a limit. -/
def isBelow (limit : Nat) (r : Ranges) : Bool := r.bounds.all fun b => b.2 ≤ limit

end Ranges

end TagGovernance.Unicode
