/-!
# Numerals

Decimal and hexadecimal digits, and unsigned numerals of a bounded size: an optional plus sign,
then at least one ASCII digit.
-/

namespace TagGovernance.Text

def isDigit (c : Char) : Bool := '0' ≤ c && c ≤ '9'

def digitValue (c : Char) : Nat := c.toNat - '0'.toNat

def hexValue? (c : Char) : Option Nat :=
  if isDigit c then some (digitValue c)
  else if 'a' ≤ c && c ≤ 'f' then some (c.toNat - 'a'.toNat + 10)
  else if 'A' ≤ c && c ≤ 'F' then some (c.toNat - 'A'.toNat + 10)
  else none

/-- The number that digits stand for, most significant first. -/
def natOfDigits (cs : List Char) : Nat := cs.foldl (fun n c => 10 * n + digitValue c) 0

/-- A number written with ASCII digits alone. -/
def digits? (cs : List Char) : Option Nat :=
  if cs ≠ [] ∧ cs.all isDigit then some (natOfDigits cs) else none

/-- An unsigned number that is at most `limit`; a plus sign may stand before it. -/
def unsigned? (limit : Nat) (s : String) : Option Nat := do
  let n ← digits? (match s.toList with
    | '+' :: rest => rest
    | cs => cs)
  if n ≤ limit then some n else none

/-- A number with an optional sign between `- limit - 1` and `limit`. -/
def signed? (limit : Nat) (s : String) : Option Int :=
  match s.toList with
  | '-' :: rest => do
    let n ← digits? rest
    if n ≤ limit + 1 then some (-n) else none
  | _ => (unsigned? limit s).map Int.ofNat

def maxU32 : Nat := 0xFFFFFFFF
def maxU64 : Nat := 0xFFFFFFFFFFFFFFFF
def maxI64 : Nat := 0x7FFFFFFFFFFFFFFF

/-- The decimal numeral of a number, filled with zeros on the left. -/
def padded (width n : Nat) : List Char :=
  let text := Nat.toDigits 10 n
  List.replicate (width - text.length) '0' ++ text

/-- The hexadecimal numeral of a number, in lower case. -/
def hex (n : Nat) : List Char := Nat.toDigits 16 n

end TagGovernance.Text
