/-!
# Finite doubles

A finite double is a sign and a magnitude counted in units of `2 ^ -1074`, the least positive
double. All arithmetic is on natural numbers: a result is the exact quotient of two of them,
rounded once to the nearest double, and to the even mantissa when it lies halfway.
-/

namespace TagGovernance

/-- The number `± mantissa * 2 ^ shift` units. A normal double has a mantissa of 53 bits; with
fewer bits the shift is zero. -/
structure Binary64 where
  negative : Bool
  mantissa : Nat
  shift : Nat
  deriving DecidableEq, Repr

namespace Binary64

/-- Units in one: `2 ^ 1074`. -/
def one : Nat := Nat.pow 2 1074

/-- The least mantissa of 53 bits: `2 ^ 52`. -/
def leastNormal : Nat := 0x10000000000000

/-- The greatest shift of a finite double. -/
def maxShift : Nat := 2045

def zero : Binary64 := ⟨false, 0, 0⟩

def units (x : Binary64) : Nat := x.mantissa * Nat.pow 2 x.shift

def isZero (x : Binary64) : Bool := x.mantissa == 0

/-- Numeric equality: the two zeros are equal. -/
def same (x y : Binary64) : Bool := x == y || (x.isZero && y.isZero)

def neg (x : Binary64) : Binary64 := { x with negative := !x.negative }

/-- How many binary digits a number has. -/
def bitLength (n : Nat) : Nat := if n = 0 then 0 else n.log2 + 1

/-- The quotient rounded to the nearest natural number, a half to the even one. -/
def roundQuotient (num den : Nat) : Nat :=
  let q := num / den
  let r := num % den
  if 2 * r < den then q
  else if den < 2 * r then q + 1
  else if q % 2 = 0 then q else q + 1

/-- The double nearest to `num / den` units, or nothing if that is beyond the greatest one. -/
def nearest? (negative : Bool) (num den : Nat) : Option Binary64 :=
  let shift := bitLength (num / den) - 53
  let mantissa := roundQuotient num (den * Nat.pow 2 shift)
  let x : Binary64 :=
    if mantissa = 2 * leastNormal then ⟨negative, leastNormal, shift + 1⟩
    else ⟨negative, mantissa, shift⟩
  if x.shift ≤ maxShift then some x else none

/-- The double nearest to a natural number. -/
def ofNat? (n : Nat) : Option Binary64 := nearest? false (n * one) 1

def mul? (x y : Binary64) : Option Binary64 :=
  nearest? (x.negative != y.negative) (x.units * y.units) one

def div? (x y : Binary64) : Option Binary64 :=
  nearest? (x.negative != y.negative) (x.units * one) y.units

/-- The double nearest to `10 ^ n`. -/
def powerOfTen? (n : Nat) : Option Binary64 := ofNat? (Nat.pow 10 n)

end Binary64

end TagGovernance
