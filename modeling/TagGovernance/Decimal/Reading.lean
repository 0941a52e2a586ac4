import TagGovernance.Decimal.Binary64

/-!
# From decimal text to a double

A number's digits give a significand of at most 64 bits, its point and exponent a power of ten.
The significand is rounded to a double first and is then multiplied or divided by the double
nearest to that power, so there are up to three roundings. Before the point and behind it, the
digits from the first one on that does not fit into the significand are left out; those before the
point still count as powers of ten.
-/

namespace TagGovernance.Decimal

def maxSignificand : Nat := 0xFFFFFFFFFFFFFFFF

/-- The digits taken into the significand, from the left, until one does not fit. The rest is
returned with it. -/
def takeDigits (significand : Nat) : List Nat → Nat × List Nat
  | [] => (significand, [])
  | d :: rest =>
    let next := significand * 10 + d
    if next ≤ maxSignificand then takeDigits next rest else (significand, d :: rest)

/-- `significand * 10 ^ exponent`, or nothing if it is too large. A quotient by more than the
greatest power of ten is taken in two steps, and one by far more is zero. -/
def scale? (significand : Nat) (exponent : Int) : Option Binary64 := do
  let x ← Binary64.ofNat? significand
  if 0 ≤ exponent then
    if exponent ≤ 308 then x.mul? (← Binary64.powerOfTen? exponent.toNat)
    else if x.isZero then some x else none
  else
    let down := (-exponent).toNat
    if down ≤ 308 then x.div? (← Binary64.powerOfTen? down)
    else
      let y ← x.div? (← Binary64.powerOfTen? 308)
      if down ≤ 616 then y.div? (← Binary64.powerOfTen? (down - 308)) else some Binary64.zero

/-- The double that a numeral stands for: its integer digits, the digits behind its point and its
exponent. -/
def read? (negative : Bool) (whole fraction : List Nat) (exponent : Int) : Option Binary64 := do
  let (high, lost) := takeDigits 0 whole
  let (significand, unused) := takeDigits high fraction
  let x ← scale? significand (exponent + lost.length - (fraction.length - unused.length : Nat))
  some (if negative then x.neg else x)

end TagGovernance.Decimal
