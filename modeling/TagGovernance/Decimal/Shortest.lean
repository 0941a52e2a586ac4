import TagGovernance.Decimal.Binary64

/-!
# The shortest decimal that reads back

Every double is the nearest one to an interval of real numbers. The text of a double has the
fewest digits of any decimal in its interval and, of those, is the one nearest to the double. All
comparisons are between natural numbers.
-/

namespace TagGovernance.Decimal

/-- The number `digits * 10 ^ exponent`. -/
structure Scaled where
  digits : Nat
  exponent : Int
  deriving DecidableEq, Repr

def digitCount (n : Nat) : Nat := (Nat.toDigits 10 n).length

/-- Removes zeros at the end, at most `fuel` of them. -/
def dropZeros : Nat → Scaled → Scaled
  | 0, d => d
  | fuel + 1, d =>
    if d.digits % 10 = 0 then dropZeros fuel ⟨d.digits / 10, d.exponent + 1⟩ else d

/-- Twice the magnitude of a double's neighbourhood, in quarter units: the numbers that round to
it lie between the two bounds, which themselves do if the mantissa is even. -/
structure Neighbourhood where
  low : Nat
  centre : Nat
  high : Nat
  closed : Bool

def neighbourhood (x : Binary64) : Neighbourhood :=
  let step := Nat.pow 2 x.shift
  let below := if x.mantissa = Binary64.leastNormal ∧ 0 < x.shift then step else 2 * step
  ⟨4 * x.units - below, 4 * x.units, 4 * x.units + 2 * step, x.mantissa % 2 = 0⟩

/-- Whether `num / den` quarter units round to the double. -/
def Neighbourhood.contains (n : Neighbourhood) (num den : Nat) : Bool :=
  if n.closed then n.low * den ≤ num && num ≤ n.high * den
  else n.low * den < num && num < n.high * den

/-- The best decimal `k * 10 ^ exponent` of the neighbourhood, if one of the centre's two
neighbours on that grid lies in it. -/
def onGrid? (n : Neighbourhood) (exponent : Int) : Option Nat :=
  let up := 4 * Binary64.one * Nat.pow 10 exponent.toNat
  let down := Nat.pow 10 (-exponent).toNat
  let below := n.centre * down / up
  let distance (k : Nat) : Nat :=
    if k * up ≤ n.centre * down then n.centre * down - k * up else k * up - n.centre * down
  let hits := [below, below + 1].filter fun k => 0 < k && n.contains (k * up) down
  match hits with
  | [] => none
  | [k] => some k
  | k :: l :: _ =>
    if distance k < distance l then some k
    else if distance l < distance k then some l
    else if k % 2 = 0 then some k else some l

/-- The exponent of the leading digit of a positive number of units. -/
def leadingExponent (units : Nat) : Int :=
  (digitCount (units * Nat.pow 10 400 / Binary64.one) : Int) - 401

/-- The shortest decimal of a positive double. Seventeen digits always suffice. -/
def shortest (x : Binary64) : Scaled :=
  let n := neighbourhood x
  let lead := leadingExponent x.units
  let found := (List.range 17).findSome? fun (places : Nat) =>
    let exponent := lead - places
    (onGrid? n exponent).map fun k => dropZeros 20 ⟨k, exponent⟩
  found.getD ⟨x.mantissa, 0⟩

/-- Where the digits are written without an exponent, and how an exponent is written. -/
structure Layout where
  leastPositional : Int
  greatestPositional : Int
  plusSign : Bool

/-- Digits with a point among them, and at least one digit on each side of it. -/
def positional (d : Scaled) : String :=
  let text := Nat.toDigits 10 d.digits
  if 0 ≤ d.exponent then
    String.ofList (text ++ List.replicate d.exponent.toNat '0' ++ ['.', '0'])
  else
    let places := (-d.exponent).toNat
    let padded := List.replicate (places + 1 - text.length) '0' ++ text
    String.ofList (padded.take (padded.length - places) ++ '.' :: padded.drop (padded.length - places))

/-- One digit, the others behind a point, and the exponent of the first. -/
def scientific (layout : Layout) (d : Scaled) (lead : Int) : String :=
  let text := Nat.toDigits 10 d.digits
  let mantissa := match text with
    | c :: r :: rest => c :: '.' :: r :: rest
    | short => short
  let sign := if lead < 0 then "-" else if layout.plusSign then "+" else ""
  String.ofList mantissa ++ "e" ++ sign ++ toString lead.natAbs

def Layout.render (layout : Layout) (x : Binary64) : String :=
  let sign := if x.negative then "-" else ""
  if x.isZero then sign ++ "0.0"
  else
    let d := shortest x
    let lead := d.exponent + digitCount d.digits - 1
    sign ++ (if layout.leastPositional ≤ lead ∧ lead ≤ layout.greatestPositional then positional d
      else scientific layout d lead)

end TagGovernance.Decimal
