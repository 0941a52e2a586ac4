import TagGovernance.Decimal.Reading
import TagGovernance.Json.Value
import TagGovernance.Text.Numeral

/-!
# JSON tokens

The characters of a document cut into brackets, separators and literals. White space between them
is the four characters of RFC 8259. A literal that is well formed but stands for no value is still
a token.
-/

namespace TagGovernance.Json

inductive Token
  | openArr | closeArr | openObj | closeObj | comma | colon
  | text (value : Option String)
  | scalar (value : Option Json)

namespace Token

def isSpace (c : Char) : Bool := c == ' ' || c == '\n' || c == '\t' || c == '\r'

/-- Inside a string stand characters and, after an escape, units of sixteen bits. -/
inductive Piece
  | char (c : Char)
  | unit (value : Nat)

/-- The characters that units and characters stand for: a high surrogate needs its low one right
behind it, and neither may stand alone. -/
def joinPieces? : List Piece → Option (List Char)
  | [] => some []
  | .char c :: rest => (joinPieces? rest).map (c :: ·)
  | .unit high :: .unit low :: rest =>
    if 0xD800 ≤ high ∧ high < 0xDC00 then
      if 0xDC00 ≤ low ∧ low < 0xE000 then
        (joinPieces? rest).map (Char.ofNat (0x10000 + (high - 0xD800) * 0x400 + (low - 0xDC00)) :: ·)
      else none
    else if 0xDC00 ≤ high ∧ high < 0xE000 then none
    else (joinPieces? (.unit low :: rest)).map (Char.ofNat high :: ·)
  | .unit high :: rest =>
    if 0xD800 ≤ high ∧ high < 0xE000 then none
    else (joinPieces? rest).map (Char.ofNat high :: ·)

def escape? : Char → Option Char
  | '"' => some '"'
  | '\\' => some '\\'
  | '/' => some '/'
  | 'b' => some '\x08'
  | 'f' => some '\x0c'
  | 'n' => some '\n'
  | 'r' => some '\r'
  | 't' => some '\t'
  | _ => none

def hex4? (a b c d : Char) : Option Nat := do
  some (0x1000 * (← Text.hexValue? a) + 0x100 * (← Text.hexValue? b) +
    0x10 * (← Text.hexValue? c) + (← Text.hexValue? d))

/-- The inside of a string up to its closing quote, and what follows. -/
def stringBody? (done : List Piece) : List Char → Option (List Piece × List Char)
  | [] => none
  | '"' :: rest => some (done.reverse, rest)
  | '\\' :: 'u' :: a :: b :: c :: d :: rest =>
    match hex4? a b c d with
    | some n => stringBody? (.unit n :: done) rest
    | none => none
  | '\\' :: e :: rest =>
    match escape? e with
    | some c => stringBody? (.char c :: done) rest
    | none => none
  | c :: rest => if c < ' ' then none else stringBody? (.char c :: done) rest

def digitsOf (cs : List Char) : List Nat := cs.map Text.digitValue

/-- A sign and digits behind an exponent mark. -/
def exponent? (cs : List Char) : Option (Int × List Char) :=
  let (negative, body) := match cs with
    | '-' :: rest => (true, rest)
    | '+' :: rest => (false, rest)
    | _ => (false, cs)
  let (digits, rest) := body.span Text.isDigit
  if digits.isEmpty then none
  else
    let n : Int := Text.natOfDigits digits
    some (if negative then -n else n, rest)

/-- The integer of a numeral without point and exponent if it fits 64 bits; minus zero and all
larger ones are doubles. -/
def integerValue? (negative : Bool) (whole : List Char) : Option Json :=
  let n := Text.natOfDigits whole
  if negative = false ∧ n ≤ Text.maxU64 then some (.int n)
  else if negative = true ∧ n ≠ 0 ∧ n ≤ Text.maxI64 + 1 then some (.int (-n))
  else (Decimal.read? negative (digitsOf whole) [] 0).map .float

/-- A number and what follows it. There is no zero before another digit. -/
def number? (negative : Bool) (cs : List Char) : Option (Token × List Char) := do
  let (whole, rest) := cs.span Text.isDigit
  if whole.isEmpty ∨ (whole.head? = some '0' ∧ 1 < whole.length) then none
  let (fraction, rest) ← match rest with
    | '.' :: behind =>
      let (digits, rest) := behind.span Text.isDigit
      if digits.isEmpty then none else some (some digits, rest)
    | _ => some (none, rest)
  let (exponent, rest) ← match rest with
    | 'e' :: behind => (exponent? behind).map fun (n, rest) => (some n, rest)
    | 'E' :: behind => (exponent? behind).map fun (n, rest) => (some n, rest)
    | _ => some (none, rest)
  let value := match fraction, exponent with
    | none, none => integerValue? negative whole
    | _, _ => (Decimal.read? negative (digitsOf whole) (digitsOf (fraction.getD []))
        (exponent.getD 0)).map .float
  some (.scalar value, rest)

/-- The first token of a text that begins with neither white space nor its end. -/
def next? : List Char → Option (Token × List Char)
  | '[' :: rest => some (.openArr, rest)
  | ']' :: rest => some (.closeArr, rest)
  | '\x7b' :: rest => some (.openObj, rest)
  | '\x7d' :: rest => some (.closeObj, rest)
  | ',' :: rest => some (.comma, rest)
  | ':' :: rest => some (.colon, rest)
  | '"' :: rest => do
    let (pieces, rest) ← stringBody? [] rest
    some (.text ((joinPieces? pieces).map String.ofList), rest)
  | 't' :: 'r' :: 'u' :: 'e' :: rest => some (.scalar (some (.bool true)), rest)
  | 'f' :: 'a' :: 'l' :: 's' :: 'e' :: rest => some (.scalar (some (.bool false)), rest)
  | 'n' :: 'u' :: 'l' :: 'l' :: rest => some (.scalar (some .null), rest)
  | '-' :: rest => number? true rest
  | cs => number? false cs

/-- The tokens of a text in reverse order. Each one takes a character, so `fuel` of the text's
length is enough. -/
def collect? : Nat → List Token → List Char → Option (List Token)
  | fuel, done, cs =>
    match cs.dropWhile isSpace with
    | [] => some done
    | c :: rest =>
      match fuel with
      | 0 => none
      | fuel + 1 =>
        match next? (c :: rest) with
        | none => none
        | some (token, rest) => collect? fuel (token :: done) rest

def ofText? (cs : List Char) : Option (List Token) := (collect? cs.length [] cs).map List.reverse

end Token

end TagGovernance.Json
