import TagGovernance.Calendar.Instant
import TagGovernance.Text.Blank

/-!
# Due dates in text

A due date is a date with slashes, such as `2024/01/31`, or one with a time behind it, such as
`2024/01/31 1830 UTC`. White space may stand before every number and where the pattern has a space.
-/

namespace TagGovernance.Due

/-- A number of at most `width` digits, and what follows it. -/
def number? (width : Nat) (cs : List Char) : Option (Nat × List Char) :=
  let digits := (cs.take width).takeWhile Text.isDigit
  if digits.isEmpty then none else some (Text.natOfDigits digits, cs.drop digits.length)

/-- A year has up to four digits, or a sign and any number of them. -/
def year? (cs : List Char) : Option (Int × List Char) :=
  match Text.trimStartChars cs with
  | '-' :: rest => (number? rest.length rest).map fun (n, rest) => (-n, rest)
  | '+' :: rest => (number? rest.length rest).map fun (n, rest) => (n, rest)
  | rest => (number? 4 rest).map fun (n, rest) => (n, rest)

def twoDigits? (cs : List Char) : Option (Nat × List Char) :=
  number? 2 (Text.trimStartChars cs)

def sign? (c : Char) : List Char → Option (List Char)
  | x :: rest => if x = c then some rest else none
  | [] => none

/-- A date of the calendar, and what follows it. -/
def date? (cs : List Char) : Option (Date × List Char) := do
  let (year, cs) ← year? cs
  let (month, cs) ← twoDigits? (← sign? '/' cs)
  let (day, cs) ← twoDigits? (← sign? '/' cs)
  let date : Date := ⟨year, month, day⟩
  if date.Valid then some (date, cs) else none

/-- A time of the day with its zone at the end of the text. -/
def time? (cs : List Char) : Option (Nat × Nat) := do
  let (hour, cs) ← twoDigits? cs
  let (minute, cs) ← twoDigits? cs
  if Text.trimStartChars cs = ['U', 'T', 'C'] ∧ hour ≤ 23 ∧ minute ≤ 59 then some (hour, minute)
  else none

/-- The instant that a due date names; a date alone means its beginning. -/
def read? (cs : List Char) : Option Instant := do
  let (date, rest) ← date? cs
  if rest.isEmpty then some (Instant.atTime date 0 0)
  else
    let (hour, minute) ← time? rest
    some (Instant.atTime date hour minute)

end TagGovernance.Due
