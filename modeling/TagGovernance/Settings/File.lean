import TagGovernance.Failure
import TagGovernance.Settings.Basic
import TagGovernance.Yaml.Document

/-!
# Settings files

A settings file is a YAML mapping. Every setting may be left out; unknown and repeated ones are
refused.
-/

namespace TagGovernance

open Yaml (Scalar)

namespace Settings

/-- A number in digits of a base that is at most sixteen. -/
def basedNumber? (base : Nat) (digits : List Char) : Option Nat :=
  if digits.isEmpty then none
  else digits.foldlM (fun n c => do
    let d ← Text.hexValue? c
    if d < base then some (base * n + d) else none) 0

/-- A number in decimal, without needless zeros, or in another base that is named before it. -/
def number? (cs : List Char) : Option Nat :=
  match cs with
  | '0' :: 'x' :: digits => basedNumber? 16 digits
  | '0' :: 'o' :: digits => basedNumber? 8 digits
  | '0' :: 'b' :: digits => basedNumber? 2 digits
  | ['0'] => some 0
  | '0' :: _ => none
  | digits => Text.digits? digits

/-- The number that a scalar stands for. A scalar that is not plain is a number only if it is a
literal block with the tag of integers. -/
def scalarNumber? (s : Scalar) : Option Nat := do
  let isNumber := s.style = .plain ∨
    (s.style = .literal ∧ s.tag = some (Yaml.octets "tag:yaml.org,2002:int"))
  if isNumber then
    let n ← number? (match s.text.toList with
      | '+' :: cs => cs
      | cs => cs)
    if n ≤ Text.maxU64 then some n else none
  else none

/-- The texts of a plain scalar that is nothing. -/
def nullTexts : List String := ["", "~", "null", "Null", "NULL"]

/-- The name of a tag that is no standard one: what stands behind its exclamation mark. -/
def localTag? (s : Scalar) : Option String := do
  let name ← (← s.tag).text?
  let rest ← Text.afterStart? "!" name
  some (if rest = "" then name else rest)

/-- The name that a scalar stands for. A name can be given as the tag of nothing. -/
def scalarName? (s : Scalar) : Option String :=
  match localTag? s with
  | some name => if s.style = .plain ∧ s.text ∈ nullTexts then some name else none
  | none => some s.text

def set? (settings : Settings) (name : String) (value : Scalar) : Option Settings :=
  match name with
  | "concurrency" => do some { settings with concurrency := ← scalarNumber? value }
  | "ingest" => do some { settings with ingest := ← Ingest.ofName? (← scalarName? value) }
  | "log_format" => do some { settings with logFormat := ← LogFormat.ofName? (← scalarName? value) }
  | _ => none

/-- Sets what the entries of a file say. -/
def ofEntries? (settings : Settings) (seen : List String) : List (Scalar × Scalar) → Option Settings
  | [] => some settings
  | (key, value) :: rest =>
    if key.text ∈ seen then none
    else do ofEntries? (← set? settings key.text value) (key.text :: seen) rest

/-- The settings in a file. -/
def ofFile (bytes : ByteArray) : Except Failure Settings :=
  match (String.fromUTF8? bytes).bind Yaml.Document.ofText? |>.bind (ofEntries? {} []) with
  | some settings => if settings.concurrency = 0 then .error .noConcurrency else .ok settings
  | none => .error .settings

end Settings

end TagGovernance
