import TagGovernance.Text.Numeral
import TagGovernance.Text.Split

/-!
# Values on the command line

How the words behind options are read: a tag is `key=value`, a mark is `action:days`, and numbers
are decimal.
-/

namespace TagGovernance.CommandLine

/-- Why a word is not a value. -/
inductive ValueError
  | notATag (word : String)
  | notAMark (word : String)
  | notDays (word : String)
  | noConcurrency
  | notConcurrency (word : String)
  deriving DecidableEq, Repr

def ValueError.message : ValueError → String
  | notATag word => s!"expected key=value, got '{word}'"
  | notAMark word => s!"expected op:days, got '{word}'"
  | notDays word => s!"days must be a non-negative integer, got '{word}'"
  | noConcurrency => "concurrency must be at least 1"
  | notConcurrency word => s!"concurrency must be a positive integer, got '{word}'"

/-- The key in front of the first equals sign, which is not empty, and the value behind it. -/
def readTag (word : String) : Except ValueError (String × String) :=
  match Text.splitFirst? '=' word with
  | some (key, value) => if key = "" then .error (.notATag word) else .ok (key, value)
  | none => .error (.notATag word)

/-- The action in front of the first colon and the number of days behind it. -/
def readMark (word : String) : Except ValueError (String × Nat) :=
  match Text.splitFirst? ':' word with
  | none => .error (.notAMark word)
  | some (action, days) =>
    match Text.unsigned? Text.maxU32 days with
    | some n => .ok (action, n)
    | none => .error (.notDays days)

/-- A number of resources to be processed at once, which is not zero. -/
def readConcurrency (word : String) : Except ValueError Nat :=
  match Text.unsigned? Text.maxU64 word with
  | some 0 => .error .noConcurrency
  | some n => .ok n
  | none => .error (.notConcurrency word)

end TagGovernance.CommandLine
