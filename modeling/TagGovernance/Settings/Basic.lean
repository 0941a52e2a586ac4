import TagGovernance.Tag.Ingest

/-!
# Settings
-/

namespace TagGovernance

/-- How the program writes its log. -/
inductive LogFormat
  | json
  | pretty
  deriving DecidableEq, Repr

namespace LogFormat

def name : LogFormat → String
  | json => "json"
  | pretty => "pretty"

def ofName? : String → Option LogFormat
  | "json" => some json
  | "pretty" => some pretty
  | _ => none

end LogFormat

structure Settings where
  /-- Resources processed at once; never zero. -/
  concurrency : Nat := 4
  ingest : Ingest := .strict
  logFormat : LogFormat := .json
  deriving DecidableEq, Repr

end TagGovernance
