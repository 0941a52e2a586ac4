import TagGovernance.Json.Reader
import TagGovernance.Resource.Recording
import TagGovernance.Resource.Ref

/-!
# Flight data

A recording of a provider: the resources of each kind, the ids that were listed but are gone by the
time they are looked at, and the errors that calls end with. Where a kind's records come from is
said once for all.
-/

namespace TagGovernance

/-- Where records come from. -/
inductive Source
  /-- From the responses of describe calls. -/
  | describe
  /-- From configuration snapshots. -/
  | config
  deriving DecidableEq, Repr

/-- An error that was recorded for a resource, with the code of the service. -/
structure RecordedError where
  code : String
  text : String
  deriving DecidableEq, Repr

structure Flight where
  source : Source := .describe
  /-- Recordings by the name of their kind, in the order of the names. -/
  resources : List (String × List Recording) := []
  missing : List String := []
  errors : List (String × RecordedError) := []

namespace Flight

def sourceOfName? : String → Option Source
  | "describe" => some .describe
  | "config" => some .config
  | _ => none

/-- A source is written as its name, or as an object whose only field has that name and is null. -/
def source? : Written → Option Source
  | .scalar (some (.str name)) => sourceOfName? name
  | .obj [(some name, .scalar (some .null))] => sourceOfName? name
  | _ => none

def recordedError? (w : Written) : Option RecordedError := do
  match ← w.parts? ["code", "message"] with
  | [some code, message] =>
    let code ← code.text?
    let text ← match message with
      | none => some ""
      | some w => w.text?
    some ⟨code, text⟩
  | _ => none

/-- Reads a part that may be missing. -/
def optional {α : Type} (missing : α) (read : Written → Option α) : Option Written → Option α
  | none => some missing
  | some w => read w

/-- Levels of nesting that are left below the list of a kind's recordings. -/
def recordingDepth : Nat := Written.maxDepth - 3

/-- Reads flight data: an object, or a list of its parts. -/
def ofWritten? (w : Written) : Option Flight := do
  match ← w.parts? ["source", "resources", "missing", "errors"] with
  | [source, resources, missing, errors] =>
    let source ← optional .describe source? source
    let resources ← optional []
      (Written.entries? (Written.items? (Recording.ofWritten? recordingDepth))) resources
    let missing ← optional [] (Written.items? Written.text?) missing
    let errors ← optional [] (Written.entries? recordedError?) errors
    some ⟨source, resources, missing.eraseDups, errors⟩
  | _ => none

def ofJson? (v : Json) : Option Flight := ofWritten? (.ofJson v)

def ofText? (text : String) : Option Flight := do ofWritten? (← Json.readTree? text)

end Flight

end TagGovernance
