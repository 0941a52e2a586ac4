import TagGovernance.CommandLine.Arguments
import TagGovernance.Replay.Run
import TagGovernance.Resource.Aws
import TagGovernance.Settings.File
import TagGovernance.Tag.Payload

/-!
# Running a command line

What the program prints and how it ends, for a command line and the surroundings that it is run in.
A replay prints its summary before it fails because of a report.
-/

namespace TagGovernance.CommandLine

/-- What a command line is run in. -/
structure Surroundings where
  /-- The content of a file that can be read. -/
  file? : String → Option ByteArray
  input : ByteArray
  now : Instant

/-- What a run prints, and why it fails if it does. -/
structure Outcome where
  printed : Option Json := none
  failure : Option Failure := none

namespace Outcome

def failed (e : Failure) : Outcome := { failure := some e }

/-- Prints a value if there is one, and fails otherwise. -/
def ofResult : Except Failure Json → Outcome
  | .ok v => { printed := some v }
  | .error e => failed e

/-- The text that is printed. -/
def output (o : Outcome) : String :=
  match o.printed with
  | some v => v.indented ++ "\n"
  | none => ""

end Outcome

/-- The content of a file, or a failure to read it. -/
def Surroundings.read (around : Surroundings) (context : Context) (path : String) :
    Except Failure ByteArray :=
  match around.file? path with
  | some bytes => .ok bytes
  | none => .error (.during context .file)

/-- The settings of a file with what the command line says instead. -/
def settingsOf (around : Surroundings) (o : Overrides) : Except Failure Settings := do
  let settings ← match o.config with
    | none => .ok {}
    | some path => do
      let bytes ← around.read (.readingSettings path) path
      during (.parsingSettings path) (Settings.ofFile bytes)
  .ok (o.apply settings)

/-- The payload of a request, which may come from the standard input. -/
def payloadOf (around : Surroundings) (path : String) : Except Failure Json := do
  let text ← if path = "-" then textOf .notText around.input
    else textOf (.during (.readingFile path) .notText) (← around.read (.readingFile path) path)
  match Json.read? text with
  | some v => .ok v
  | none => .error (.during .existingTagsText .json)
where
  textOf (error : Failure) (bytes : ByteArray) : Except Failure String :=
    match String.fromUTF8? bytes with
    | some text => .ok text
    | none => .error error

def flightOf (around : Surroundings) (path : String) : Except Failure Flight := do
  let bytes ← around.read (.readingFlight path) path
  match (String.fromUTF8? bytes).bind Flight.ofText? with
  | some flight => .ok flight
  | none => .error (.during (.parsingFlight path) .json)

def runReconcile (around : Surroundings) (ingest : Ingest) (r : ReconcileRequest) :
    Except Failure Json := do
  let raw ← payloadOf around r.existing
  let add ← tagPairs r.add ingest
  let result ← r.shape.reconcile raw ingest add r.remove
  .ok result.toJson

/-- The first report with a failure speaks for the run. -/
def firstFailure? (reports : List BatchReport) : Option Failure :=
  reports.findSome? fun report =>
    match report.toResult with
    | .ok _ => none
    | .error e => some (.batch e)

/-- Prints the summary of a replay, and fails if a report does. -/
def ofReplay (r : ReplayResult) : Outcome := ⟨some r.summary, firstFailure? r.reports⟩

def runReplay (around : Surroundings) (catalog : Catalog) (settings : Settings) (path : String)
    (r : ReplayRequest) : Except Failure ReplayResult := do
  let flight ← flightOf around path
  let provider ← Provider.ofFlight catalog flight settings.ingest
  (r.run settings around.now provider).1

/-- Runs an invocation. Settings and catalog are looked at before any command runs. -/
def Invocation.run (i : Invocation) (around : Surroundings) : Outcome :=
  match settingsOf around i.overrides, Aws.catalog.mapError Failure.catalog with
  | .error e, _ | _, .error e => .failed e
  | .ok settings, .ok catalog =>
    match i.command with
    | .reconcile r => .ofResult (runReconcile around settings.ingest r)
    | .catalog => { printed := some catalog.toJson }
    | .replay path r =>
      match runReplay around catalog settings path r with
      | .ok result => ofReplay result
      | .error e => .failed e

/-- Runs a command line, if its words are an invocation. -/
def run? (around : Surroundings) (words : List String) : Option Outcome :=
  (Invocation.ofWords? words).map (·.run around)

end TagGovernance.CommandLine
