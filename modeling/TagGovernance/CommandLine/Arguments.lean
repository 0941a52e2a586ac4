import TagGovernance.CommandLine.Value
import TagGovernance.Replay.Request

/-!
# Arguments

The words of a command line: options that hold for every command, the command, and its own options.
An option's value is the next word or stands behind an equals sign in the same word; a value that
begins with a hyphen has to stand there. Only options that are lists can be given more than once. An
option that holds for every command may stand before and behind the command; behind counts.
-/

namespace TagGovernance.CommandLine

/-- Settings of the command line, which go before those of a file. -/
structure Overrides where
  config : Option String := none
  logFormat : Option LogFormat := none
  concurrency : Option Nat := none
  ingest : Option Ingest := none

namespace Overrides

/-- The first settings where they are given, and the other ones elsewhere. -/
def orElse (a b : Overrides) : Overrides :=
  ⟨a.config.or b.config, a.logFormat.or b.logFormat, a.concurrency.or b.concurrency,
   a.ingest.or b.ingest⟩

def apply (o : Overrides) (s : Settings) : Settings :=
  { concurrency := o.concurrency.getD s.concurrency
    ingest := o.ingest.getD s.ingest
    logFormat := o.logFormat.getD s.logFormat }

end Overrides

/-- A payload to be reconciled. -/
structure ReconcileRequest where
  /-- The file with the payload. -/
  existing : String
  shape : TagShape := .pascal
  add : List (String × String) := []
  remove : List String := []

inductive Command
  | reconcile (request : ReconcileRequest)
  | catalog
  /-- Replays a request against the flight data in a file. -/
  | replay (flight : String) (request : ReplayRequest)

structure Invocation where
  overrides : Overrides
  command : Command

/-- An option without its value. -/
inductive Form
  /-- A value is needed. -/
  | valued (name : String)
  /-- The option is a switch. -/
  | switch (name : String)

def Form.name : Form → String
  | valued name | switch name => name

/-- Options that hold for every command. -/
def globalForms : List Form := ["config", "log-format", "concurrency", "ingest"].map .valued

def reconcileForms : List Form := ["existing", "shape", "add", "remove"].map .valued

def replayForms : List Form :=
  ["flight", "kind", "filter", "logging", "allow-account", "marked-for-op", "skew", "add", "remove",
    "mark", "mark-tag", "delete-protection"].map .valued ++
  ["cross-account", "delete"].map .switch

/-- An option with its value; that of a switch is empty. -/
abbrev Given := String × String

/-- Whether a word is a value and not an option. A hyphen alone is a value. -/
def isValue (word : String) : Bool := word = "-" || (Text.afterStart? "-" word).isNone

/-- What stands behind `start` and an optional equals sign. -/
def shortValue (rest : String) : String := (Text.afterStart? "=" rest).getD rest

/-- The name of an option and the value in the same word. -/
def splitOption? (word : String) : Option (String × Option String) :=
  match Text.afterStart? "--" word with
  | some body =>
    match Text.splitFirst? '=' body with
    | some (name, value) => some (name, some value)
    | none => some (body, none)
  | none => do
    let rest ← Text.afterStart? "-c" word
    some ("config", if rest = "" then none else some (shortValue rest))

/-- Reads options up to the first word that is none. Two hyphens at the end mean nothing. -/
def options? (forms : List Form) (done : List Given) : List String →
    Option (List Given × List String)
  | [] => some (done.reverse, [])
  | word :: rest =>
    if isValue word then some (done.reverse, word :: rest)
    else if word = "--" then if rest.isEmpty then some (done.reverse, []) else none
    else match splitOption? word with
    | none => none
    | some (name, value) =>
      match forms.find? (·.name = name), value with
      | some (.switch _), none => options? forms ((name, "") :: done) rest
      | some (.valued _), some value => options? forms ((name, value) :: done) rest
      | some (.valued _), none =>
        match rest with
        | value :: rest =>
          if isValue value then options? forms ((name, value) :: done) rest else none
        | [] => none
      | _, _ => none

/-- All values of an option. -/
def values (name : String) (given : List Given) : List String :=
  (given.filter (·.1 = name)).map Prod.snd

/-- The value of an option that is given at most once, if it can be read. -/
def single? {α : Type} (read : String → Option α) (name : String) (given : List Given) :
    Option (Option α) :=
  match values name given with
  | [] => some none
  | [value] => (read value).map some
  | _ => none

def orDefault? {α : Type} (missing : α) (read : String → Option α) (name : String)
    (given : List Given) : Option α := (single? read name given).map (·.getD missing)

def required? {α : Type} (read : String → Option α) (name : String) (given : List Given) :
    Option α := (single? read name given).join

def list? {α : Type} (read : String → Option α) (name : String) (given : List Given) :
    Option (List α) := (values name given).mapM read

/-- The name of a file is not empty. -/
def path? (s : String) : Option String := if s = "" then none else some s

def state? : String → Option Bool
  | "true" => some true
  | "false" => some false
  | _ => none

/-- Whether a switch is given; it cannot be given twice. -/
def switch? (name : String) (given : List Given) : Option Bool :=
  match values name given with
  | [] => some false
  | [_] => some true
  | _ => none

def tag? (word : String) : Option (String × String) := (readTag word).toOption

def Overrides.ofGiven? (given : List Given) : Option Overrides := do
  some {
    config := ← single? path? "config" given
    logFormat := ← single? LogFormat.ofName? "log-format" given
    concurrency := ← single? (fun s => (readConcurrency s).toOption) "concurrency" given
    ingest := ← single? Ingest.ofName? "ingest" given }

def ReconcileRequest.ofGiven? (given : List Given) : Option ReconcileRequest := do
  some {
    existing := ← required? path? "existing" given
    shape := ← orDefault? .pascal TagShape.ofName? "shape" given
    add := ← list? tag? "add" given
    remove := values "remove" given }

def replayRequest? (given : List Given) : Option ReplayRequest := do
  some {
    kind := ← required? some "kind" given
    filters := values "filter" given
    logging := ← list? tag? "logging" given
    crossAccount := ← switch? "cross-account" given
    allowedAccounts := values "allow-account" given
    markedFor := ← single? some "marked-for-op" given
    skewDays := ← orDefault? 0 (Text.signed? Text.maxI64) "skew" given
    add := ← list? tag? "add" given
    remove := values "remove" given
    mark := ← single? (fun s => (readMark s).toOption) "mark" given
    markTag := ← single? some "mark-tag" given
    deleteProtection := ← single? state? "delete-protection" given
    delete := ← switch? "delete" given }

/-- The options of a command. -/
def formsOf? : String → Option (List Form)
  | "reconcile" => some reconcileForms
  | "catalog" => some []
  | "replay" => some replayForms
  | _ => none

def command? (name : String) (given : List Given) : Option Command :=
  match name with
  | "reconcile" => (ReconcileRequest.ofGiven? given).map .reconcile
  | "catalog" => some .catalog
  | "replay" => do some (.replay (← required? path? "flight" given) (← replayRequest? given))
  | _ => none

namespace Invocation

/-- Reads a command line. Behind the options of the command nothing may stand. -/
def ofWords? (words : List String) : Option Invocation := do
  let (before, rest) ← options? globalForms [] words
  match rest with
  | [] => none
  | name :: words =>
    let (behind, rest) ← options? (globalForms ++ (← formsOf? name)) [] words
    if rest.isEmpty then
      let overrides := (← Overrides.ofGiven? behind).orElse (← Overrides.ofGiven? before)
      some ⟨overrides, ← command? name behind⟩
    else none

end Invocation

end TagGovernance.CommandLine
