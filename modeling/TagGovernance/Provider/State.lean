import TagGovernance.Provider.Flight
import TagGovernance.Resource.Catalog
import TagGovernance.Resource.Describe

/-!
# The recorded provider

A provider in memory that answers calls from flight data. Tags are held in the shape of each kind,
so every read and write goes through the same shapes as with a live service.
-/

namespace TagGovernance

/-- A resource that the provider still has. -/
structure Entry where
  target : ResourceRef
  recording : Recording
  /-- Fields that updates have set. -/
  overlay : List (String × Json)

/-- The calls that look at one resource. -/
inductive Verb
  | getTags
  | putTags
  | delete
  | update
  deriving DecidableEq, Repr

def Verb.name : Verb → String
  | getTags => "get_tags"
  | putTags => "put_tags"
  | delete => "delete"
  | update => "update"

/-- A call that was made, with the kind as it was named and the number of sessions open then. -/
structure Call where
  verb : Verb
  kind : String
  id : String
  sessions : Nat
  deriving DecidableEq, Repr

def Call.render (call : Call) : String := s!"{call.verb.name} {call.kind}/{call.id}"

structure Provider where
  catalog : Catalog
  source : Source
  ingest : Ingest
  /-- The resources of all kinds; those of one kind stand in the order they are enumerated in. -/
  entries : List Entry
  /-- Ids whose next call finds them gone. -/
  missing : List String
  errors : List (String × RecordedError)
  /-- The calls made so far. -/
  calls : List Call
  sessions : Nat

namespace Entry

/-- Whether this is the resource of a kind with an id. -/
def isFor (kind id : String) (e : Entry) : Bool := e.target.kind = kind && e.target.id = id

end Entry

namespace Provider

/-- The record of a recording before updates. -/
def describe (source : Source) (ingest : Ingest) (kind : ResourceKind) (rec : Recording) :
    Except Failure Json :=
  match source with
  | .describe => kind.describe rec ingest
  | .config => do
    let listed ← (kind.loadSnapshot rec.listed).mapError .record
    kind.describe { rec with listed, detail := none } ingest

/-- The entry of a recording that stands under a kind's name. -/
def entryOf (source : Source) (ingest : Ingest) (name : String) (kind : ResourceKind)
    (rec : Recording) : Except Failure Entry := do
  (kind.checkRecording rec).mapError .record
  let record ← during (.describing name) (describe source ingest kind rec)
  let target ← (kind.refOf record).mapError .record
  .ok ⟨target, rec, []⟩

def entriesOf (catalog : Catalog) (source : Source) (ingest : Ingest)
    (group : String × List Recording) : Except Failure (List Entry) := do
  let kind ← (catalog.get group.1).mapError .catalog
  group.2.mapM (entryOf source ingest group.1 kind)

/-- The provider at the beginning of a flight. Every recording has to give a record and a
reference. -/
def ofFlight (catalog : Catalog) (flight : Flight) (ingest : Ingest) : Except Failure Provider := do
  let entries ← flight.resources.mapM (entriesOf catalog flight.source ingest)
  .ok {
    catalog
    source := flight.source
    ingest
    entries := entries.flatten
    missing := flight.missing
    errors := flight.errors
    calls := []
    sessions := 0 }

/-- The kind that a client's call names. -/
def kindOf (p : Provider) (name : String) : Except ProviderError ResourceKind :=
  (p.catalog.get name).mapError fun e => .validation e.message

/-- The first resource of a kind with an id. -/
def find? (p : Provider) (kind id : String) : Option Entry := p.entries.find? (Entry.isFor kind id)

/-- Removes all resources of a kind with an id. -/
def remove (p : Provider) (kind id : String) : Provider :=
  { p with entries := p.entries.filter fun e => !e.isFor kind id }

/-- Changes the first entry that passes a test. -/
def modifyFirst (test : Entry → Bool) (change : Entry → Entry) : List Entry → List Entry
  | [] => []
  | e :: rest => if test e then change e :: rest else e :: modifyFirst test change rest

/-- Changes the first resource of a kind with an id. -/
def modify (p : Provider) (kind id : String) (change : Entry → Entry) : Provider :=
  { p with entries := modifyFirst (Entry.isFor kind id) change p.entries }

def log (p : Provider) (verb : Verb) (target : ResourceRef) : Provider :=
  { p with calls := p.calls ++ [⟨verb, target.kind, target.id, p.sessions⟩] }

end Provider

end TagGovernance
