import TagGovernance.Provider.State

/-!
# Calls of a provider's client

A call either fails or answers, and leaves the provider behind that it was made on. Every call on one
resource is logged and then goes through the same gate: a recorded error ends it; a resource in the
set of missing ones is gone from then on; what has no entry is not found.
-/

namespace TagGovernance.Provider

/-- The answer of a call and the provider after it. -/
abbrev Reply (α : Type) := Except ProviderError α × Provider

def notFoundText (kind : ResourceKind) (id : String) : ProviderError :=
  .notFound s!"{kind.typeName} {id}"

/-- Looks up the resource that a call is for. -/
def gate (p : Provider) (kind : ResourceKind) (id : String) : Reply Entry :=
  match Keyed.find? id p.errors with
  | some e => (.error (.ofCode e.code e.text), p)
  | none =>
    if id ∈ p.missing then
      (.error (notFoundText kind id),
        { p.remove kind.typeName id with missing := p.missing.filter (· ≠ id) })
    else match p.find? kind.typeName id with
      | some entry => (.ok entry, p)
      | none => (.error (notFoundText kind id), p)

/-- The shape of a kind's tags, if it has tags. -/
def shapeOf (kind : ResourceKind) (target : ResourceRef) : Except ProviderError TagShape :=
  match kind.tagShape with
  | some shape => .ok shape
  | none => .error (.validation s!"{target.kind} is not taggable")

/-- The tags of an entry. -/
def tagsOf (p : Provider) (shape : TagShape) (entry : Entry) : Except ProviderError TagSet :=
  (shape.decode (entry.recording.tags.getD .null) p.ingest).mapError fun e => .validation e.message

/-- Reads the tags of a resource. -/
def getTags (p : Provider) (target : ResourceRef) : Reply TagSet :=
  match p.kindOf target.kind with
  | .error e => (.error e, p)
  | .ok kind =>
    match (p.log .getTags target).gate kind target.id with
    | (.error e, p) => (.error e, p)
    | (.ok entry, p) => (do p.tagsOf (← shapeOf kind target) entry, p)

/-- Replaces the whole tag set of a resource. -/
def putTags (p : Provider) (target : ResourceRef) (tags : TagSet) : Reply Unit :=
  match p.kindOf target.kind with
  | .error e => (.error e, p)
  | .ok kind =>
    match (p.log .putTags target).gate kind target.id with
    | (.error e, p) => (.error e, p)
    | (.ok _, p) =>
      match shapeOf kind target with
      | .error e => (.error e, p)
      | .ok shape =>
        (.ok (), p.modify kind.typeName target.id fun e =>
          { e with recording := { e.recording with tags := some (shape.encode tags) } })

/-- Deletes a resource, and every other one of its kind with its id. A call on an unknown kind is
logged too. -/
def delete (p : Provider) (target : ResourceRef) : Reply Unit :=
  let p := p.log .delete target
  match p.kindOf target.kind with
  | .error e => (.error e, p)
  | .ok kind =>
    match p.gate kind target.id with
    | (.error e, p) => (.error e, p)
    | (.ok _, p) => (.ok (), p.remove kind.typeName target.id)

/-- Sets fields of a resource. Only an object of fields is a change. -/
def update (p : Provider) (target : ResourceRef) (change : Json) : Reply Unit :=
  match change.asObject? with
  | none => (.error (.validation "update payload must be an object"), p)
  | some fields =>
    let p := p.log .update target
    match p.kindOf target.kind with
    | .error e => (.error e, p)
    | .ok kind =>
      match p.gate kind target.id with
      | (.error e, p) => (.error e, p)
      | (.ok _, p) =>
        (.ok (), p.modify kind.typeName target.id fun e =>
          { e with overlay := Keyed.putAll e.overlay fields })

/-- The record of a resource with its updates. -/
def recordOf (p : Provider) (kind : ResourceKind) (entry : Entry) : Except Failure Json := do
  match ← describe p.source p.ingest kind entry.recording with
  | .obj fields => .ok (.obj (Keyed.putAll fields entry.overlay))
  | v => .ok v

/-- The records of all resources of a kind. -/
def list (p : Provider) (name : String) : Except ProviderError (List Json) := do
  let kind ← p.kindOf name
  let entries := p.entries.filter fun e => e.target.kind = kind.typeName
  (entries.mapM (p.recordOf kind)).mapError fun e => .other e.line

/-- The resources of a kind with their records, as policies see them. -/
def resources (p : Provider) (name : String) : Except Failure (List (ResourceRef × Json)) := do
  let kind ← (p.catalog.get name).mapError .catalog
  let records ← (p.list name).mapError .provider
  records.mapM fun record => do
    let target ← (kind.refOf record).mapError .record
    .ok (target, record)

/-- Opens a session with a service that some kind of the catalog belongs to. -/
def openSession (p : Provider) (service : String) : Reply Unit :=
  if p.catalog.kinds.any fun k => k.service = service then
    (.ok (), { p with sessions := p.sessions + 1 })
  else (.error (.validation s!"unknown service '{service}'"), p)

def closeSession (p : Provider) : Provider := { p with sessions := p.sessions - 1 }

end TagGovernance.Provider
