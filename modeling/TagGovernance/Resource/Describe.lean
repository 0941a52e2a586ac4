import TagGovernance.Failure
import TagGovernance.Resource.Ref
import TagGovernance.Resource.Kind
import TagGovernance.Resource.Recording
import TagGovernance.Resource.Reshape

/-!
# Describing resources

The record of a resource that policies see is built from its recorded responses. Tags are always
attached as the field `Tags` in pascal shape.
-/

namespace TagGovernance.ResourceKind

/-- Refuses recorded responses of calls that the kind never makes. -/
def checkRecording (kind : ResourceKind) (rec : Recording) : Except RecordError Unit := do
  if rec.detail.isSome ∧ kind.detailOp.isNone then
    .error (.detailWithoutCall kind.typeName)
  match rec.responses.find? (fun r => kind.annotations.all (fun a => a.call ≠ r.1)) with
  | some (call, _) => .error (.responseWithoutCall kind.typeName call)
  | none => .ok ()

/-- The reference to the resource that a record describes. -/
def refOf (kind : ResourceKind) (record : Json) : Except RecordError ResourceRef :=
  match (record.path? kind.idPath).bind Json.asString? with
  | none => .error (.noId kind.typeName kind.idPath)
  | some id =>
    let arn := (kind.arnPath.bind (record.path? ·)).bind Json.asString?
    .ok ⟨kind.typeName, id, arn⟩

/-- The record before tags and annotations: the reshaped details, or the listed item. -/
def baseRecord (kind : ResourceKind) (rec : Recording) : Except RecordError Json :=
  match rec.detail with
  | none => .ok rec.listed
  | some detail =>
    match kind.augment with
    | .plain => .ok detail
    | .firewall => Reshape.firewall detail
    | .accessPoint => Reshape.accessPoint rec.listed detail
    | .storageLens => .ok (Reshape.storageLens detail)
    | .hoist key => Reshape.hoist key detail

/-- Sets a field of a record. -/
def attach (kind : ResourceKind) (key : String) (value : Json) :
    Json → Except RecordError Json
  | .obj fields => .ok (.obj (Keyed.put key value fields))
  | _ => .error (.notAnObject kind.typeName)

/-- Attaches the recorded tags of a kind that has tags. -/
def attachTags (kind : ResourceKind) (ingest : Ingest) (rec : Recording) (record : Json) :
    Except Failure Json :=
  match kind.tagShape, rec.tags with
  | some shape, some raw => do
    let tags ← during (.decodingTags kind.typeName)
      ((shape.decode raw ingest).mapError .ingest)
    (kind.attach "Tags" (TagShape.pascal.encode tags) record).mapError .record
  | _, _ => .ok record

/-- Attaches the recorded response of one side call. -/
def attachAnnotation (kind : ResourceKind) (rec : Recording) (record : Json) (a : Annotation) :
    Except RecordError Json :=
  match Keyed.find? a.call rec.responses with
  | some response => kind.attach a.key (a.extract response) record
  | none => .ok record

/-- The record of a resource. -/
def describe (kind : ResourceKind) (rec : Recording) (ingest : Ingest) : Except Failure Json := do
  let base ← (kind.baseRecord rec).mapError .record
  let record ← kind.attachTags ingest rec base
  (kind.annotations.foldlM (kind.attachAnnotation rec) record).mapError .record

/-- The listed item that stands in a configuration snapshot. -/
def loadSnapshot (kind : ResourceKind) (item : Json) : Except RecordError Json :=
  if kind.configSource then Reshape.firewallSnapshot item
  else .error (.noConfigSource kind.typeName)

end TagGovernance.ResourceKind
