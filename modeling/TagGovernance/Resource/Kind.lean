import TagGovernance.Json.Value
import TagGovernance.Resource.Operation
import TagGovernance.Tag.Shape

/-!
# Kinds of resources

How the resources of one kind are enumerated, described, tagged and changed.
-/

namespace TagGovernance

/-- A side call whose response is attached to the described record for filters to read. -/
inductive Annotation
  /-- A firewall's log destinations. -/
  | logging
  /-- The policy document of a resource, as the service returns it. -/
  | policy
  deriving DecidableEq, Repr

namespace Annotation

def name : Annotation → String
  | logging => "logging"
  | policy => "policy"

def ofName? : String → Option Annotation
  | "logging" => some logging
  | "policy" => some policy
  | _ => none

/-- The call that returns the annotation. -/
def call : Annotation → String
  | logging => "describe_logging_configuration"
  | policy => "get_access_point_policy"

/-- The field of the record that holds the annotation. -/
def key : Annotation → String
  | logging => "govtag:Logging"
  | policy => "govtag:Policy"

/-- The part of a response that is attached. -/
def extract (a : Annotation) (response : Json) : Json :=
  match a with
  | logging =>
    (response.path? "LoggingConfiguration.LogDestinationConfigs").getD (.arr [])
  | policy => (response.field? "Policy").getD .null

end Annotation

/-- How a detail response is made into a record. -/
inductive Augment
  | plain
  | firewall
  | accessPoint
  | storageLens
  /-- The record stands in a field of the response. -/
  | hoist (key : String)
  deriving DecidableEq, Repr

structure ResourceKind where
  typeName : String
  service : String := ""
  enumOp : String := ""
  enumKey : String := ""
  /-- The call for each resource whose response replaces the listed item. -/
  detailOp : Option String := none
  /-- The path to the identifier in a described record. -/
  idPath : String := "Name"
  arnPath : Option String := none
  cfnType : Option String := none
  tagShape : Option TagShape := some .pascal
  operations : List Operation := []
  /-- The kinds whose resources are deleted before those of this kind. -/
  deleteAfter : List String := []
  augment : Augment := .plain
  annotations : List Annotation := []
  /-- Whether configuration snapshots can stand in for describe calls. -/
  configSource : Bool := false
  deriving DecidableEq, Repr

namespace ResourceKind

def supports (kind : ResourceKind) (op : Operation) : Bool := kind.operations.contains op

def optional : Option String → Json
  | some s => .str s
  | none => .null

def names (xs : List String) : Json := .arr (xs.map .str)

def augmentJson : Augment → Json
  | .plain => .str "plain"
  | .firewall => .str "firewall"
  | .accessPoint => .str "access-point"
  | .storageLens => .str "storage-lens"
  | .hoist key => .ofFields [("hoist", .str key)]

def toJson (kind : ResourceKind) : Json :=
  .ofFields [
    ("type_name", .str kind.typeName),
    ("service", .str kind.service),
    ("enum_op", .str kind.enumOp),
    ("enum_key", .str kind.enumKey),
    ("detail_op", optional kind.detailOp),
    ("id", .str kind.idPath),
    ("arn", optional kind.arnPath),
    ("cfn_type", optional kind.cfnType),
    ("tag_shape", optional (kind.tagShape.map TagShape.name)),
    ("operations", names (kind.operations.map Operation.name)),
    ("delete_after", names kind.deleteAfter),
    ("augment", augmentJson kind.augment),
    ("annotations", names (kind.annotations.map Annotation.name)),
    ("config_source", .bool kind.configSource)]

end ResourceKind

end TagGovernance
