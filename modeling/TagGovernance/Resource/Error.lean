import TagGovernance.Graph.Order
import TagGovernance.Resource.Operation

/-!
# Errors about kinds and records
-/

namespace TagGovernance

/-- Why a list of kinds is no catalog, or what was looked for in one and not found. -/
inductive CatalogError
  | order (error : OrderError)
  | duplicateKind (kind : String)
  | tagsWithoutShape (kind : String)
  | marksWithoutTags (kind : String)
  | unknownKind (name : String)
  | unsupported (kind : String) (operation : Operation)
  deriving DecidableEq, Repr

def CatalogError.message : CatalogError → String
  | order error => error.message
  | duplicateKind kind => s!"invalid catalog: duplicate resource type '{kind}'"
  | tagsWithoutShape kind => s!"invalid catalog: '{kind}' has tag actions but no tag shape"
  | marksWithoutTags kind => s!"invalid catalog: '{kind}' marks for op without tag support"
  | unknownKind name => s!"unknown resource type '{name}'"
  | unsupported kind operation =>
    s!"resource type '{kind}' does not support '{operation.name}'"

/-- Why recorded responses do not give a record, or a record no reference. -/
inductive RecordError
  | detailWithoutCall (kind : String)
  | responseWithoutCall (kind call : String)
  | noId (kind path : String)
  | notAnObject (kind : String)
  | noConfigSource (kind : String)
  | firewallResponse
  | firewallMissing
  | firewallNotAnObject
  | configItem
  | listedWithoutArn
  | accessPointResponse
  | nothingToHoist (key : String)
  deriving DecidableEq, Repr

def RecordError.message : RecordError → String
  | detailWithoutCall kind => s!"'{kind}' records a detail response but has no detail call"
  | responseWithoutCall kind call =>
    s!"'{kind}' records a '{call}' response but never makes that call"
  | noId kind path => s!"{kind} record has no '{path}'"
  | notAnObject kind => s!"{kind} record is not an object"
  | noConfigSource kind => s!"resource type '{kind}' has no config source"
  | firewallResponse => "describe_firewall response is not an object"
  | firewallMissing => "describe_firewall response has no Firewall"
  | firewallNotAnObject => "Firewall is not an object"
  | configItem => "config item is not an object"
  | listedWithoutArn => "listed access point has no AccessPointArn"
  | accessPointResponse => "get_access_point response is not an object"
  | nothingToHoist key => s!"response has no '{key}'"

end TagGovernance
