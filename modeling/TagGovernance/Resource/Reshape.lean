import TagGovernance.Json.Value
import TagGovernance.Resource.Error

/-!
# Reshaping responses

The responses of detail calls made into the flat records that filters read. Metadata of the
response never gets into a record.
-/

namespace TagGovernance.Reshape

def withoutMetadata : Json → Json
  | .obj fields => .obj (Keyed.erase "ResponseMetadata" fields)
  | v => v

/-- The fields of an object, or an error. -/
def fieldsOf (error : RecordError) : Json → Except RecordError (List (String × Json))
  | .obj fields => .ok fields
  | _ => .error error

def fieldOf (error : RecordError) (key : String) (fields : List (String × Json)) :
    Except RecordError Json :=
  match Keyed.find? key fields with
  | some v => .ok v
  | none => .error error

/-- A firewall is described next to its status and its update token, which become fields of it. The
status is empty if there is none. -/
def firewall (response : Json) : Except RecordError Json := do
  let fields ← fieldsOf .firewallResponse (withoutMetadata response)
  let firewall ← fieldOf .firewallMissing "Firewall" fields
  let inner ← fieldsOf .firewallNotAnObject firewall
  let inner := match Keyed.find? "UpdateToken" fields with
    | some token => Keyed.put "UpdateToken" token inner
    | none => inner
  let status := (Keyed.find? "FirewallStatus" fields).getD (.obj [])
  .ok (.obj (Keyed.put "FirewallStatus" status inner))

/-- A configuration snapshot wraps the firewall in a field, which is dissolved into the item. -/
def firewallSnapshot (item : Json) : Except RecordError Json := do
  let fields ← fieldsOf .configItem item
  let outer := Keyed.erase "Firewall" fields
  match Keyed.find? "Firewall" fields with
  | some (.obj inner) => .ok (.obj (Keyed.putAll outer inner))
  | _ => .ok (.obj outer)

/-- The details of an access point lack the name that the listing carried. -/
def accessPoint (listed detail : Json) : Except RecordError Json := do
  match (listed.field? "AccessPointArn").bind Json.asString? with
  | none => .error .listedWithoutArn
  | some arn =>
    let fields ← fieldsOf .accessPointResponse (withoutMetadata detail)
    .ok (.obj (Keyed.put "AccessPointArn" (.str arn) fields))

def storageLens (detail : Json) : Json := withoutMetadata detail

/-- Lifts a field of the response to the top. -/
def hoist (key : String) (detail : Json) : Except RecordError Json :=
  match (withoutMetadata detail).field? key with
  | some v => .ok v
  | none => .error (.nothingToHoist key)

end TagGovernance.Reshape
