import TagGovernance.Batch.Actions
import TagGovernance.Policy.Select
import TagGovernance.Settings.Basic

/-!
# What a replay asks for

A replay selects resources of one kind and runs up to four actions on them, always in the same
order. What was asked for is checked against the catalog and read before its action runs, one action
after the other.
-/

namespace TagGovernance

/-- Tag pairs of a request go through the same rules as those of a payload. -/
def tagPairs (pairs : List (String × String)) (ingest : Ingest) : Except Failure TagSet :=
  during .addingTags
    ((TagSet.ofPairs ingest (pairs.map fun p => (some p.1, p.2))).mapError fun e => .ingest (.pair e))

structure ReplayRequest where
  kind : String
  /-- Filters in the form `tag:key=value`. -/
  filters : List String := []
  /-- Attributes of a log destination that the resource has to have. -/
  logging : List (String × String) := []
  crossAccount : Bool := false
  allowedAccounts : List String := []
  /-- The action that the resource has to be marked for. -/
  markedFor : Option String := none
  skewDays : Int := 0
  add : List (String × String) := []
  remove : List String := []
  /-- The action to mark resources for, and in how many days. -/
  mark : Option (String × Nat) := none
  markTag : Option String := none
  deleteProtection : Option Bool := none
  delete : Bool := false

/-- An action that is ready to run. -/
inductive Action
  | tags (add : TagSet) (remove : TagKeys)
  | mark (stamp : TagSet)
  | protection (state : Bool)
  | delete

namespace Action

def run (action : Action) (p : Provider) (targets : List ResourceRef) : BatchReport × Provider :=
  match action with
  | tags add remove => Batch.tagEach add remove p targets
  | mark stamp =>
    let (report, p) := Batch.tagEach stamp [] p targets
    ({ report with action := Operation.markForOp.name }, p)
  | protection state =>
    Batch.updateEach Operation.updateDeleteProtection.name
      (.ofFields [("DeleteProtection", .bool state)]) p targets
  | delete => Batch.deleteEach p targets

end Action

/-- A part of a request that becomes an action. -/
inductive Wish
  | tags
  | mark (action : String) (days : Nat)
  | protection (state : Bool)
  | delete

namespace ReplayRequest

/-- The filters that select resources. -/
def policy (r : ReplayRequest) : Except Failure Policy := do
  let tags ← r.filters.mapM TagFilter.ofText
  let logging := if r.logging.isEmpty then [] else
    [Filter.listItem { key := Annotation.logging.key, attrs := r.logging.map fun a => (a.1, .str a.2) }]
  let crossAccount := if r.crossAccount then [Filter.crossAccount ⟨r.allowedAccounts⟩] else []
  let marked := match r.markedFor with
    | some action => [Filter.marked { action, skewDays := r.skewDays }]
    | none => []
  .ok (tags.map Filter.tag ++ logging ++ crossAccount ++ marked)

/-- The wishes of a request in the order in which they are met. -/
def wishes (r : ReplayRequest) : List Wish :=
  (if r.add.isEmpty ∧ r.remove.isEmpty then [] else [.tags]) ++
  (match r.mark with
    | some (action, days) => [.mark action days]
    | none => []) ++
  (match r.deleteProtection with
    | some state => [.protection state]
    | none => []) ++
  (if r.delete then [.delete] else [])

/-- The operation that a wish needs. -/
def operation (r : ReplayRequest) : Wish → Operation
  | .tags => if r.add.isEmpty then .removeTag else .tag
  | .mark _ _ => .markForOp
  | .protection _ => .updateDeleteProtection
  | .delete => .delete

/-- The action that meets a wish, if the kind supports it and it can be read. -/
def prepare (r : ReplayRequest) (catalog : Catalog) (kind : String) (ingest : Ingest) (now : Instant)
    (wish : Wish) : Except Failure Action := do
  let _ ← (catalog.require kind (r.operation wish)).mapError .catalog
  match wish with
  | .tags => .ok (.tags (← tagPairs r.add ingest) r.remove)
  | .mark action days =>
    let mark : Mark := { tag := r.markTag.getD defaultMarkTag, action, days }
    .ok (.mark (← mark.tagsAt now))
  | .protection state => .ok (.protection state)
  | .delete => .ok .delete

end ReplayRequest

end TagGovernance
