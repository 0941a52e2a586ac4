import TagGovernance.Proofs.Batch.Issued
import TagGovernance.Proofs.Provider.TagReads
import TagGovernance.Proofs.Replay.Runs

/-!
# Calls that operations allow

A run checks once for each wish that the kind supports an operation, and then acts on all selected
resources. Every call that changes a resource goes back to such a check, also in a run that ends with
an error. The check looks at what the request asks for and not at what a call does: a request that
adds and removes tags is checked for adding only.
-/

namespace TagGovernance

namespace TagSet

def Drops (old new : TagSet) : Prop := ∃ key, old.has key = true ∧ new.has key = false

def Sets (old new : TagSet) : Prop :=
  ∃ key value, new.get? key = some value ∧ old.get? key ≠ some value

variable {existing add : TagSet} {remove : TagKeys}

theorem Drops.removed (h : existing.Drops (reconcile existing add remove)) :
    ∃ key ∈ remove, add.has key = false := by
  obtain ⟨key, hold, hnew⟩ := h
  rw [has, get?_reconcile, Option.isSome_or, Bool.or_eq_false_iff] at hnew
  obtain ⟨hadd, hrest⟩ := hnew
  refine ⟨key, ?_, hadd⟩
  by_contra hkept
  rw [if_neg hkept] at hrest
  exact absurd (hrest.symm.trans hold) Bool.false_ne_true

theorem Sets.added (h : existing.Sets (reconcile existing add remove)) : add.isEmpty = false := by
  obtain ⟨key, value, hnew, hold⟩ := h
  rw [Bool.eq_false_iff]
  intro hnone
  have hadd : add.get? key = none := by
    rw [get?, List.isEmpty_iff.1 hnone]
    rfl
  rw [get?_reconcile, hadd, Option.none_or] at hnew
  split at hnew
  · cases hnew
  · exact hold hnew

end TagSet

theorem Provider.getTags_again {p : Provider} {target : ResourceRef} {existing : TagSet}
    (h : (p.getTags target).1 = .ok existing) :
    ((p.getTags target).2.getTags target).1 = .ok existing := by
  obtain ⟨present, hagain⟩ := p.getTags_settles target
  rw [getTags_of_present present, hagain, h]

namespace Action

open ClientCall (makeAll Throughout)

def task : Action → Batch.Task
  | tags add remove => .tag add remove
  | mark stamp => .tag stamp []
  | protection state => .update (.ofFields [("DeleteProtection", .bool state)]) .last
  | delete => .delete .last

theorem run_task (action : Action) : action.task.run = action.work := by
  cases action with
  | tags add remove => exact Batch.Task.run_tag add remove
  | mark stamp => exact Batch.Task.run_tag stamp []
  | protection state => exact Batch.Task.run_update _
  | delete => exact Batch.Task.run_delete

def allCalls (targets : List ResourceRef) (p : Provider) : List Action → List ClientCall
  | [] => []
  | action :: rest =>
    action.task.batchCalls p targets ++ allCalls targets (action.run p targets).2 rest

theorem makeAll_batchCalls (action : Action) (p : Provider) (targets : List ResourceRef) :
    (makeAll p (action.task.batchCalls p targets)).2 = (action.run p targets).2 := by
  rw [Batch.Task.makeAll_batchCalls, run_task, run_provider]

theorem makeAll_allCalls (targets : List ResourceRef) (p : Provider) (actions : List Action) :
    (makeAll p (allCalls targets p actions)).2 = (runAll targets p actions).2 := by
  induction actions generalizing p with
  | nil => rfl
  | cons action rest ih =>
    rw [allCalls, ClientCall.makeAll_append, makeAll_batchCalls, ih]
    rfl

theorem throughout_allCalls {P : Provider → ClientCall → Prop} {targets : List ResourceRef}
    {actions : List Action} (p : Provider)
    (h : ∀ action ∈ actions, ∀ q, ∀ target ∈ targets, Throughout P q (action.task.calls q target)) :
    Throughout P p (allCalls targets p actions) := by
  induction actions generalizing p with
  | nil => trivial
  | cons action rest ih =>
    obtain ⟨hfirst, hrest⟩ := List.forall_mem_cons.1 h
    rw [allCalls, ClientCall.throughout_append, makeAll_batchCalls]
    exact ⟨Batch.Task.throughout_batchCalls p hfirst, ih _ hrest⟩

end Action

namespace ReplayRequest

open ClientCall (makeAll Throughout)

variable {r : ReplayRequest} {kind : ResourceKind} {ingest : Ingest} {now : Instant}

/-- What the operations of a kind allow a request to do to a resource. Tags that are added stand in
for the removal of others. -/
def Allows (r : ReplayRequest) (kind : ResourceKind) (q : Provider) : ClientCall → Prop
  | .putTags target tags => ∃ existing, (q.getTags target).1 = .ok existing ∧
    (existing.Drops tags → kind.supports .removeTag = true ∨
      r.add ≠ [] ∧ kind.supports .tag = true) ∧
    (existing.Sets tags → kind.supports .tag = true ∨ kind.supports .markForOp = true)
  | .delete _ => kind.supports .delete = true
  | .update _ _ => kind.supports .updateDeleteProtection = true
  | .getTags _ | .list _ => True

/-- Tagging is allowed if dropping the removed keys is, and setting the added ones. -/
theorem allows_tag {add : TagSet} {remove : TagKeys}
    (hdrops : (∃ key ∈ remove, add.has key = false) → kind.supports .removeTag = true ∨
      r.add ≠ [] ∧ kind.supports .tag = true)
    (hsets : add.isEmpty = false → kind.supports .tag = true ∨ kind.supports .markForOp = true)
    (q : Provider) (target : ResourceRef) :
    Throughout (r.Allows kind) q ((Batch.Task.tag add remove).calls q target) := by
  rw [Batch.Task.calls_tag]
  refine ⟨trivial, ?_⟩
  cases hget : (q.getTags target).1 with
  | error error => trivial
  | ok existing =>
    dsimp only
    split
    · trivial
    · -- The tags that the write replaces are those that were just read.
      refine ⟨⟨existing, Provider.getTags_again hget, fun h => hdrops h.removed, fun h => ?_⟩, trivial⟩
      exact hsets h.added

/-- The calls of an action are allowed if the operation of its wish is supported. -/
theorem allows_action {wish : Wish} {action : Action} (hasked : r.asked ingest now wish = .ok action)
    (hsupports : kind.supports (r.operation wish) = true) (q : Provider) (target : ResourceRef) :
    Throughout (r.Allows kind) q (action.task.calls q target) := by
  cases wish with
  | tags =>
    obtain ⟨add, hadd, rfl⟩ := Fallible.map_eq_ok.1 hasked
    have hempty := tagPairs_isEmpty hadd
    rw [operation] at hsupports
    refine allows_tag (fun _ => ?_) (fun hadds => ?_) q target
    · split at hsupports
      · exact .inl hsupports
      · rename_i hadds
        exact .inr ⟨fun hnone => hadds (hnone ▸ rfl), hsupports⟩
    · rw [← hempty, hadds] at hsupports
      exact .inl hsupports
  | mark operation days =>
    obtain ⟨stamp, -, rfl⟩ := Fallible.map_eq_ok.1 hasked
    refine allows_tag (fun hdrops => ?_) (fun _ => .inr hsupports) q target
    obtain ⟨key, hkey, -⟩ := hdrops
    cases hkey
  | protection state =>
    obtain rfl := Except.ok.inj hasked
    rw [Action.task, Batch.Task.calls_update]
    exact ⟨hsupports, trivial⟩
  | delete =>
    obtain rfl := Except.ok.inj hasked
    rw [Action.task, Batch.Task.calls_delete]
    exact ⟨hsupports, trivial⟩

/-- The calls that a run makes in its session. -/
def issued (r : ReplayRequest) (settings : Settings) (now : Instant) (p : Provider) :
    List ClientCall :=
  match r.selection p now with
  | .error _ => []
  | .ok (kind, selected) => Action.allCalls selected { p with sessions := p.sessions + 1 }
      (r.performed settings now p kind)

/-- Every call of a run is allowed by the kind of its resource, whether the run succeeds or ends with
an error: each deletion, each update and each write that sets tags is by an operation that the kind
supports. A write that drops tags needs the support for removing them, or for adding tags if the
request adds some, too. -/
theorem issued_allowed (r : ReplayRequest) (settings : Settings) (now : Instant) (p : Provider) :
    (makeAll { p with sessions := p.sessions + 1 } (r.issued settings now p)).2.closeSession =
      (r.run settings now p).2 ∧
    Throughout (fun q call => ∃ kind ∈ p.catalog.kinds,
      (∀ target, call.about? = some target → target.kind = kind.typeName) ∧ r.Allows kind q call)
      { p with sessions := p.sessions + 1 } (r.issued settings now p) := by
  rw [issued]
  cases h : r.selection p now with
  | error e =>
    rw [run_of_failure h]
    exact ⟨rfl, trivial⟩
  | ok found =>
    obtain ⟨chosen, selected⟩ := found
    refine ⟨?_, ?_⟩
    · rw [run_provider settings h, Action.makeAll_allCalls]
    · obtain ⟨resources, hresources, hsubset⟩ := selection_resources h
      refine Action.throughout_allCalls _ fun action haction q target htarget => ?_
      obtain ⟨wish, -, hprepare⟩ := mem_readied haction
      obtain ⟨⟨kind, hk, hsupports⟩, hasked⟩ := asked_of_prepare hprepare
      obtain ⟨d, hd, rfl⟩ := hsubset target htarget
      have hkind := kind_of_resources hresources hk d hd
      refine (allows_action hasked hsupports q d.1).imp fun q call hcall hallowed => ?_
      refine ⟨kind, (Catalog.get_eq_ok hk).1, fun named hnamed => ?_, hallowed⟩
      obtain rfl := Option.some.inj ((action.task.about_calls _ d.1 call hcall).symm.trans hnamed)
      exact hkind

/-- A kind whose resources can get tags but cannot lose them. -/
def box : ResourceKind where
  typeName := "box"
  operations := [.tag]

def ownedBox : Flight where
  resources := [("box", [{
    listed := .obj [("Name", .str "a")]
    tags := some (.arr [.obj [("Key", .str "owner"), ("Value", .str "policy")]]) }])]

def replaceOwner : ReplayRequest where
  kind := "box"
  add := [("env", "dev")]
  remove := ["owner"]

/-- A tag is removed though the kind does not support it, in a request that adds another one. -/
theorem removal_unchecked : ∃ catalog p existing,
    Catalog.ofKinds [box] = .ok catalog ∧ Provider.ofFlight catalog ownedBox .strict = .ok p ∧
    box.supports .removeTag = false ∧
    replaceOwner.issued {} ⟨0⟩ p = [.getTags ⟨"box", "a", none⟩,
      .putTags ⟨"box", "a", none⟩ (.ofList [("env", "dev")])] ∧
    (p.getTags ⟨"box", "a", none⟩).1 = .ok existing ∧
    existing.Drops (.ofList [("env", "dev")]) := by
  have hcatalog : Catalog.ofKinds [box] = .ok ⟨[box], ["box"]⟩ :=
    Catalog.ofKinds_eq_ok (by decide) (by cbv)
  exact ⟨_, _, .ofList [("owner", "policy")], hcatalog, rfl, rfl, rfl, rfl, "owner", rfl, rfl⟩

end ReplayRequest

end TagGovernance
