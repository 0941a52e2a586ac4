import TagGovernance.Proofs.Batch.Work
import TagGovernance.Proofs.Policy.Stamp
import TagGovernance.Replay.Run

/-!
# What a run performs

Every action is one piece of work that is done for all selected resources. The wishes of a request
become actions in their order, up to the first one that cannot be met. A run performs these actions
and no others, each as a whole batch, whether or not a wish behind them fails.
-/

namespace TagGovernance

open Provider (Confined)

namespace Action

def work : Action → Batch.Work
  | tags add remove => Batch.tagOne add remove
  | mark stamp => Batch.tagOne stamp []
  | protection state => Batch.updateOne (.ofFields [("DeleteProtection", .bool state)])
  | delete => Batch.deleteOne

theorem run_provider (action : Action) (p : Provider) (targets : List ResourceRef) :
    (action.run p targets).2 = (Batch.runItems action.work p targets).2 := by
  cases action <;> rfl

def runAll (targets : List ResourceRef) (p : Provider) :
    List Action → List BatchReport × Provider
  | [] => ([], p)
  | action :: rest =>
    let (report, p) := action.run p targets
    let (reports, p) := runAll targets p rest
    (report :: reports, p)

def name : Action → String
  | tags add _ => Batch.tagAction add
  | mark _ => Operation.markForOp.name
  | protection _ => Operation.updateDeleteProtection.name
  | delete => Operation.delete.name

theorem run_report (action : Action) (p : Provider) (targets : List ResourceRef) :
    (action.run p targets).1.action = action.name ∧
      (action.run p targets).1.items.map (·.resource) = targets.map (·.id) := by
  cases action <;> exact ⟨rfl, Batch.runItems_resource ..⟩

theorem runAll_reports (targets : List ResourceRef) (p : Provider) (actions : List Action) :
    (runAll targets p actions).1.map (·.action) = actions.map name ∧
      ∀ report ∈ (runAll targets p actions).1,
        report.items.map (·.resource) = targets.map (·.id) := by
  induction actions generalizing p with
  | nil => exact ⟨rfl, nofun⟩
  | cons action rest ih =>
    obtain ⟨hname, hitems⟩ := action.run_report p targets
    obtain ⟨hnames, hreports⟩ := ih (action.run p targets).2
    exact ⟨congrArg₂ List.cons hname hnames, List.forall_mem_cons.2 ⟨hitems, hreports⟩⟩

theorem work_confined (action : Action) (p : Provider) (target : ResourceRef) :
    Confined (Catalog.bareName target.kind) [target.id] ["DeleteProtection"] p
      (action.work p target).2 := by
  cases action with
  | tags add remove => exact Batch.tagOne_confined add remove _ p target
  | mark stamp => exact Batch.tagOne_confined stamp [] _ p target
  | protection state =>
    exact Batch.updateOne_confined (.ofFields [("DeleteProtection", .bool state)]) rfl p target
  | delete => exact Batch.deleteOne_confined _ p target

section Targets

variable {kind : String} {ids : List String} {targets : List ResourceRef}
  (named : ∀ target ∈ targets, Catalog.bareName target.kind = kind ∧ target.id ∈ ids)

include named

theorem run_confined (action : Action) (p : Provider) :
    Confined kind ids ["DeleteProtection"] p (action.run p targets).2 := by
  rw [run_provider]
  exact Batch.runItems_confined action.work_confined p named

theorem runAll_confined (actions : List Action) (p : Provider) :
    Confined kind ids ["DeleteProtection"] p (runAll targets p actions).2 := by
  induction actions generalizing p with
  | nil => exact .refl ..
  | cons action rest ih => exact (run_confined named action p).trans (ih _)

end Targets

theorem run_catalog (action : Action) (p : Provider) (targets : List ResourceRef) :
    (action.run p targets).2.catalog = p.catalog := by
  rw [run_provider]
  refine Batch.runItems_keeps (P := fun _ q => q.catalog = p.catalog) rfl ?_
  exact fun _ q target _ h => (action.work_confined q target).catalog.trans h

theorem runAll_append (targets : List ResourceRef) (p : Provider) (xs ys : List Action) :
    (runAll targets p (xs ++ ys)).2 = (runAll targets (runAll targets p xs).2 ys).2 := by
  induction xs generalizing p with
  | nil => rfl
  | cons action rest ih => exact ih (action.run p targets).2

theorem runAll_catalog (targets : List ResourceRef) (p : Provider) (actions : List Action) :
    (runAll targets p actions).2.catalog = p.catalog := by
  induction actions generalizing p with
  | nil => rfl
  | cons action rest ih => exact (ih (action.run p targets).2).trans (run_catalog action p targets)

end Action

namespace ReplayRequest

variable {r : ReplayRequest} {catalog : Catalog} {name : String} {ingest : Ingest} {now : Instant}

theorem tagPairs_has_empty {pairs : List (String × String)} {tags : TagSet}
    (h : tagPairs pairs ingest = .ok tags) : tags.has "" = false :=
  TagSet.ofPairs_has_empty (Fallible.mapError_eq_ok.1 (Fallible.mapError_eq_ok.1 h))

theorem tagPairs_isEmpty {pairs : List (String × String)} {tags : TagSet}
    (h : tagPairs pairs ingest = .ok tags) : tags.isEmpty = pairs.isEmpty := by
  rw [TagSet.ofPairs_isEmpty (Fallible.mapError_eq_ok.1 (Fallible.mapError_eq_ok.1 h)),
    List.isEmpty_map]

/-- The action that a wish asks for, whether or not the kind supports it. -/
def asked (r : ReplayRequest) (ingest : Ingest) (now : Instant) : Wish → Except Failure Action
  | .tags => (tagPairs r.add ingest).map (.tags · r.remove)
  | .mark action days =>
    (Mark.tagsAt { tag := r.markTag.getD defaultMarkTag, action, days } now).map .mark
  | .protection state => .ok (.protection state)
  | .delete => .ok .delete

/-- A wish that is met is supported by the kind, and becomes the action that it asks for. -/
theorem asked_of_prepare {wish : Wish} {action : Action}
    (h : r.prepare catalog name ingest now wish = .ok action) :
    (∃ kind, catalog.get name = .ok kind ∧ kind.supports (r.operation wish) = true) ∧
      r.asked ingest now wish = .ok action := by
  obtain ⟨kind, hrequire, h⟩ := Fallible.bind_eq_ok.1 h
  obtain ⟨found, hfound, hrequire⟩ := Fallible.bind_eq_ok.1 (Fallible.mapError_eq_ok.1 hrequire)
  split at hrequire
  · rename_i hsupports
    refine ⟨⟨found, hfound, hsupports⟩, ?_⟩
    cases wish with
    | tags =>
      obtain ⟨tags, htags, h⟩ := Fallible.bind_eq_ok.1 h
      exact Fallible.map_eq_ok.2 ⟨tags, htags, Except.ok.inj h⟩
    | mark action days =>
      obtain ⟨stamp, hstamp, h⟩ := Fallible.bind_eq_ok.1 h
      exact Fallible.map_eq_ok.2 ⟨stamp, hstamp, Except.ok.inj h⟩
    | protection state => exact h
    | delete => exact h
  · cases hrequire

/-- The actions for wishes up to the first one that cannot be met, and the failure of that one. -/
def readied (r : ReplayRequest) (catalog : Catalog) (kind : String) (ingest : Ingest)
    (now : Instant) : List Wish → List Action × Option Failure
  | [] => ([], none)
  | wish :: rest =>
    match r.prepare catalog kind ingest now wish with
    | .error e => ([], some e)
    | .ok action =>
      (action :: (readied r catalog kind ingest now rest).1,
        (readied r catalog kind ingest now rest).2)

theorem readied_append (xs ys : List Wish) :
    (r.readied catalog name ingest now (xs ++ ys)).1 =
      (r.readied catalog name ingest now xs).1 ++
        if (r.readied catalog name ingest now xs).2.isNone then
          (r.readied catalog name ingest now ys).1 else [] := by
  induction xs with
  | nil => rfl
  | cons wish rest ih =>
    rw [List.cons_append, readied, readied]
    cases r.prepare catalog name ingest now wish with
    | error e => rfl
    | ok action => simp only [ih, List.cons_append]

theorem mem_readied {wishes : List Wish} {action : Action}
    (h : action ∈ (r.readied catalog name ingest now wishes).1) :
    ∃ wish ∈ wishes, r.prepare catalog name ingest now wish = .ok action := by
  induction wishes with
  | nil => cases h
  | cons wish rest ih =>
    rw [readied] at h
    cases hwish : r.prepare catalog name ingest now wish with
    | error e => simp [hwish] at h
    | ok first =>
      rw [hwish] at h
      rcases List.mem_cons.1 h with rfl | h
      · exact ⟨wish, List.mem_cons_self, hwish⟩
      · obtain ⟨found, hfound, hprepare⟩ := ih h
        exact ⟨found, List.mem_cons_of_mem _ hfound, hprepare⟩

theorem readied_some {wishes : List Wish} {actions : List Action} {e : Failure}
    (h : r.readied catalog name ingest now wishes = (actions, some e)) :
    ∃ (met : List Wish) (wish : Wish) (rest : List Wish), wishes = met ++ wish :: rest ∧
      met.mapM (r.prepare catalog name ingest now) = .ok actions ∧
      r.prepare catalog name ingest now wish = .error e := by
  induction wishes generalizing actions with
  | nil => simp [readied] at h
  | cons wish rest ih =>
    rw [readied] at h
    split at h
    · rename_i hwish
      obtain ⟨rfl, rfl⟩ : [] = actions ∧ _ = e := by simpa using h
      exact ⟨[], wish, rest, rfl, rfl, hwish⟩
    · rename_i action hwish
      obtain ⟨rfl, hrest⟩ := Prod.mk.inj h
      obtain ⟨met, failing, behind, rfl, hmet, hfails⟩ := ih (Prod.ext rfl hrest)
      refine ⟨wish :: met, failing, behind, rfl, ?_, hfails⟩
      rw [Fallible.mapM_cons_eq, hwish, hmet]
      rfl

theorem readied_none {wishes : List Wish} {actions : List Action}
    (h : r.readied catalog name ingest now wishes = (actions, none)) :
    wishes.mapM (r.prepare catalog name ingest now) = .ok actions := by
  induction wishes generalizing actions with
  | nil =>
    obtain ⟨rfl, -⟩ := Prod.mk.inj h
    rfl
  | cons wish rest ih =>
    rw [readied] at h
    split at h
    · cases (Prod.mk.inj h).2
    · rename_i action hwish
      obtain ⟨rfl, hrest⟩ := Prod.mk.inj h
      rw [Fallible.mapM_cons_eq, hwish, ih (Prod.ext rfl hrest)]
      rfl

/-- Performing wishes is running the actions that are readied for them. -/
theorem perform_eq (targets : List ResourceRef) (p : Provider) (wishes : List Wish) :
    r.perform name ingest now targets p wishes =
      (match (r.readied p.catalog name ingest now wishes).2 with
        | some e => .error e
        | none =>
          .ok (Action.runAll targets p (r.readied p.catalog name ingest now wishes).1).1,
        (Action.runAll targets p (r.readied p.catalog name ingest now wishes).1).2) := by
  induction wishes generalizing p with
  | nil => rfl
  | cons wish rest ih =>
    rw [perform, readied]
    cases r.prepare p.catalog name ingest now wish with
    | error e => rfl
    | ok action =>
      simp only [ih, action.run_catalog, Action.runAll]
      cases (r.readied p.catalog name ingest now rest).2 <;> rfl

theorem openSession_of_get {p : Provider} {kind : ResourceKind}
    (h : p.catalog.get name = .ok kind) :
    p.openSession kind.service = (.ok (), { p with sessions := p.sessions + 1 }) := by
  have hknown : (p.catalog.kinds.any fun k => k.service = kind.service) = true :=
    List.any_eq_true.2 ⟨kind, (Catalog.get_eq_ok h).1, by simp⟩
  rw [Provider.openSession, if_pos hknown]

theorem get_of_selection {p : Provider} {kind : ResourceKind} {selected : List ResourceRef}
    (h : r.selection p now = .ok (kind, selected)) : p.catalog.get r.kind = .ok kind := by
  obtain ⟨found, hfound, h⟩ := Fallible.bind_eq_ok.1 h
  obtain ⟨policy, -, h⟩ := Fallible.bind_eq_ok.1 h
  obtain ⟨resources, -, h⟩ := Fallible.bind_eq_ok.1 h
  obtain ⟨chosen, -, h⟩ := Fallible.bind_eq_ok.1 h
  obtain ⟨rfl, rfl⟩ := Prod.mk.inj (Except.ok.inj h)
  exact Fallible.mapError_eq_ok.1 hfound

def performed (r : ReplayRequest) (settings : Settings) (now : Instant) (p : Provider)
    (kind : ResourceKind) : List Action :=
  (r.readied p.catalog kind.typeName settings.ingest now r.wishes).1

def acted (r : ReplayRequest) (settings : Settings) (now : Instant) (p : Provider)
    (kind : ResourceKind) (selected : List ResourceRef) : List BatchReport × Provider :=
  let done := Action.runAll selected { p with sessions := p.sessions + 1 }
    (r.performed settings now p kind)
  (done.1, done.2.closeSession)

/-- A run that selects resources acts on them; then the wish that fails decides its answer, or else
the last look at the resources. -/
theorem run_eq (settings : Settings) {p : Provider} {kind : ResourceKind}
    {selected : List ResourceRef} (h : r.selection p now = .ok (kind, selected)) :
    r.run settings now p =
      (match (r.readied p.catalog kind.typeName settings.ingest now r.wishes).2 with
        | some e => .error e
        | none => ((r.acted settings now p kind selected).2.resources kind.typeName).map
            fun remaining =>
              ⟨selected, (r.acted settings now p kind selected).1, remaining.map Prod.snd⟩,
        (r.acted settings now p kind selected).2) := by
  unfold run
  rw [h]
  dsimp only
  rw [openSession_of_get (get_of_selection h)]
  dsimp only
  rw [perform_eq]
  cases (r.readied p.catalog kind.typeName settings.ingest now r.wishes).2 with
  | some e => rfl
  | none =>
    change ((r.acted settings now p kind selected).2.resources kind.typeName >>= _, _) = _
    cases (r.acted settings now p kind selected).2.resources kind.typeName <;> rfl

theorem run_provider (settings : Settings) {p : Provider} {kind : ResourceKind}
    {selected : List ResourceRef} (h : r.selection p now = .ok (kind, selected)) :
    (r.run settings now p).2 = (Action.runAll selected { p with sessions := p.sessions + 1 }
      (r.performed settings now p kind)).2.closeSession := by
  rw [run_eq settings h]
  rfl

end ReplayRequest

end TagGovernance
