import TagGovernance.Proofs.Batch.Readable
import TagGovernance.Proofs.Replay.Runs

/-!
# Marks with an empty key

Pairs to add are taken in as tags of a service are, which refuses the empty key. The key of a mark is
used as it is given. A mark with the empty key is written to every live resource that was selected,
and from then on the tags of these resources cannot be read, unless the same run deletes them. This
is the only way in which runs make a kind that no longer can be enumerated, and nothing undoes it.
-/

namespace TagGovernance

open Provider (Confined Shut)

namespace Action

def taints : Action → Bool
  | tags add _ => add.has ""
  | mark stamp => stamp.has ""
  | _ => false

section Work

variable {p : Provider} {kind : ResourceKind} {target : ResourceRef}
  (hk : p.kindOf target.kind = .ok kind)

include hk

theorem work_of_live {action : Action} (hdelete : action ≠ .delete)
    (hshape : action.taints = true → ∃ shape, kind.tagShape = some shape)
    (h : p.Live kind.typeName target.id) :
    (action.work p target).2.Live kind.typeName target.id ∧
      ((action.work p target).2.Spoiled kind.typeName target.id ↔
        action.taints = true ∨ p.Spoiled kind.typeName target.id) := by
  cases action with
  | tags add remove => exact Batch.tagOne_of_live hk h hshape remove
  | mark stamp => exact Batch.tagOne_of_live hk h hshape []
  | protection state =>
    obtain ⟨hlive, hspoiled⟩ :=
      Batch.updateOne_of_live hk (.ofFields [("DeleteProtection", .bool state)]) rfl h
    exact ⟨hlive, hspoiled.trans (by simp [taints])⟩
  | delete => exact absurd rfl hdelete

theorem work_of_not_live (action : Action) (h : ¬p.Live kind.typeName target.id) :
    Shut kind.typeName target.id p (action.work p target).2 := by
  cases action with
  | tags add remove => exact Batch.tagOne_of_not_live hk h add remove
  | mark stamp => exact Batch.tagOne_of_not_live hk h stamp []
  | protection state =>
    exact Batch.updateOne_of_not_live hk (.ofFields [("DeleteProtection", .bool state)]) rfl h
  | delete => exact Batch.deleteOne_of_not_live hk h

end Work

/-- The spoiled resources of a kind are the live ones with some ids, if these were tainted. -/
def Tainted (kind : String) (ids : List String) (tainted : Bool) (p : Provider) : Prop :=
  ∀ id, p.Spoiled kind id ↔ tainted = true ∧ id ∈ ids ∧ p.Live kind id

structure TaintedSoFar (kind : String) (ids : List String) (tainted : Bool) (action : Action)
    (p : Provider) (done : List ResourceRef) (q : Provider) : Prop where
  catalog : q.catalog = p.catalog
  live : ∀ id, q.Live kind id ↔ p.Live kind id
  spoiled : ∀ id, q.Spoiled kind id ↔ p.Live kind id ∧
    (tainted = true ∧ id ∈ ids ∨ action.taints = true ∧ id ∈ done.map (·.id))

structure DeletedSoFar (kind : String) (ids : List String) (tainted : Bool) (p : Provider)
    (done : List ResourceRef) (q : Provider) : Prop where
  catalog : q.catalog = p.catalog
  spoiled : Tainted kind ids tainted q
  gone : ∀ id ∈ done.map (·.id), ¬q.Live kind id

section Targets

variable {p q : Provider} {kind : ResourceKind} {ids : List String} {tainted : Bool}
  {action : Action} {done targets : List ResourceRef} {target : ResourceRef}

private theorem work_apart (action : Action) (q : Provider) (name : String) {id : String}
    (hid : id ≠ target.id) : ((action.work q target).2.Live name id ↔ q.Live name id) ∧
      ((action.work q target).2.Spoiled name id ↔ q.Spoiled name id) := by
  have hconfined := action.work_confined q target
  have hapart : id ∉ [target.id] := by simpa using hid
  exact ⟨hconfined.live_iff hapart, hconfined.spoiled_iff (.inr hapart)⟩

private theorem kindOf_target (hk : p.catalog.get kind.typeName = .ok kind)
    (hcatalog : q.catalog = p.catalog) (hkind : target.kind = kind.typeName) :
    q.kindOf target.kind = .ok kind := by
  rw [hkind, Provider.kindOf, hcatalog, hk, Fallible.mapError_ok]

theorem TaintedSoFar.step (hk : p.catalog.get kind.typeName = .ok kind)
    (hdelete : action ≠ .delete)
    (hshape : action.taints = true → ∃ shape, kind.tagShape = some shape)
    (hkind : target.kind = kind.typeName)
    (h : TaintedSoFar kind.typeName ids tainted action p done q) :
    TaintedSoFar kind.typeName ids tainted action p (done ++ [target]) (action.work q target).2 := by
  have hfound := kindOf_target hk h.catalog hkind
  have hlast : target.id ∈ (done ++ [target]).map (·.id) :=
    List.mem_map_of_mem (List.mem_append_right _ List.mem_cons_self)
  have heach : ∀ id, ((action.work q target).2.Live kind.typeName id ↔ p.Live kind.typeName id) ∧
      ((action.work q target).2.Spoiled kind.typeName id ↔ p.Live kind.typeName id ∧
        (tainted = true ∧ id ∈ ids ∨
          action.taints = true ∧ id ∈ (done ++ [target]).map (·.id))) := by
    intro id
    by_cases hid : id = target.id
    · subst hid
      by_cases hlive : q.Live kind.typeName target.id
      · obtain ⟨hlive', hspoiled'⟩ := work_of_live hfound hdelete hshape hlive
        have hp := (h.live target.id).1 hlive
        refine ⟨iff_of_true hlive' hp, hspoiled'.trans ?_⟩
        rw [h.spoiled]
        constructor
        · rintro (htaints | ⟨-, htainted | ⟨htaints, -⟩⟩)
          · exact ⟨hp, .inr ⟨htaints, hlast⟩⟩
          · exact ⟨hp, .inl htainted⟩
          · exact ⟨hp, .inr ⟨htaints, hlast⟩⟩
        · rintro ⟨-, htainted | ⟨htaints, -⟩⟩
          · exact .inr ⟨hp, .inl htainted⟩
          · exact .inl htaints
      · obtain ⟨hlive', hspoiled'⟩ := work_of_not_live hfound action hlive
        have hp := mt (h.live target.id).2 hlive
        refine ⟨iff_of_false hlive' hp, iff_of_false (fun hs => ?_) fun hs => hp hs.1⟩
        exact hp ((h.spoiled target.id).1 (hspoiled' hs)).1
    · obtain ⟨hlive', hspoiled'⟩ := work_apart action q kind.typeName hid
      rw [hlive', hspoiled', h.live, h.spoiled]
      simp [hid]
  exact ⟨(action.work_confined q target).catalog.trans h.catalog, fun id => (heach id).1,
    fun id => (heach id).2⟩

theorem DeletedSoFar.step (hk : p.catalog.get kind.typeName = .ok kind)
    (hkind : target.kind = kind.typeName)
    (h : DeletedSoFar kind.typeName ids tainted p done q) :
    DeletedSoFar kind.typeName ids tainted p (done ++ [target]) (delete.work q target).2 := by
  have hfound := kindOf_target hk h.catalog hkind
  have hgone : ¬(delete.work q target).2.Live kind.typeName target.id ∧
      ¬(delete.work q target).2.Spoiled kind.typeName target.id := by
    by_cases hlive : q.Live kind.typeName target.id
    · exact Batch.deleteOne_of_live hfound hlive
    · obtain ⟨hlive', hspoiled'⟩ := work_of_not_live hfound delete hlive
      exact ⟨hlive', fun hs => hlive ((h.spoiled target.id).1 (hspoiled' hs)).2.2⟩
  refine ⟨(delete.work_confined q target).catalog.trans h.catalog, fun id => ?_, fun id hid => ?_⟩
  · by_cases hid : id = target.id
    · subst hid
      exact iff_of_false hgone.2 fun hs => hgone.1 hs.2.2
    · obtain ⟨hlive', hspoiled'⟩ := work_apart delete q kind.typeName hid
      rw [hlive', hspoiled', h.spoiled]
  · by_cases hne : id = target.id
    · exact hne ▸ hgone.1
    · rw [(work_apart delete q kind.typeName hne).1]
      exact h.gone id (by simpa [hne] using hid)

section Run

variable (hk : p.catalog.get kind.typeName = .ok kind)
  (named : ∀ target ∈ targets, target.kind = kind.typeName)

include hk named

/-- An action that does not delete keeps resources live, and taints all of them or none. -/
theorem run_tainted (hdelete : action ≠ .delete)
    (hshape : action.taints = true → ∃ shape, kind.tagShape = some shape)
    (h : Tainted kind.typeName (targets.map (·.id)) tainted p) :
    Tainted kind.typeName (targets.map (·.id)) (tainted || action.taints)
        (action.run p targets).2 ∧
      ∀ id, (action.run p targets).2.Live kind.typeName id ↔ p.Live kind.typeName id := by
  have hdone : TaintedSoFar kind.typeName (targets.map (·.id)) tainted action p targets
      (action.run p targets).2 := by
    rw [run_provider]
    refine Batch.runItems_keeps ⟨rfl, fun _ => Iff.rfl, fun id => ?_⟩ ?_
    · rw [h id]
      simp only [List.map_nil, List.not_mem_nil, and_false, or_false]
      tauto
    · exact fun _ _ target htarget hq => hq.step hk hdelete hshape (named target htarget)
  refine ⟨fun id => ?_, hdone.live⟩
  rw [hdone.spoiled, hdone.live, Bool.or_eq_true]
  tauto

/-- Deleting leaves nothing spoiled that was tainted. -/
theorem run_delete_tainted (h : Tainted kind.typeName (targets.map (·.id)) tainted p) :
    Tainted kind.typeName (targets.map (·.id)) false (delete.run p targets).2 := by
  have hdone : DeletedSoFar kind.typeName (targets.map (·.id)) tainted p targets
      (delete.run p targets).2 := by
    rw [run_provider]
    refine Batch.runItems_keeps ⟨rfl, h, nofun⟩ ?_
    exact fun _ _ target htarget hq => hq.step hk (named target htarget)
  intro id
  rw [hdone.spoiled]
  have hgone := hdone.gone id
  simp only [Bool.false_eq_true, false_and, iff_false]
  tauto

theorem runAll_tainted {actions : List Action} (hdelete : delete ∉ actions)
    (hshape : ∀ action ∈ actions, action.taints = true → ∃ shape, kind.tagShape = some shape)
    (h : Tainted kind.typeName (targets.map (·.id)) tainted p) :
    Tainted kind.typeName (targets.map (·.id)) (tainted || actions.any taints)
        (runAll targets p actions).2 ∧
      ∀ id, (runAll targets p actions).2.Live kind.typeName id ↔ p.Live kind.typeName id := by
  induction actions generalizing p tainted with
  | nil =>
    rw [List.any_nil, Bool.or_false]
    exact ⟨h, fun _ => Iff.rfl⟩
  | cons action rest ih =>
    obtain ⟨hne, hdelete⟩ := not_or.1 (mt List.mem_cons.2 hdelete)
    obtain ⟨hshape, hrest⟩ := List.forall_mem_cons.1 hshape
    obtain ⟨htainted, hlive⟩ := run_tainted hk named (Ne.symm hne) hshape h
    have hknext : (action.run p targets).2.catalog.get kind.typeName = .ok kind := by
      rw [run_catalog, hk]
    obtain ⟨htainted', hlive'⟩ := ih hknext hdelete hrest htainted
    rw [List.any_cons, ← Bool.or_assoc]
    exact ⟨htainted', fun id => (hlive' id).trans (hlive id)⟩

end Run

end Targets

end Action

namespace ReplayRequest

variable {r : ReplayRequest} {catalog : Catalog} {name : String} {ingest : Ingest} {now : Instant}
  {wish : Wish} {action : Action}

/-- An action of the sort that a wish asks for. Tags that were taken in have no empty key; a mark has
it if it was given. -/
inductive Meets (r : ReplayRequest) : Wish → Action → Prop
  | tags (add : TagSet) (remove : TagKeys) (h : add.has "" = false) :
    Meets r .tags (.tags add remove)
  | mark (name : String) (days : Nat) (stamp : TagSet)
    (h : stamp.has "" = true ↔ r.markTag = some "") : Meets r (.mark name days) (.mark stamp)
  | protection (state : Bool) : Meets r (.protection state) (.protection state)
  | delete : Meets r .delete .delete

private theorem markTag_empty (key : Option String) :
    key.getD defaultMarkTag = "" ↔ key = some "" := by
  cases key with
  | none => decide
  | some key => simp

/-- A wish that is met becomes an action of its sort, which the kind supports. -/
theorem prepare_eq_ok (h : r.prepare catalog name ingest now wish = .ok action) :
    (∃ kind, catalog.get name = .ok kind ∧ kind.supports (r.operation wish) = true) ∧
      r.Meets wish action := by
  obtain ⟨hsupports, h⟩ := asked_of_prepare h
  refine ⟨hsupports, ?_⟩
  cases wish with
  | tags =>
    obtain ⟨tags, htags, rfl⟩ := Fallible.map_eq_ok.1 h
    exact .tags tags r.remove (tagPairs_has_empty htags)
  | mark name days =>
    obtain ⟨stamp, hstamp, rfl⟩ := Fallible.map_eq_ok.1 h
    exact .mark name days stamp ((Mark.tagsAt_has_empty hstamp).trans (markTag_empty r.markTag))
  | protection state =>
    obtain rfl := Except.ok.inj h
    exact .protection state
  | delete =>
    obtain rfl := Except.ok.inj h
    exact .delete

section Performed

variable {settings : Settings} {p : Provider} {kind : ResourceKind}

/-- Only marks taint resources, and only if their key was given as the empty one. -/
theorem taints_iff (h : action ∈ r.performed settings now p kind) :
    action.taints = true ↔ r.markTag = some "" ∧ ∃ stamp, action = .mark stamp := by
  obtain ⟨wish, -, hprepare⟩ := mem_readied h
  cases (prepare_eq_ok hprepare).2 with
  | tags add remove hadd => simp [Action.taints, hadd]
  | mark name days stamp hstamp => simp [Action.taints, hstamp]
  | protection state => simp [Action.taints]
  | delete => simp [Action.taints]

theorem supports_of_mark {stamp : TagSet} (h : .mark stamp ∈ r.performed settings now p kind) :
    ∃ found, p.catalog.get kind.typeName = .ok found ∧ found.supports .markForOp = true := by
  obtain ⟨wish, -, hprepare⟩ := mem_readied h
  obtain ⟨hsupports, hmeets⟩ := prepare_eq_ok hprepare
  cases hmeets with
  | mark name days stamp hstamp => exact hsupports

private theorem wishes_eq (r : ReplayRequest) : ∃ others : List Wish, Wish.delete ∉ others ∧
    r.wishes = others ++ if r.delete then [.delete] else [] := by
  refine ⟨_, ?_, rfl⟩
  obtain ⟨kind, filters, logging, crossAccount, allowed, markedFor, skewDays, add, remove, mark,
    markTag, protection, delete⟩ := r
  dsimp only
  split <;> rcases mark with _ | ⟨action, days⟩ <;> cases protection <;> simp

theorem delete_last (h : .delete ∈ r.performed settings now p kind) :
    ∃ before, r.performed settings now p kind = before ++ [.delete] ∧ .delete ∉ before := by
  obtain ⟨others, hothers, hwishes⟩ := wishes_eq r
  have hbefore : .delete ∉ (r.readied p.catalog kind.typeName settings.ingest now others).1 := by
    intro hmem
    obtain ⟨wish, hwish, hprepare⟩ := mem_readied hmem
    cases (prepare_eq_ok hprepare).2 with
    | delete => exact hothers hwish
  refine ⟨_, ?_, hbefore⟩
  rw [performed, hwishes, readied_append] at h ⊢
  rcases List.mem_append.1 h with h | h
  · exact absurd h hbefore
  · congr 1
    split at h
    · rename_i hmet
      rw [if_pos hmet]
      split at h
      · rename_i hdelete
        simp only [hdelete, if_true, readied] at h ⊢
        split at h
        · cases h
        · rename_i action hprepare
          obtain rfl := List.mem_singleton.1 h
          rfl
      · cases h
    · cases h

def taintsAll (r : ReplayRequest) (settings : Settings) (now : Instant) (p : Provider)
    (kind : ResourceKind) : Prop :=
  r.markTag = some "" ∧ (∃ stamp, .mark stamp ∈ r.performed settings now p kind) ∧
    .delete ∉ r.performed settings now p kind

/-- After a run, the spoiled resources of its kind are the selected ones that were live, if an empty
key was added to them. -/
theorem run_spoiled_iff (settings : Settings) (hc : Aws.catalog = .ok p.catalog) (hp : p.Sound)
    {selected : List ResourceRef} (hs : r.selection p now = .ok (kind, selected)) (id : String) :
    (r.run settings now p).2.Spoiled kind.typeName id ↔
      r.taintsAll settings now p kind ∧ id ∈ selected.map (·.id) ∧ p.Live kind.typeName id := by
  have hk := hp.steady.get_typeName (get_of_selection hs)
  obtain ⟨resources, hresources, -⟩ := selection_resources hs
  have named := kind_of_selection hp.steady hs
  let opened : Provider := { p with sessions := p.sessions + 1 }
  have hopened : opened.catalog.get kind.typeName = .ok kind := hk
  have hclean : Action.Tainted kind.typeName (selected.map (·.id)) false opened := by
    intro id
    have hnone := (hp.resources_succeeds_iff hk).1 ⟨resources, hresources⟩ id
    exact iff_of_false hnone nofun
  have hshape : ∀ action ∈ r.performed settings now p kind, action.taints = true →
      ∃ shape, kind.tagShape = some shape := by
    intro action hmem htaints
    obtain ⟨-, stamp, rfl⟩ := (taints_iff hmem).1 htaints
    obtain ⟨found, hfound, hsupports⟩ := supports_of_mark hmem
    obtain rfl : found = kind := Except.ok.inj (hfound.symm.trans hk)
    exact Aws.tagShape_of_supports hc (Catalog.get_eq_ok hk).1 rfl hsupports
  rw [run_provider settings hs, Provider.closeSession_spoiled_iff]
  change (Action.runAll selected opened _).2.Spoiled kind.typeName id ↔ _
  by_cases hdelete : .delete ∈ r.performed settings now p kind
  · obtain ⟨before, hlast, hbefore⟩ := delete_last hdelete
    have hdone : Action.Tainted kind.typeName (selected.map (·.id)) false
        (Action.runAll selected opened (r.performed settings now p kind)).2 := by
      rw [hlast] at hshape ⊢
      rw [Action.runAll_append]
      have htainted := (Action.runAll_tainted hopened named hbefore
        (fun action hmem => hshape action (List.mem_append_left _ hmem)) hclean).1
      exact Action.run_delete_tainted (by rw [Action.runAll_catalog, hopened]) named htainted
    exact (hdone id).trans (iff_of_false nofun fun h => h.1.2.2 hdelete)
  · obtain ⟨htainted, hlive⟩ := Action.runAll_tainted hopened named hdelete hshape hclean
    have hany : (r.performed settings now p kind).any Action.taints = true ↔
        r.taintsAll settings now p kind := by
      rw [List.any_eq_true, taintsAll]
      constructor
      · rintro ⟨action, hmem, htaints⟩
        obtain ⟨hkey, stamp, rfl⟩ := (taints_iff hmem).1 htaints
        exact ⟨hkey, ⟨stamp, hmem⟩, hdelete⟩
      · rintro ⟨hkey, ⟨stamp, hmem⟩, -⟩
        exact ⟨.mark stamp, hmem, (taints_iff hmem).2 ⟨hkey, stamp, rfl⟩⟩
    refine (htainted id).trans ?_
    rw [Bool.false_or, hany, hlive]
    exact Iff.rfl

end Performed

end ReplayRequest

namespace ReplayCall

/-- A run that leaves a tag with the empty key: it marks resources with that key and does not delete
them, and calls on one of them get through. -/
def LeavesEmptyTag (p : Provider) (call : ReplayCall) : Prop :=
  ∃ kind selected, call.request.selection p call.now = .ok (kind, selected) ∧
    call.request.taintsAll call.settings call.now p kind ∧
    ∃ target ∈ selected, Keyed.find? target.id p.errors = none ∧ target.id ∉ p.missing

/-- A run leaves a provider whose kinds can all be enumerated just if they could be before and it
leaves no tag with the empty key. -/
theorem after_enumerable_iff {p : Provider} (hc : Aws.catalog = .ok p.catalog) (hp : p.Sound)
    (call : ReplayCall) :
    (after p call).Enumerable ↔ p.Enumerable ∧ ¬call.LeavesEmptyTag p := by
  cases hs : call.request.selection p call.now with
  | error e =>
    have hstays : after p call = p := by rw [after, ReplayRequest.run_of_failure hs]
    have hnone : ¬call.LeavesEmptyTag p := by
      rintro ⟨kind, selected, hselected, -⟩
      cases hs.symm.trans hselected
    rw [hstays]
    exact ⟨fun h => ⟨h, hnone⟩, fun h => h.1⟩
  | ok found =>
    obtain ⟨kind, selected⟩ := found
    have hk := hp.steady.get_typeName (ReplayRequest.get_of_selection hs)
    have hconfined := ReplayRequest.run_confined call.settings hp.steady hs
    have hspoiled := ReplayRequest.run_spoiled_iff call.settings hc hp hs
    obtain ⟨resources, hresources, hsubset⟩ := ReplayRequest.selection_resources hs
    have hclean := (hp.resources_succeeds_iff hk).1 ⟨resources, hresources⟩
    have hleaves : call.LeavesEmptyTag p ↔ ∃ id, (after p call).Spoiled kind.typeName id := by
      constructor
      · rintro ⟨found, chosen, hfound, htaints, target, htarget, herrors, hmissing⟩
        obtain ⟨rfl, rfl⟩ := Prod.mk.inj (Except.ok.inj (hfound.symm.trans hs))
        obtain ⟨d, hd, rfl⟩ := hsubset target htarget
        obtain ⟨e, he, hfor⟩ := hp.entry_of_resources hk hresources hd
        exact ⟨d.1.id, (hspoiled d.1.id).2
          ⟨htaints, List.mem_map_of_mem htarget, herrors, hmissing, e, he, hfor⟩⟩
      · rintro ⟨id, hid⟩
        obtain ⟨htaints, hmem, hlive⟩ := (hspoiled id).1 hid
        obtain ⟨target, htarget, rfl⟩ := List.mem_map.1 hmem
        exact ⟨kind, selected, hs, htaints, target, htarget, hlive.1, hlive.2.1⟩
    rw [(after_sound hp call).enumerable_iff, hp.enumerable_iff, hleaves]
    constructor
    · intro h
      refine ⟨fun name id => ?_, ?_⟩
      · by_cases hname : name = kind.typeName
        · exact hname ▸ hclean id
        · exact fun hs => h name id ((hconfined.spoiled_iff (.inl hname)).2 hs)
      · rintro ⟨id, hid⟩
        exact h kind.typeName id hid
    · rintro ⟨h, hnone⟩ name id hs
      by_cases hname : name = kind.typeName
      · exact hnone ⟨id, hname ▸ hs⟩
      · exact h name id ((hconfined.spoiled_iff (.inl hname)).1 hs)

/-- The first run that leaves a tag with the empty key ends the enumeration for good. -/
theorem afterAll_enumerable_iff_of_sound {p : Provider} (hc : Aws.catalog = .ok p.catalog)
    (hp : p.Sound) (calls : List ReplayCall) :
    (afterAll p calls).Enumerable ↔ p.Enumerable ∧ ∀ before call rest,
      calls = before ++ call :: rest → ¬call.LeavesEmptyTag (afterAll p before) := by
  induction calls generalizing p with
  | nil => exact ⟨fun h => ⟨h, by simp⟩, fun h => h.1⟩
  | cons call rest ih =>
    have hnext : Aws.catalog = .ok (after p call).catalog := by rw [after_catalog hp, hc]
    change (afterAll (after p call) rest).Enumerable ↔ _
    rw [ih hnext (after_sound hp call), after_enumerable_iff hc hp]
    constructor
    · rintro ⟨⟨h, hfirst⟩, hrest⟩
      refine ⟨h, ?_⟩
      rintro (_ | ⟨first, before⟩) call' rest' hsplit
      · obtain ⟨rfl, -⟩ := List.cons.inj hsplit
        exact hfirst
      · obtain ⟨rfl, htail⟩ := List.cons.inj hsplit
        exact hrest before call' rest' htail
    · rintro ⟨h, hall⟩
      refine ⟨⟨h, hall [] call rest rfl⟩, fun before call' rest' hsplit => ?_⟩
      exact hall (call :: before) call' rest' (congrArg (call :: ·) hsplit)

/-- The runs that end the enumeration of some kind are exactly those that leave a tag with the empty
key. After any runs on a provider of AWS resources, all kinds can be enumerated just if none of the
runs was one of these. -/
theorem afterAll_enumerable_iff (flight : Flight) (ingest : Ingest) (calls : List ReplayCall)
    {catalog : Catalog} {start : Provider} (hc : Aws.catalog = .ok catalog)
    (hstart : Provider.ofFlight catalog flight ingest = .ok start) :
    (afterAll start calls).Enumerable ↔ ∀ before call rest, calls = before ++ call :: rest →
      ¬call.LeavesEmptyTag (afterAll start before) := by
  have hsteady := Aws.steady hc
  have hcatalog : Aws.catalog = .ok start.catalog := by rw [Provider.ofFlight_catalog hstart, hc]
  rw [afterAll_enumerable_iff_of_sound hcatalog (Provider.ofFlight_sound hsteady hstart)]
  exact and_iff_right (Provider.ofFlight_enumerable hsteady hstart)

def untaggedList : Flight where
  resources := [("memorydb-acl", [{
    listed := .obj [("ARN", .str "arn:l"), ("Name", .str "l")]
    tags := some (.arr []) }])]

def markUnder (key : String) : ReplayCall where
  request := { kind := "memorydb-acl", mark := some ("delete", 1), markTag := some key }
  settings := {}
  now := ⟨0⟩

theorem afterAll_enumerable_iff_untaggedList : ∃ catalog start,
    Aws.catalog = .ok catalog ∧ Provider.ofFlight catalog untaggedList .strict = .ok start ∧
    ((afterAll start [markUnder "due", markUnder ""]).Enumerable ↔ ∀ before call rest,
      [markUnder "due", markUnder ""] = before ++ call :: rest →
        ¬call.LeavesEmptyTag (afterAll start before)) := by
  refine ⟨_, _, Aws.catalog_eq, rfl, ?_⟩
  exact afterAll_enumerable_iff untaggedList .strict _ Aws.catalog_eq rfl

/-- A mark under the empty key is written, and then the access list cannot be enumerated: the run
that marks it fails at its end, and so does the next look at the kind. -/
theorem enumeration_lost : ∃ catalog start,
    Aws.catalog = .ok catalog ∧ Provider.ofFlight catalog untaggedList .strict = .ok start ∧
    ((markUnder "").request.run {} ⟨0⟩ start).1 =
      .error (.provider (.other
        "decode memorydb-acl tags: tag at position 0 has an empty key")) ∧
    ((markUnder "").after start).resources "memorydb-acl" =
      .error (.provider (.other
        "decode memorydb-acl tags: tag at position 0 has an empty key")) :=
  ⟨_, _, Aws.catalog_eq, rfl, rfl, rfl⟩

end ReplayCall

end TagGovernance
