import TagGovernance.Proofs.Provider.Named
import TagGovernance.Proofs.Provider.Reached

/-!
# A faithful view

What a provider enumerates is recomputed from the records every time, while calls find resources by
the references that they had at the beginning. The two agree after any run of calls that neither
write the empty key nor set a field that references are read from: enumeration succeeds, and it
shows the references of the beginning without those that calls took away. A call takes the resources
of a kind with an id away if it deletes them or finds them missing.
-/

namespace TagGovernance

namespace ClientCall

/-- The resource that a call is logged for. -/
def target? : ClientCall → Option ResourceRef
  | list _ => none
  | getTags target | putTags target _ | delete target => some target
  | update target change => change.asObject?.map fun _ => target

def deletes : ClientCall → Bool
  | delete _ => true
  | _ => false

/-- The kind and the id of the resources that a call takes away from a provider, if it does. -/
def taken (p : Provider) (call : ClientCall) : List (String × String) :=
  match call.target? with
  | none => []
  | some target =>
    match p.kindOf target.kind with
    | .error _ => []
    | .ok kind =>
      if p.Passes target.id ∧ (call.deletes = true ∨ target.id ∈ p.missing) then
        [(kind.typeName, target.id)]
      else []

def lost (p : Provider) : List ClientCall → List (String × String)
  | [] => []
  | call :: rest => call.taken p ++ lost (call.make p).2 rest

/-- A call that writes no empty key and sets no field that references of its kind are read from. -/
def Harmless (catalog : Catalog) : ClientCall → Prop
  | putTags _ tags => tags.has "" = false
  | update target change => ∀ kind, catalog.get target.kind = .ok kind →
    ∀ fields, change.asObject? = some fields → ∀ key ∈ Keyed.keys fields, key ∉ kind.refKeys
  | _ => True

theorem Harmless.clean {catalog : Catalog} {call : ClientCall} (h : call.Harmless catalog) :
    call.Clean := by
  cases call with
  | putTags target tags => exact h
  | _ => trivial

def KeepsRefs (catalog : Catalog) : ClientCall → Prop
  | update target change => ∀ kind, catalog.get target.kind = .ok kind →
    ∀ fields, change.asObject? = some fields → ∀ key ∈ Keyed.keys fields, key ∉ kind.refKeys
  | _ => True

theorem Harmless.keepsRefs {catalog : Catalog} {call : ClientCall} (h : call.Harmless catalog) :
    call.KeepsRefs catalog := by
  cases call with
  | update target change => exact h
  | _ => trivial

end ClientCall

namespace Provider

variable {p q : Provider} {kind : ResourceKind} {target : ResourceRef}

def refsWithout (p : Provider) (kind id : String) : List ResourceRef :=
  p.refs.filter fun r => (r.kind, r.id) ≠ (kind, id)

theorem remove_refs (p : Provider) (kind id : String) :
    (p.remove kind id).refs = p.refsWithout kind id := by
  refine (refs_remove p kind id).trans (List.filter_congr fun r _ => ?_)
  simp

theorem refsWithout_of_named {name id : String} (h : p.named name id = []) :
    p.refsWithout name id = p.refs := by
  refine List.filter_eq_self.2 fun r hr => decide_eq_true fun hsame => ?_
  obtain ⟨e, he, rfl⟩ := List.mem_map.1 hr
  obtain ⟨hkind, hid⟩ := Prod.mk.inj hsame
  exact List.not_mem_nil (h ▸ mem_named.2 ⟨he, Entry.isFor_iff.2 ⟨hkind, hid⟩⟩)

theorem gate_refs (p : Provider) (kind : ResourceKind) (id : String) :
    (p.gate kind id).2.refs =
      if p.Passes id ∧ id ∈ p.missing then p.refsWithout kind.typeName id else p.refs := by
  cases herror : Keyed.find? id p.errors with
  | some error =>
    have hshut : ¬p.Passes id := by simp [Passes, herror]
    rw [gate_failing kind herror, if_neg (hshut ·.1)]
  | none =>
    by_cases hmissing : id ∈ p.missing
    · rw [gate_missing kind herror hmissing, if_pos ⟨herror, hmissing⟩]
      exact remove_refs ..
    · rw [if_neg (hmissing ·.2)]
      cases hnamed : p.named kind.typeName id with
      | nil => rw [gate_absent herror hmissing hnamed]
      | cons e rest => rw [gate_found herror hmissing hnamed]

section Calls

variable (hk : p.kindOf target.kind = .ok kind)

include hk

theorem getTags_refs :
    (p.getTags target).2.refs = ((p.log .getTags target).gate kind target.id).2.refs := by
  simp only [getTags, hk]
  split <;> rename_i hgate <;> rw [hgate]

theorem putTags_refs (tags : TagSet) :
    (p.putTags target tags).2.refs = ((p.log .putTags target).gate kind target.id).2.refs := by
  simp only [putTags, hk]
  split <;> rename_i hgate <;> rw [hgate]
  split
  · rfl
  · rw [refs_modify]
    exact fun _ => rfl

theorem update_refs {change : Json} {fields : List (String × Json)}
    (hfields : change.asObject? = some fields) :
    (p.update target change).2.refs = ((p.log .update target).gate kind target.id).2.refs := by
  have hk : (p.log .update target).kindOf target.kind = .ok kind := hk
  simp only [update, hfields, hk]
  split <;> rename_i hgate <;> rw [hgate]
  rw [refs_modify]
  exact fun _ => rfl

theorem delete_refs : (p.delete target).2.refs =
    if p.Passes target.id then p.refsWithout kind.typeName target.id else p.refs := by
  have hk : (p.log .delete target).kindOf target.kind = .ok kind := hk
  simp only [delete, hk]
  cases herror : Keyed.find? target.id p.errors with
  | some error =>
    have hshut : ¬p.Passes target.id := by simp [Passes, herror]
    rw [gate_failing (p := p.log .delete target) kind herror, if_neg hshut]
    rfl
  | none =>
    have hpass : p.Passes target.id := herror
    rw [if_pos hpass]
    by_cases hmissing : target.id ∈ p.missing
    · rw [gate_missing (p := p.log .delete target) kind herror hmissing]
      exact remove_refs ..
    · cases hnamed : p.named kind.typeName target.id with
      | nil =>
        rw [gate_absent (p := p.log .delete target) herror hmissing hnamed,
          refsWithout_of_named hnamed]
        rfl
      | cons e rest =>
        rw [gate_found (p := p.log .delete target) herror hmissing hnamed]
        exact remove_refs ..

end Calls

variable {call : ClientCall}

theorem refs_make_known (ht : call.target? = some target) (hk : p.kindOf target.kind = .ok kind) :
    (call.make p).2.refs =
      if p.Passes target.id ∧ (call.deletes = true ∨ target.id ∈ p.missing) then
        p.refsWithout kind.typeName target.id
      else p.refs := by
  cases call with
  | list name => cases ht
  | getTags t =>
    obtain rfl := Option.some.inj ht
    simp only [ClientCall.make, getTags_refs hk, gate_refs, ClientCall.deletes, Bool.false_eq_true,
      false_or]
    rfl
  | putTags t tags =>
    obtain rfl := Option.some.inj ht
    simp only [ClientCall.make, putTags_refs hk, gate_refs, ClientCall.deletes, Bool.false_eq_true,
      false_or]
    rfl
  | delete t =>
    obtain rfl := Option.some.inj ht
    simp only [ClientCall.make, delete_refs hk, ClientCall.deletes, true_or, and_true]
  | update t change =>
    obtain ⟨fields, hfields, rfl⟩ := Option.map_eq_some_iff.1 ht
    simp only [ClientCall.make, update_refs hk hfields, gate_refs, ClientCall.deletes,
      Bool.false_eq_true, false_or]
    rfl

theorem make_unknown
    (h : ∀ target, call.target? = some target → ∃ error, p.kindOf target.kind = .error error) :
    ∃ calls, (call.make p).2 = { p with calls } := by
  cases call with
  | list name => exact ⟨p.calls, rfl⟩
  | getTags t =>
    obtain ⟨error, hk⟩ := h t rfl
    simp only [ClientCall.make, getTags, hk]
    exact ⟨p.calls, rfl⟩
  | putTags t tags =>
    obtain ⟨error, hk⟩ := h t rfl
    simp only [ClientCall.make, putTags, hk]
    exact ⟨p.calls, rfl⟩
  | delete t =>
    obtain ⟨error, hk⟩ := h t rfl
    have hk : (p.log .delete t).kindOf t.kind = .error error := hk
    simp only [ClientCall.make, delete, hk]
    exact ⟨_, rfl⟩
  | update t change =>
    cases hfields : change.asObject? with
    | none =>
      simp only [ClientCall.make, update, hfields]
      exact ⟨p.calls, rfl⟩
    | some fields =>
      obtain ⟨error, hk⟩ := h t (by rw [ClientCall.target?, hfields]; rfl)
      have hk : (p.log .update t).kindOf t.kind = .error error := hk
      simp only [ClientCall.make, update, hfields, hk]
      exact ⟨_, rfl⟩

theorem refs_make_unknown
    (h : ∀ target, call.target? = some target → ∃ error, p.kindOf target.kind = .error error) :
    (call.make p).2.refs = p.refs := by
  obtain ⟨calls, hmake⟩ := make_unknown h
  rw [hmake]
  rfl

/-- A call takes away the references that it takes and leaves all others. -/
theorem refs_make (p : Provider) (call : ClientCall) :
    (call.make p).2.refs = p.refs.filter fun r => (r.kind, r.id) ∉ call.taken p := by
  unfold ClientCall.taken
  cases ht : call.target? with
  | none => simp [refs_make_unknown (p := p) (fun _ h => absurd (ht.symm.trans h) nofun)]
  | some target =>
    cases hk : p.kindOf target.kind with
    | error error =>
      have hidle := refs_make_unknown (p := p) fun t h => ⟨error, by
        obtain rfl := Option.some.inj (ht.symm.trans h)
        exact hk⟩
      simp [hk, hidle]
    | ok kind =>
      rw [refs_make_known ht hk]
      split <;> simp [*, refsWithout]

theorem Sound.of_confined {fields : List String} (hp : p.Sound)
    (h : Confined (Catalog.bareName target.kind) [target.id] fields p q)
    (apart : ∀ kind, p.catalog.get target.kind = .ok kind → ∀ key ∈ fields, key ∉ kind.refKeys) :
    q.Sound := by
  refine h.sound_of_apart hp fun e he hone kind hk => apart kind ?_
  -- The kind of the entry is the one that the call is for: its name is the bare name of both.
  obtain ⟨found, shown, hfound, -, href, -⟩ := hp.entries e he
  refine Catalog.get_of_bareName ?_ hk
  rw [ResourceKind.refOf_kind href, hp.steady.bareName_typeName (Catalog.get_eq_ok hfound).1,
    ← ResourceKind.refOf_kind href, (Entry.isOneOf_iff.1 hone).1]

theorem Sound.make (hp : p.Sound) (keeps : call.KeepsRefs p.catalog) : (call.make p).2.Sound := by
  cases call with
  | list name => exact hp
  | getTags t => exact hp.of_confined (p.getTags_confined t []) fun _ _ _ => nofun
  | putTags t tags => exact hp.of_confined (p.putTags_confined t tags []) fun _ _ _ => nofun
  | delete t => exact hp.of_confined (p.delete_confined t []) fun _ _ _ => nofun
  | update t change =>
    cases hfields : change.asObject? with
    | none =>
      simp only [ClientCall.make, update, hfields]
      exact hp
    | some fields =>
      exact hp.of_confined (p.update_confined t hfields) fun kind hk => keeps kind hk fields hfields

/-- What a call does is confined to the resources of some kind with some id. -/
theorem make_confined (p : Provider) (call : ClientCall) :
    ∃ name ids fields, Confined name ids fields p (call.make p).2 := by
  cases call with
  | list name => exact ⟨name, [], [], .refl ..⟩
  | getTags t => exact ⟨_, _, [], p.getTags_confined t []⟩
  | putTags t tags => exact ⟨_, _, [], p.putTags_confined t tags []⟩
  | delete t => exact ⟨_, _, [], p.delete_confined t []⟩
  | update t change =>
    cases hfields : change.asObject? with
    | none =>
      simp only [ClientCall.make, update, hfields]
      exact ⟨t.kind, [], [], .refl ..⟩
    | some fields => exact ⟨_, _, _, p.update_confined t hfields⟩

theorem make_catalog (p : Provider) (call : ClientCall) : (call.make p).2.catalog = p.catalog := by
  obtain ⟨name, ids, fields, h⟩ := p.make_confined call
  exact h.catalog

theorem make_errors (p : Provider) (call : ClientCall) : (call.make p).2.errors = p.errors := by
  obtain ⟨name, ids, fields, h⟩ := p.make_confined call
  exact h.errors

/-- A run of harmless calls keeps entries sound and readable, and leaves the references that it does
not take away. -/
theorem makeAll_faithful (calls : List ClientCall) (hp : p.Sound) (hread : p.Readable)
    (harmless : ∀ call ∈ calls, call.Harmless p.catalog) :
    (ClientCall.makeAll p calls).2.Sound ∧ (ClientCall.makeAll p calls).2.Readable ∧
      (ClientCall.makeAll p calls).2.catalog = p.catalog ∧
      (ClientCall.makeAll p calls).2.refs =
        p.refs.filter fun r => (r.kind, r.id) ∉ ClientCall.lost p calls := by
  induction calls generalizing p with
  | nil => exact ⟨hp, hread, rfl, by simp [ClientCall.makeAll, ClientCall.lost]⟩
  | cons call rest ih =>
    obtain ⟨hfirst, hrest⟩ := List.forall_mem_cons.1 harmless
    have hcatalog := make_catalog p call
    rw [← hcatalog] at hrest
    obtain ⟨hsound, hreadable, hsame, hrefs⟩ := ih (hp.make hfirst.keepsRefs) (hread.make hfirst.clean) hrest
    refine ⟨hsound, hreadable, hsame.trans hcatalog, hrefs.trans ?_⟩
    rw [refs_make, List.filter_filter]
    refine List.filter_congr fun r _ => ?_
    simp [ClientCall.lost, and_comm]

theorem Sound.resources_refs (hp : p.Sound) (hread : p.Readable)
    (hk : p.catalog.get kind.typeName = .ok kind) :
    ∃ resources, p.resources kind.typeName = .ok resources ∧
      resources.map (·.1) = p.refs.filter fun r => r.kind = kind.typeName := by
  obtain ⟨resources, hresources⟩ := (hp.resources_succeeds_iff hk).2 fun id =>
    readable_iff.1 hread kind.typeName id
  refine ⟨resources, hresources, ?_⟩
  have hshown := (hp.resources_eq_ok hk).1 hresources
  have hsame : ∀ {entries : List Entry} {resources : List (ResourceRef × Json)},
      List.Forall₂ (fun e d => d.1 = e.target ∧ p.recordOf kind e = .ok d.2) entries resources →
      resources.map (·.1) = entries.map (·.target) := by
    intro entries resources h
    induction h with
    | nil => rfl
    | cons hd _ ih => rw [List.map_cons, List.map_cons, hd.1, ih]
  rw [hsame hshown, refs, List.filter_map]
  rfl

/-- A reference of an entry is found unless there is an error for its id or it is missing. -/
theorem gate_of_refs {r : ResourceRef} (hr : r ∈ p.refs) (hkind : r.kind = kind.typeName) :
    (∃ e ∈ p.entries, e.target.kind = r.kind ∧ e.target.id = r.id ∧
      p.gate kind r.id = (.ok e, p)) ↔ p.Passes r.id ∧ r.id ∉ p.missing := by
  constructor
  · rintro ⟨e, -, -, -, hgate⟩
    by_contra hopen
    have hshut : ¬p.Live kind.typeName r.id := fun hlive => hopen ⟨hlive.1, hlive.2.1⟩
    obtain ⟨error, q, hfailed, -⟩ := gate_of_not_live hshut
    rw [hgate] at hfailed
    cases hfailed
  · rintro ⟨hpass, hmissing⟩
    obtain ⟨f, hf, rfl⟩ := List.mem_map.1 hr
    have hlive : p.Live kind.typeName f.target.id :=
      ⟨hpass, hmissing, f, hf, Entry.isFor_iff.2 ⟨hkind, rfl⟩⟩
    obtain ⟨e, he, hgate⟩ := gate_of_live hlive
    obtain ⟨hname, hid⟩ := Entry.isFor_iff.1 (List.find?_some he)
    exact ⟨e, List.mem_of_find?_eq_some he, hname.trans hkind.symm, hid, hgate⟩

/-- Enumeration is a faithful view. A provider of a flight over the AWS kinds can be enumerated
after every run of harmless calls. What it shows of a kind are the references that were read when it
was made, in the same order and as often, without those that the run took away. A call on one of
them gets through unless an error was recorded for its id or its id is missing. -/
theorem resources_faithful {catalog : Catalog} {flight : Flight} {ingest : Ingest}
    {start : Provider} {name : String} (hc : Aws.catalog = .ok catalog)
    (h : ofFlight catalog flight ingest = .ok start) {calls : List ClientCall}
    (harmless : ∀ call ∈ calls, call.Harmless catalog)
    (hq : (ClientCall.makeAll start calls).2 = q) (hk : catalog.get name = .ok kind) :
    ∃ resources, q.resources name = .ok resources ∧
      (resources.map (·.1) = start.refs.filter fun r =>
        r.kind = kind.typeName ∧ (r.kind, r.id) ∉ ClientCall.lost start calls) ∧
      ∀ d ∈ resources, (∃ e ∈ q.entries, e.target.kind = d.1.kind ∧ e.target.id = d.1.id ∧
        q.gate kind d.1.id = (.ok e, q)) ↔ q.Passes d.1.id ∧ d.1.id ∉ q.missing := by
  subst hq
  have hcatalog := ofFlight_catalog h
  obtain ⟨hsound, hread, hsame, hrefs⟩ := makeAll_faithful calls (ofFlight_sound (Aws.steady hc) h)
    (ofFlight_readable h) (hcatalog ▸ harmless)
  rw [← hcatalog, ← hsame] at hk
  obtain ⟨resources, hresources, hshown⟩ :=
    hsound.resources_refs hread (hsound.steady.get_typeName hk)
  refine ⟨resources, (resources_of_get hsound.steady hk).trans hresources, ?_, ?_⟩
  · rw [hshown, hrefs, List.filter_filter]
    refine List.filter_congr fun r _ => ?_
    simp
  · intro d hd
    have hmem := List.mem_map_of_mem (f := (·.1)) hd
    rw [hshown, List.mem_filter] at hmem
    exact gate_of_refs hmem.1 (of_decide_eq_true hmem.2)

/-- Clusters of which two have one name, one is missing and for one an error was recorded. -/
def fiveClusters : Flight where
  resources := [("memorydb", ["a", "b", "c", "b", "d"].map fun id =>
    { listed := .obj [("Name", .str id)] })]
  missing := ["d"]
  errors := [("c", ⟨"Throttling", "slow down"⟩)]

def clusterCalls : List ClientCall :=
  [.putTags ⟨"memorydb", "a", none⟩ (.ofList [("env", "dev")]), .delete ⟨"aws.memorydb", "b", none⟩,
    .update ⟨"memorydb", "a", none⟩ (.obj [("Status", .str "available")]),
    .delete ⟨"memorydb", "c", none⟩, .getTags ⟨"memorydb", "d", none⟩]

theorem resources_faithful_fiveClusters : ∃ catalog start q resources,
    Aws.catalog = .ok catalog ∧ ofFlight catalog fiveClusters .strict = .ok start ∧
    (∀ call ∈ clusterCalls, call.Harmless catalog) ∧
    catalog.get "aws.memorydb" = .ok Aws.memorydb ∧
    (ClientCall.makeAll start clusterCalls).2 = q ∧
    q.resources "aws.memorydb" = .ok resources ∧
    resources.map (·.1) = [⟨"memorydb", "a", none⟩, ⟨"memorydb", "c", none⟩] ∧
    ¬q.Passes "c" := by
  have harmless {c : Catalog} (hget : c.get "memorydb" = .ok Aws.memorydb) :
      ∀ call ∈ clusterCalls, call.Harmless c := by
    refine List.forall_mem_cons.2 ⟨rfl, List.forall_mem_cons.2 ⟨trivial, List.forall_mem_cons.2
      ⟨?_, List.forall_mem_cons.2 ⟨trivial, List.forall_mem_cons.2 ⟨trivial, nofun⟩⟩⟩⟩⟩
    intro kind hk fields hfields key hkey
    obtain rfl := Except.ok.inj (hget.symm.trans hk)
    obtain rfl := Option.some.inj hfields
    obtain rfl := List.mem_singleton.1 hkey
    decide
  obtain ⟨resources, hresources, hshown, -⟩ := @resources_faithful _ Aws.memorydb _ fiveClusters
    .strict _ "aws.memorydb" Aws.catalog_eq rfl clusterCalls (harmless rfl) rfl rfl
  exact ⟨_, _, _, resources, Aws.catalog_eq, rfl, harmless rfl, rfl, rfl, hresources,
    hshown.trans rfl, by decide⟩

end Provider

end TagGovernance
