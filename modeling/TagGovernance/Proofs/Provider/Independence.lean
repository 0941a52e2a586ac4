import TagGovernance.Proofs.Provider.Named

/-!
# Calls that do not get in each other's way

What a call answers and what it does can be told from what a provider shows of the resources with
the id that the call is for. It does it to these resources only. So two calls for different ids may
be made in either order: each gets the same answer, and the provider is the same in the end but for
the order of its log.
-/

namespace TagGovernance

namespace Provider

inductive Edit
  | keep
  /-- The id was missing. Its resources are gone, and it is missing no more. -/
  | lose
  | remove
  /-- Changes the first resource, which stays the same one. -/
  | change (f : Entry → Entry) (target : ∀ e, (f e).target = e.target)

def unlogged (p : Provider) : Provider := { p with calls := [] }

/-- Two providers show the same of the resources with an id. -/
structure Alike (id : String) (p q : Provider) : Prop where
  catalog : q.catalog = p.catalog
  ingest : q.ingest = p.ingest
  errors : q.errors = p.errors
  missing : id ∈ q.missing ↔ id ∈ p.missing
  named : ∀ kind, q.named kind id = p.named kind id

variable {α β : Type} {p q : Provider} {kind : ResourceKind} {name id other : String}

namespace Edit

def onEntries (name id : String) : Edit → List Entry → List Entry
  | keep => fun entries => entries
  | lose | remove => List.filter fun e => !e.isFor name id
  | change f _ => modifyFirst (Entry.isFor name id) f

def onMissing (id : String) : Edit → List String → List String
  | lose => List.filter (· ≠ id)
  | _ => fun ids => ids

def apply (edit : Edit) (name id : String) (p : Provider) : Provider :=
  { p with entries := edit.onEntries name id p.entries, missing := edit.onMissing id p.missing }

private theorem filter_comm {α : Type} (f g : α → Bool) (xs : List α) :
    (xs.filter f).filter g = (xs.filter g).filter f := by
  rw [List.filter_filter, List.filter_filter]
  exact List.filter_congr fun x _ => Bool.and_comm ..

private theorem modifyFirst_filter {test keep : Entry → Bool} {change : Entry → Entry}
    (h : ∀ e, test e = true → keep e = true ∧ keep (change e) = true) (entries : List Entry) :
    modifyFirst test change (entries.filter keep) =
      (modifyFirst test change entries).filter keep := by
  induction entries with
  | nil => rfl
  | cons e rest ih =>
    cases htest : test e with
    | true =>
      obtain ⟨hold, hnew⟩ := h e htest
      simp [modifyFirst, htest, hold, hnew]
    | false => cases hkeep : keep e <;> simp [modifyFirst, htest, hkeep, ih]

private theorem modifyFirst_comm {test test' : Entry → Bool} {change change' : Entry → Entry}
    (hnew : ∀ e, test' (change e) = test' e) (hnew' : ∀ e, test (change' e) = test e)
    (apart : ∀ e, test e = true → test' e = false) (entries : List Entry) :
    modifyFirst test change (modifyFirst test' change' entries) =
      modifyFirst test' change' (modifyFirst test change entries) := by
  induction entries with
  | nil => rfl
  | cons e rest ih =>
    cases htest : test e with
    | true => simp [modifyFirst, htest, apart e htest, hnew]
    | false => cases htest' : test' e <;> simp [modifyFirst, htest, htest', hnew', ih]

private theorem isFor_apart {name' : String} (h : id ≠ other) {e : Entry}
    (hfor : e.isFor name id = true) : e.isFor name' other = false := by
  refine Bool.eq_false_iff.2 fun hother => h ?_
  rw [← (Entry.isFor_iff.1 hfor).2, (Entry.isFor_iff.1 hother).2]

private theorem change_remove {name' : String} (h : id ≠ other) {f : Entry → Entry}
    (target : ∀ e, (f e).target = e.target) (entries : List Entry) :
    modifyFirst (Entry.isFor name id) f (entries.filter fun e => !e.isFor name' other) =
      (modifyFirst (Entry.isFor name id) f entries).filter fun e => !e.isFor name' other := by
  refine modifyFirst_filter (fun e hfor => ?_) entries
  rw [Entry.isFor_congr (target e), isFor_apart h hfor]
  exact ⟨rfl, rfl⟩

/-- Edits for different ids can be made in either order. -/
theorem apply_comm (edit edit' : Edit) {name' : String} (h : id ≠ other) (p : Provider) :
    edit.apply name id (edit'.apply name' other p) =
      edit'.apply name' other (edit.apply name id p) := by
  have hentries : edit.onEntries name id (edit'.onEntries name' other p.entries) =
      edit'.onEntries name' other (edit.onEntries name id p.entries) := by
    cases edit with
    | keep => rfl
    | lose | remove => cases edit' with
      | keep => rfl
      | lose | remove => exact filter_comm ..
      | change f target => exact (change_remove h.symm target p.entries).symm
    | change f target => cases edit' with
      | keep => rfl
      | lose | remove => exact change_remove h target p.entries
      | change f' target' =>
        exact modifyFirst_comm (fun e => Entry.isFor_congr (target e) ..)
          (fun e => Entry.isFor_congr (target' e) ..) (fun e => isFor_apart h) p.entries
  have hmissing : edit.onMissing id (edit'.onMissing other p.missing) =
      edit'.onMissing other (edit.onMissing id p.missing) := by
    cases edit <;> cases edit' <;> first | rfl | exact filter_comm ..
  simp only [apply, hentries, hmissing]

end Edit

namespace Alike

theorem refl (id : String) (p : Provider) : Alike id p p :=
  ⟨rfl, rfl, rfl, Iff.rfl, fun _ => rfl⟩

theorem unlogged (id : String) (p : Provider) : Alike id p p.unlogged :=
  ⟨rfl, rfl, rfl, Iff.rfl, fun _ => rfl⟩

theorem log (h : Alike id p q) (verb : Verb) (target : ResourceRef) :
    Alike id (p.log verb target) (q.log verb target) := { h with }

/-- Changes for other ids do not show. -/
theorem of_confined {fields : List String} (h : Confined name [other] fields p q)
    (hne : id ≠ other) : Alike id p q where
  catalog := h.catalog
  ingest := h.ingest
  errors := h.errors
  missing := h.missing id fun hmem => hne (List.mem_singleton.1 hmem)
  named _ := h.named_eq (.inr fun hmem => hne (List.mem_singleton.1 hmem))

theorem kindOf (h : Alike id p q) (name : String) : q.kindOf name = p.kindOf name := by
  rw [Provider.kindOf, Provider.kindOf, h.catalog]

theorem tagsOf (h : Alike id p q) : q.tagsOf = p.tagsOf := by
  funext shape entry
  rw [Provider.tagsOf, Provider.tagsOf, h.ingest]

end Alike

/-- The gate lets a call through to the same resource, or ends it with the same error and the same
edit, in every provider that shows the same. -/
theorem gate_alike (p : Provider) (kind : ResourceKind) (id : String) :
    (∃ e, ∀ q, Alike id p q → q.gate kind id = (.ok e, q)) ∨
      ∃ (error : ProviderError) (edit : Edit), ∀ q, Alike id p q →
        q.gate kind id = (.error error, edit.apply kind.typeName id q) := by
  cases herror : Keyed.find? id p.errors with
  | some error =>
    refine .inr ⟨.ofCode error.code error.text, .keep, fun q hq => gate_failing kind ?_⟩
    rw [hq.errors, herror]
  | none =>
    have hpass : ∀ q, Alike id p q → q.Passes id := fun q hq => by rw [Passes, hq.errors, herror]
    by_cases hmissing : id ∈ p.missing
    · exact .inr ⟨_, .lose, fun q hq => gate_missing kind (hpass q hq) (hq.missing.2 hmissing)⟩
    · cases hnamed : p.named kind.typeName id with
      | nil =>
        refine .inr ⟨notFoundText kind id, .keep, fun q hq => ?_⟩
        exact gate_absent (hpass q hq) (mt hq.missing.1 hmissing) ((hq.named _).trans hnamed)
      | cons e rest =>
        refine .inl ⟨e, fun q hq => ?_⟩
        exact gate_found (hpass q hq) (mt hq.missing.1 hmissing) ((hq.named _).trans hnamed)

/-- An operation for the resources with an id: what it answers and does can be told from what a
provider shows of them, and it does not touch others. -/
structure LocalTo (id : String) (op : Provider → α × Provider) : Prop where
  confined : ∀ p, ∃ name fields, Confined name [id] fields p (op p).2
  edits : ∀ p, ∃ answer name, ∃ edit : Edit, ∀ q, Alike id p q →
    (op q).1 = answer ∧ (op q).2.unlogged = edit.apply name id q.unlogged

namespace LocalTo

variable {f : Provider → α × Provider} {g : Provider → β × Provider}

theorem pure (id : String) (answer : α) : LocalTo id fun p => (answer, p) where
  confined _ := ⟨"", [], .refl ..⟩
  edits _ := ⟨answer, "", .keep, fun _ _ => ⟨rfl, rfl⟩⟩

theorem map (h : LocalTo id f) (next : α → β) : LocalTo id fun p => (next (f p).1, (f p).2) where
  confined := h.confined
  edits p := by
    obtain ⟨answer, name, edit, hedit⟩ := h.edits p
    exact ⟨next answer, name, edit, fun q hq => ⟨congrArg next (hedit q hq).1, (hedit q hq).2⟩⟩

theorem unlogged (h : LocalTo id f) (p : Provider) :
    (f p.unlogged).1 = (f p).1 ∧ (f p.unlogged).2.unlogged = (f p).2.unlogged := by
  obtain ⟨answer, name, edit, hedit⟩ := h.edits p
  obtain ⟨hanswer, hdone⟩ := hedit p (.refl id p)
  obtain ⟨hanswer', hdone'⟩ := hedit p.unlogged (.unlogged id p)
  exact ⟨hanswer'.trans hanswer.symm, hdone'.trans hdone.symm⟩

theorem answer_after (hf : LocalTo id f) (hg : LocalTo other g) (h : id ≠ other) (p : Provider) :
    (g (f p).2).1 = (g p).1 := by
  obtain ⟨name, fields, hconfined⟩ := hf.confined p
  obtain ⟨answer, name', edit, hedit⟩ := hg.edits p
  exact (hedit _ (.of_confined hconfined h.symm)).1.trans (hedit p (.refl other p)).1.symm

/-- Operations for different ids can be made in either order. -/
theorem comm (hf : LocalTo id f) (hg : LocalTo other g) (h : id ≠ other) (p : Provider) :
    (g (f p).2).2.unlogged = (f (g p).2).2.unlogged := by
  obtain ⟨name, fields, hconfined⟩ := hf.confined p
  obtain ⟨name', fields', hconfined'⟩ := hg.confined p
  obtain ⟨_, kind, edit, hedit⟩ := hf.edits p
  obtain ⟨_, kind', edit', hedit'⟩ := hg.edits p
  calc (g (f p).2).2.unlogged
      = edit'.apply kind' other (f p).2.unlogged := (hedit' _ (.of_confined hconfined h.symm)).2
    _ = edit'.apply kind' other (edit.apply kind id p.unlogged) := by
        rw [(hedit p (.refl id p)).2]
    _ = edit.apply kind id (edit'.apply kind' other p.unlogged) :=
        edit'.apply_comm edit h.symm p.unlogged
    _ = edit.apply kind id (g p).2.unlogged := by rw [(hedit' p (.refl other p)).2]
    _ = (f (g p).2).2.unlogged := (hedit _ (.of_confined hconfined' h)).2.symm

end LocalTo

section Calls

variable (target : ResourceRef)

/-- A call that is logged and goes through the gate can be told from what it makes of the gate's
answer. -/
private theorem edits_of_gate (kind : ResourceKind) (verb : Verb) {op : Provider → Reply α}
    (answer : Entry → Except ProviderError α) (edit : Edit)
    (shut : ∀ q error r, Alike target.id p q →
      (q.log verb target).gate kind target.id = (.error error, r) → op q = (.error error, r))
    (found : ∀ q e, Alike target.id p q →
      (q.log verb target).gate kind target.id = (.ok e, q.log verb target) →
      (op q).1 = answer e ∧ (op q).2.unlogged = edit.apply kind.typeName target.id q.unlogged) :
    ∃ answer name, ∃ edit : Edit, ∀ q, Alike target.id p q →
      (op q).1 = answer ∧ (op q).2.unlogged = edit.apply name target.id q.unlogged := by
  rcases gate_alike (p.log verb target) kind target.id with ⟨e, hgate⟩ | ⟨error, lost, hgate⟩
  · exact ⟨answer e, kind.typeName, edit, fun q hq => found q e hq (hgate _ (hq.log verb target))⟩
  · refine ⟨.error error, kind.typeName, lost, fun q hq => ?_⟩
    rw [shut q error _ hq (hgate _ (hq.log verb target))]
    exact ⟨rfl, rfl⟩

theorem getTags_local : LocalTo target.id fun p => p.getTags target where
  confined p := ⟨_, [], p.getTags_confined target []⟩
  edits p := by
    cases hk : p.kindOf target.kind with
    | error e =>
      refine ⟨.error e, "", .keep, fun q hq => ?_⟩
      simp only [getTags, hq.kindOf, hk]
      exact ⟨trivial, rfl⟩
    | ok kind =>
      refine edits_of_gate target kind .getTags
        (fun e => do p.tagsOf (← shapeOf kind target) e) .keep
        (fun q error r hq hgate => ?_) (fun q e hq hgate => ?_)
      · simp only [getTags, hq.kindOf, hk, hgate]
      · simp only [getTags, hq.kindOf, hk, hgate, (hq.log .getTags target).tagsOf]
        exact ⟨rfl, rfl⟩

theorem putTags_local (tags : TagSet) : LocalTo target.id fun p => p.putTags target tags where
  confined p := ⟨_, [], p.putTags_confined target tags []⟩
  edits p := by
    cases hk : p.kindOf target.kind with
    | error e =>
      refine ⟨.error e, "", .keep, fun q hq => ?_⟩
      simp only [putTags, hq.kindOf, hk]
      exact ⟨trivial, rfl⟩
    | ok kind =>
      cases hshape : shapeOf kind target with
      | error e =>
        refine edits_of_gate target kind .putTags (fun _ => .error e) .keep
          (fun q error r hq hgate => ?_) (fun q _ hq hgate => ?_)
        · simp only [putTags, hq.kindOf, hk, hgate]
        · simp only [putTags, hq.kindOf, hk, hgate, hshape]
          exact ⟨trivial, rfl⟩
      | ok shape =>
        refine edits_of_gate target kind .putTags (fun _ => .ok ())
          (.change (Entry.written shape tags) fun _ => rfl)
          (fun q error r hq hgate => ?_) (fun q _ hq hgate => ?_)
        · simp only [putTags, hq.kindOf, hk, hgate]
        · simp only [putTags, hq.kindOf, hk, hgate, hshape]
          exact ⟨trivial, rfl⟩

theorem delete_local : LocalTo target.id fun p => p.delete target where
  confined p := ⟨_, [], p.delete_confined target []⟩
  edits p := by
    have hkind : ∀ q, Alike target.id p q →
        (q.log .delete target).kindOf target.kind = p.kindOf target.kind :=
      fun q hq => hq.kindOf target.kind
    cases hk : p.kindOf target.kind with
    | error e =>
      refine ⟨.error e, "", .keep, fun q hq => ?_⟩
      simp only [delete, hkind q hq, hk]
      exact ⟨trivial, rfl⟩
    | ok kind =>
      refine edits_of_gate target kind .delete (fun _ => .ok ()) .remove
        (fun q error r hq hgate => ?_) (fun q _ hq hgate => ?_)
      · simp only [delete, hkind q hq, hk, hgate]
      · simp only [delete, hkind q hq, hk, hgate]
        exact ⟨trivial, rfl⟩

theorem update_local (change : Json) : LocalTo target.id fun p => p.update target change := by
  cases hfields : change.asObject? with
  | none =>
    simp only [update, hfields]
    exact .pure target.id _
  | some fields =>
    refine ⟨fun p => ⟨_, _, p.update_confined target hfields⟩, fun p => ?_⟩
    have hkind : ∀ q, Alike target.id p q →
        (q.log .update target).kindOf target.kind = p.kindOf target.kind :=
      fun q hq => hq.kindOf target.kind
    cases hk : p.kindOf target.kind with
    | error e =>
      refine ⟨.error e, "", .keep, fun q hq => ?_⟩
      simp only [update, hfields, hkind q hq, hk]
      exact ⟨trivial, rfl⟩
    | ok kind =>
      refine edits_of_gate target kind .update (fun _ => .ok ())
        (.change (Entry.updated fields) fun _ => rfl)
        (fun q error r hq hgate => ?_) (fun q _ hq hgate => ?_)
      · simp only [update, hfields, hkind q hq, hk, hgate]
      · simp only [update, hfields, hkind q hq, hk, hgate]
        exact ⟨trivial, rfl⟩

end Calls

end Provider

end TagGovernance
