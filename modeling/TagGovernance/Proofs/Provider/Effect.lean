import TagGovernance.Proofs.Resource.Record
import TagGovernance.Provider.Calls

/-!
# What calls change

A call finds its resource by kind and id. Whatever it does is confined to the resources of that kind
with that id: no other entry changes or moves. An entry that is changed keeps its reference and its
responses; only its tags and the fields that updates set can be new.
-/

namespace TagGovernance

/-- An entry after calls: for the same resource, with other tags or more fields set. -/
structure Entry.Updates (fields : List String) (e f : Entry) : Prop where
  target : f.target = e.target
  recording : f.recording = { e.recording with tags := f.recording.tags }
  overlay : ∀ key ∈ Keyed.keys f.overlay, key ∈ Keyed.keys e.overlay ∨ key ∈ fields

namespace Entry

variable {kind id : String} {ids fields : List String} {e : Entry}

def isOneOf (kind : String) (ids : List String) (e : Entry) : Bool :=
  e.target.kind = kind && e.target.id ∈ ids

theorem isFor_iff : e.isFor kind id = true ↔ e.target.kind = kind ∧ e.target.id = id := by
  simp [isFor]

theorem isOneOf_iff : e.isOneOf kind ids = true ↔ e.target.kind = kind ∧ e.target.id ∈ ids := by
  simp [isOneOf]

theorem isOneOf_of_isFor (h : e.isFor kind id = true) : e.isOneOf kind [id] = true := by
  rw [isOneOf_iff]
  exact ⟨(isFor_iff.1 h).1, List.mem_singleton.2 (isFor_iff.1 h).2⟩

theorem isFor_congr {f : Entry} (h : f.target = e.target) (kind id : String) :
    f.isFor kind id = e.isFor kind id := by
  rw [isFor, isFor, h]

theorem isOneOf_congr {f : Entry} (h : f.target = e.target) (kind : String) (ids : List String) :
    f.isOneOf kind ids = e.isOneOf kind ids := by
  rw [isOneOf, isOneOf, h]

theorem Updates.refl (fields : List String) (e : Entry) : Updates fields e e :=
  ⟨rfl, rfl, fun _ h => .inl h⟩

theorem Updates.trans {f g : Entry} (h : Updates fields e f) (h' : Updates fields f g) :
    Updates fields e g where
  target := h'.target.trans h.target
  recording := by rw [h'.recording, h.recording]
  overlay key hkey := (h'.overlay key hkey).elim (h.overlay key) .inr

end Entry

/-- Between two providers, only resources of one kind with some ids were touched. -/
structure Provider.Confined (kind : String) (ids fields : List String) (p q : Provider) : Prop where
  catalog : q.catalog = p.catalog
  source : q.source = p.source
  ingest : q.ingest = p.ingest
  errors : q.errors = p.errors
  missing : ∀ id ∉ ids, id ∈ q.missing ↔ id ∈ p.missing
  /-- The other entries stand in the same order. -/
  others : (q.entries.filter fun e => !e.isOneOf kind ids) =
    p.entries.filter fun e => !e.isOneOf kind ids
  kept : ∀ f ∈ q.entries, ∃ e ∈ p.entries, e.Updates fields f

namespace Provider

theorem mem_modifyFirst {test : Entry → Bool} {change : Entry → Entry} {entries : List Entry}
    {f : Entry} (h : f ∈ modifyFirst test change entries) :
    f ∈ entries ∨ ∃ e ∈ entries, test e = true ∧ f = change e := by
  induction entries with
  | nil => cases h
  | cons e rest ih =>
    rw [modifyFirst] at h
    split at h
    · rename_i htest
      rcases List.mem_cons.1 h with rfl | h
      · exact .inr ⟨e, List.mem_cons_self, htest, rfl⟩
      · exact .inl (List.mem_cons_of_mem _ h)
    · rcases List.mem_cons.1 h with rfl | h
      · exact .inl List.mem_cons_self
      · rcases ih h with h | ⟨e', he', htest, rfl⟩
        · exact .inl (List.mem_cons_of_mem _ h)
        · exact .inr ⟨e', List.mem_cons_of_mem _ he', htest, rfl⟩

/-- A filter that lets through neither the entry that is changed nor what becomes of it sees no
change. -/
theorem filter_modifyFirst {test keep : Entry → Bool} {change : Entry → Entry}
    {entries : List Entry} (h : ∀ e, test e = true → keep e = false ∧ keep (change e) = false) :
    (modifyFirst test change entries).filter keep = entries.filter keep := by
  induction entries with
  | nil => rfl
  | cons e rest ih =>
    rw [modifyFirst]
    split
    · rename_i htest
      rw [List.filter_cons_of_neg (by simp [(h e htest).2]),
        List.filter_cons_of_neg (by simp [(h e htest).1])]
    · rw [List.filter_cons, List.filter_cons, ih]

theorem typeName_of_kindOf {p : Provider} {name : String} {kind : ResourceKind}
    (h : p.kindOf name = .ok kind) : kind.typeName = Catalog.bareName name :=
  (Catalog.get_eq_ok (Fallible.mapError_eq_ok.1 h)).2

namespace Confined

variable {p q r : Provider} {kind : String} {ids fields : List String}

theorem refl (kind : String) (ids fields : List String) (p : Provider) :
    Confined kind ids fields p p :=
  ⟨rfl, rfl, rfl, rfl, fun _ _ => Iff.rfl, rfl, fun e he => ⟨e, he, .refl fields e⟩⟩

theorem trans (h : Confined kind ids fields p q) (h' : Confined kind ids fields q r) :
    Confined kind ids fields p r where
  catalog := h'.catalog.trans h.catalog
  source := h'.source.trans h.source
  ingest := h'.ingest.trans h.ingest
  errors := h'.errors.trans h.errors
  missing id hid := (h'.missing id hid).trans (h.missing id hid)
  others := h'.others.trans h.others
  kept g hg := by
    obtain ⟨f, hf, hfg⟩ := h'.kept g hg
    obtain ⟨e, he, hef⟩ := h.kept f hf
    exact ⟨e, he, hef.trans hfg⟩

theorem mono (h : Confined kind ids fields p q) {ids' : List String} (hids : ids ⊆ ids') :
    Confined kind ids' fields p q where
  catalog := h.catalog
  source := h.source
  ingest := h.ingest
  errors := h.errors
  missing id hid := h.missing id fun hmem => hid (hids hmem)
  others := by
    have hfilter : ∀ entries : List Entry, (entries.filter fun e => !e.isOneOf kind ids') =
        (entries.filter fun e => !e.isOneOf kind ids).filter fun e => !e.isOneOf kind ids' := by
      intro entries
      rw [List.filter_filter]
      refine List.filter_congr fun e _ => ?_
      by_cases he : e.isOneOf kind ids = true
      · have he' : e.isOneOf kind ids' = true :=
          Entry.isOneOf_iff.2 ⟨(Entry.isOneOf_iff.1 he).1, hids (Entry.isOneOf_iff.1 he).2⟩
        simp [he, he']
      · simp [he]
    rw [hfilter, h.others, ← hfilter]
  kept := h.kept

/-- The entries that a test finds stand as they stood if the test finds none that was touched. -/
theorem filter_eq (h : Confined kind ids fields p q) {test : Entry → Bool}
    (apart : ∀ e, test e = true → e.isOneOf kind ids = false) :
    q.entries.filter test = p.entries.filter test := by
  have hfilter : ∀ entries : List Entry, entries.filter test =
      (entries.filter fun e => !e.isOneOf kind ids).filter test := by
    intro entries
    rw [List.filter_filter]
    refine List.filter_congr fun e _ => ?_
    cases htest : test e with
    | false => rfl
    | true => simp [apart e htest]
  rw [hfilter, h.others, ← hfilter]

theorem filter_isFor (h : Confined kind ids fields p q) {name id : String}
    (apart : name ≠ kind ∨ id ∉ ids) :
    q.entries.filter (Entry.isFor name id) = p.entries.filter (Entry.isFor name id) := by
  refine h.filter_eq fun e hfor => Bool.eq_false_iff.2 fun hone => ?_
  obtain ⟨rfl, rfl⟩ := Entry.isFor_iff.1 hfor
  obtain ⟨hkind, hid⟩ := Entry.isOneOf_iff.1 hone
  exact apart.elim (· hkind) (· hid)

theorem log (kind : String) (ids fields : List String) (p : Provider) (verb : Verb)
    (target : ResourceRef) : Confined kind ids fields p (p.log verb target) :=
  { refl kind ids fields p with }

theorem sessions (kind : String) (ids fields : List String) (p : Provider) (sessions : Nat) :
    Confined kind ids fields p { p with sessions } := { refl kind ids fields p with }

theorem remove (p : Provider) (kind id : String) (fields : List String) :
    Confined kind [id] fields p (p.remove kind id) :=
  { refl kind [id] fields p with
    others := by
      refine (List.filter_filter ..).trans (List.filter_congr fun e _ => ?_)
      cases hfor : e.isFor kind id with
      | false => simp
      | true => simp [Entry.isOneOf_of_isFor hfor]
    kept := fun e he => ⟨e, (List.mem_filter.1 he).1, .refl fields e⟩ }

theorem modify (p : Provider) (kind id : String) {change : Entry → Entry}
    (hchange : ∀ e : Entry, e.Updates fields (change e)) :
    Confined kind [id] fields p (p.modify kind id change) :=
  { refl kind [id] fields p with
    others := by
      refine filter_modifyFirst fun e hfor => ?_
      have hone := Entry.isOneOf_of_isFor hfor
      rw [Entry.isOneOf_congr (hchange e).target, hone]
      exact ⟨rfl, rfl⟩
    kept := by
      intro f hf
      rcases mem_modifyFirst hf with hf | ⟨e, he, -, rfl⟩
      · exact ⟨f, hf, .refl fields f⟩
      · exact ⟨e, he, hchange e⟩ }

theorem gate (p : Provider) {name : String} {kind : ResourceKind} (hk : p.kindOf name = .ok kind)
    (id : String) (fields : List String) :
    Confined (Catalog.bareName name) [id] fields p (p.gate kind id).2 := by
  rw [← typeName_of_kindOf hk]
  unfold Provider.gate
  split
  · exact refl ..
  · split
    · refine { remove p kind.typeName id fields with missing := ?_ }
      intro other hother
      have hne : other ≠ id := fun h => hother (List.mem_singleton.2 h)
      simp [hne]
    · split <;> exact refl ..

end Confined

section Calls

variable (p : Provider) (target : ResourceRef)

theorem getTags_confined (fields : List String) :
    Confined (Catalog.bareName target.kind) [target.id] fields p (p.getTags target).2 := by
  unfold getTags
  cases hk : p.kindOf target.kind with
  | error e => exact .refl ..
  | ok kind =>
    have h := (Confined.log _ _ fields p .getTags target).trans
      (.gate (p.log .getTags target) hk target.id fields)
    dsimp only
    split <;> rename_i hreply <;> rw [hreply] at h <;> exact h

theorem putTags_confined (tags : TagSet) (fields : List String) :
    Confined (Catalog.bareName target.kind) [target.id] fields p (p.putTags target tags).2 := by
  unfold putTags
  cases hk : p.kindOf target.kind with
  | error e => exact .refl ..
  | ok kind =>
    have h := (Confined.log _ _ fields p .putTags target).trans
      (.gate (p.log .putTags target) hk target.id fields)
    dsimp only
    split <;> rename_i hreply <;> rw [hreply] at h
    · exact h
    · split
      · exact h
      · rw [typeName_of_kindOf hk]
        exact h.trans (.modify _ _ _ fun e => ⟨rfl, rfl, fun _ => .inl⟩)

theorem delete_confined (fields : List String) :
    Confined (Catalog.bareName target.kind) [target.id] fields p (p.delete target).2 := by
  unfold delete
  have hlog := Confined.log (Catalog.bareName target.kind) [target.id] fields p .delete target
  dsimp only
  cases hk : (p.log .delete target).kindOf target.kind with
  | error e => exact hlog
  | ok kind =>
    have h := hlog.trans (.gate _ hk target.id fields)
    dsimp only
    split <;> rename_i hreply <;> rw [hreply] at h
    · exact h
    · rw [typeName_of_kindOf hk]
      exact h.trans (.remove ..)

theorem update_confined {change : Json} {fields : List (String × Json)}
    (hfields : change.asObject? = some fields) :
    Confined (Catalog.bareName target.kind) [target.id] (Keyed.keys fields) p
      (p.update target change).2 := by
  unfold update
  have hlog := Confined.log (Catalog.bareName target.kind) [target.id] (Keyed.keys fields) p
    .update target
  rw [hfields]
  dsimp only
  cases hk : (p.log .update target).kindOf target.kind with
  | error e => exact hlog
  | ok kind =>
    have h := hlog.trans (.gate _ hk target.id (Keyed.keys fields))
    dsimp only
    split <;> rename_i hreply <;> rw [hreply] at h
    · exact h
    · rw [typeName_of_kindOf hk]
      exact h.trans (.modify _ _ _ fun e => ⟨rfl, rfl, fun _ => Keyed.mem_keys_putAll⟩)

end Calls

end Provider

end TagGovernance
