import TagGovernance.Proofs.Provider.Enumeration
import TagGovernance.Proofs.Tag.Payload

/-!
# Resources whose tags can be read

All kinds can be enumerated just if the tags of every entry can be read. A resource is spoiled if
they cannot, and live if calls on it get through. What one call does to these two facts is said
here for each call; what it does not look at keeps them.
-/

namespace TagGovernance

namespace Entry

def written (shape : TagShape) (tags : TagSet) (e : Entry) : Entry :=
  { e with recording := { e.recording with tags := some (shape.encode tags) } }

def updated (fields : List (String × Json)) (e : Entry) : Entry :=
  { e with overlay := Keyed.putAll e.overlay fields }

end Entry

namespace Provider

def Reads (p : Provider) (e : Entry) : Prop :=
  ∀ shape, p.catalog.shapeOf e.target.kind = some shape →
    ∃ tags, shape.decode (e.recording.tags.getD .null) p.ingest = .ok tags

/-- Some entry of a kind with an id has tags that cannot be read. -/
def Spoiled (p : Provider) (kind id : String) : Prop :=
  ∃ e ∈ p.entries, e.isFor kind id = true ∧ ¬p.Reads e

/-- A call on the resource of a kind with an id finds it. -/
def Live (p : Provider) (kind id : String) : Prop :=
  Keyed.find? id p.errors = none ∧ id ∉ p.missing ∧ ∃ e ∈ p.entries, e.isFor kind id = true

def Enumerable (p : Provider) : Prop :=
  ∀ kind ∈ p.catalog.kinds, ∃ resources, p.resources kind.typeName = .ok resources

variable {p q : Provider} {kind : ResourceKind} {e : Entry}

theorem reads_iff_readTags (hshape : p.catalog.shapeOf e.target.kind = kind.tagShape) :
    p.Reads e ↔ ∃ tags, kind.readTags p.ingest e.recording = .ok tags := by
  rw [Reads, hshape, ResourceKind.readTags]
  cases kind.tagShape with
  | none => simp
  | some shape => cases e.recording.tags with
    | none => simp [TagShape.decode, Json.isNull]
    | some raw =>
      cases h : shape.decode raw p.ingest <;> simp [h, during, Except.map]

namespace Sound

/-- A sound entry whose tags can be read has a record. -/
theorem reads_iff (hp : p.Sound) (he : e ∈ p.entries) (hk : p.catalog.get e.target.kind = .ok kind) :
    p.Reads e ↔ ∃ record, p.recordOf kind e = .ok record := by
  obtain ⟨render, hrecord, href⟩ := hp.recordOf he hk
  have hshape : p.catalog.shapeOf e.target.kind = kind.tagShape := by
    rw [ResourceKind.refOf_kind (href none), Catalog.shapeOf_typeName hk]
  rw [reads_iff_readTags hshape, hrecord]
  simp [Fallible.map_eq_ok]

/-- A kind can be enumerated just if none of its resources is spoiled. -/
theorem resources_succeeds_iff (hp : p.Sound) (hk : p.catalog.get kind.typeName = .ok kind) :
    (∃ resources, p.resources kind.typeName = .ok resources) ↔
      ∀ id, ¬p.Spoiled kind.typeName id := by
  have hrecord : ∀ e ∈ p.entries, e.target.kind = kind.typeName →
      ((∃ d, (p.recordOf kind e).map (e.target, ·) = .ok d) ↔ p.Reads e) := by
    intro e he hkind
    rw [hp.reads_iff he (hkind ▸ hk)]
    simp [Fallible.map_eq_ok]
  rw [hp.resources_eq hk]
  simp only [Fallible.mapError_eq_ok]
  rw [Fallible.mapM_succeeds_iff]
  constructor
  · rintro h id ⟨e, he, hfor, hspoiled⟩
    have hkind := (Entry.isFor_iff.1 hfor).1
    have hreads := h e (List.mem_filter.2 ⟨he, decide_eq_true hkind⟩)
    exact hspoiled ((hrecord e he hkind).1 hreads)
  · intro h e hmem
    obtain ⟨he, hkind⟩ := List.mem_filter.1 hmem
    have hkind := of_decide_eq_true hkind
    rw [hrecord e he hkind]
    by_contra hspoiled
    exact h e.target.id ⟨e, he, Entry.isFor_iff.2 ⟨hkind, rfl⟩, hspoiled⟩

theorem enumerable_iff (hp : p.Sound) : p.Enumerable ↔ ∀ kind id, ¬p.Spoiled kind id := by
  constructor
  · rintro h name id ⟨e, he, hfor, hspoiled⟩
    obtain ⟨kind, fields, hk, -, href, -⟩ := hp.entries e he
    have hmem := (Catalog.get_eq_ok hk).1
    obtain rfl : kind.typeName = name :=
      (ResourceKind.refOf_kind href).symm.trans (Entry.isFor_iff.1 hfor).1
    have hclean := (hp.resources_succeeds_iff (hp.steady.found kind hmem)).1 (h kind hmem)
    exact hclean id ⟨e, he, hfor, hspoiled⟩
  · intro h kind hmem
    exact (hp.resources_succeeds_iff (hp.steady.found kind hmem)).2 (h kind.typeName)

end Sound

theorem ofFlight_enumerable {catalog : Catalog} {flight : Flight} {ingest : Ingest}
    (hc : catalog.Steady) (h : ofFlight catalog flight ingest = .ok p) : p.Enumerable := by
  have hp := ofFlight_sound hc h
  rw [hp.enumerable_iff]
  rintro name id ⟨e, he, -, hspoiled⟩
  obtain ⟨-, kind, record, hk, hrecord⟩ := ofFlight_entry hc h he
  exact hspoiled ((hp.reads_iff he hk).2 ⟨record, hrecord⟩)

/-- A tag set that was written can be read unless it has the empty key. -/
theorem reads_written {shape : TagShape} (hshape : p.catalog.shapeOf e.target.kind = some shape)
    (tags : TagSet) :
    p.Reads (e.written shape tags) ↔ tags.has "" = false := by
  simp only [Reads, Entry.written, hshape, Option.some.injEq, forall_eq', Option.getD_some,
    TagShape.decode_encode]
  cases tags.has "" <;> simp

namespace Confined

variable {name other id : String} {ids fields : List String}

theorem reads (h : Confined name ids fields p q) (e : Entry) : q.Reads e ↔ p.Reads e := by
  rw [Reads, Reads, h.catalog, h.ingest]

private theorem mem_entries (h : Confined name ids fields p q) (apart : other ≠ name ∨ id ∉ ids)
    (e : Entry) : (e ∈ q.entries ∧ e.isFor other id = true) ↔
      (e ∈ p.entries ∧ e.isFor other id = true) := by
  rw [← List.mem_filter, ← List.mem_filter, h.filter_isFor apart]

/-- Resources that nothing was done to are spoiled or not as before. -/
theorem spoiled_iff (h : Confined name ids fields p q) (apart : other ≠ name ∨ id ∉ ids) :
    q.Spoiled other id ↔ p.Spoiled other id := by
  simp only [Spoiled, ← and_assoc, h.mem_entries apart, h.reads]

theorem live_iff (h : Confined name ids fields p q) (apart : id ∉ ids) :
    q.Live other id ↔ p.Live other id := by
  simp only [Live, h.errors, h.missing id apart, h.mem_entries (.inr apart)]

end Confined

theorem closeSession_spoiled_iff (p : Provider) (name id : String) :
    p.closeSession.Spoiled name id ↔ p.Spoiled name id := Iff.rfl

/-- A resource that calls do not get through to stays so, and is not spoiled by them. -/
def Shut (name id : String) (p q : Provider) : Prop :=
  ¬q.Live name id ∧ (q.Spoiled name id → p.Spoiled name id)

theorem isFor_of_mem_remove {name id : String} (h : e ∈ (p.remove name id).entries) :
    e.isFor name id = false := by
  simpa using (List.mem_filter.1 h).2

theorem remove_gone (p : Provider) (name id : String) :
    ¬(p.remove name id).Live name id ∧ ¬(p.remove name id).Spoiled name id := by
  constructor
  · rintro ⟨-, -, e, he, hfor⟩
    exact Bool.false_ne_true ((isFor_of_mem_remove he).symm.trans hfor)
  · rintro ⟨e, he, hfor, -⟩
    exact Bool.false_ne_true ((isFor_of_mem_remove he).symm.trans hfor)

theorem gate_of_live {id : String} (h : p.Live kind.typeName id) :
    ∃ e, p.find? kind.typeName id = some e ∧ p.gate kind id = (.ok e, p) := by
  obtain ⟨herrors, hmissing, e, he, hfor⟩ := h
  obtain ⟨found, hfound⟩ := Option.isSome_iff_exists.1 (List.find?_isSome.2 ⟨e, he, hfor⟩)
  refine ⟨found, hfound, ?_⟩
  rw [gate, herrors]
  simp only [hmissing, if_false]
  rw [find?, hfound]

theorem gate_of_not_live {id : String} (h : ¬p.Live kind.typeName id) :
    ∃ error q, p.gate kind id = (.error error, q) ∧ Shut kind.typeName id p q := by
  unfold gate
  split
  · exact ⟨_, p, rfl, h, fun hs => hs⟩
  · rename_i herrors
    split
    · refine ⟨_, _, rfl, ?_, fun hs => absurd hs (remove_gone p kind.typeName id).2⟩
      rintro ⟨-, -, e, he, hfor⟩
      exact Bool.false_ne_true ((isFor_of_mem_remove he).symm.trans hfor)
    · rename_i hmissing
      split
      · rename_i e he
        exact absurd ⟨herrors, hmissing, e, List.mem_of_find?_eq_some he, List.find?_some he⟩ h
      · exact ⟨_, p, rfl, h, fun hs => hs⟩

section Modify

variable {name id : String} {change : Entry → Entry}

theorem modifyFirst_of_split {test : Entry → Bool} {before after : List Entry}
    (hbefore : ∀ e ∈ before, test e = false) (htest : test e = true) :
    modifyFirst test change (before ++ e :: after) = before ++ change e :: after := by
  induction before with
  | nil => rw [List.nil_append, modifyFirst, if_pos htest, List.nil_append]
  | cons x rest ih =>
    obtain ⟨hx, hrest⟩ := List.forall_mem_cons.1 hbefore
    rw [List.cons_append, modifyFirst, hx, ih hrest]
    rfl

private theorem entries_modify (h : p.find? name id = some e) :
    e.isFor name id = true ∧ ∃ before after, p.entries = before ++ e :: after ∧
      (p.modify name id change).entries = before ++ change e :: after := by
  obtain ⟨hfor, before, after, hentries, hbefore⟩ := List.find?_eq_some_iff_append.1 h
  refine ⟨hfor, before, after, hentries, ?_⟩
  rw [modify, hentries]
  exact modifyFirst_of_split (fun x hx => by simpa using hbefore x hx) hfor

theorem live_modify (h : p.find? name id = some e) (htarget : (change e).target = e.target)
    (hlive : p.Live name id) : (p.modify name id change).Live name id := by
  obtain ⟨hfor, before, after, -, hentries⟩ := entries_modify h
  refine ⟨hlive.1, hlive.2.1, change e, ?_, ?_⟩
  · rw [hentries]
    exact List.mem_append_right _ List.mem_cons_self
  · rwa [Entry.isFor_congr htarget]

theorem spoiled_modify (h : p.find? name id = some e) (htarget : (change e).target = e.target)
    (hunread : ¬p.Reads (change e)) : (p.modify name id change).Spoiled name id := by
  obtain ⟨hfor, before, after, -, hentries⟩ := entries_modify h
  refine ⟨change e, ?_, ?_, hunread⟩
  · rw [hentries]
    exact List.mem_append_right _ List.mem_cons_self
  · rwa [Entry.isFor_congr htarget]

/-- A change that keeps whether tags can be read spoils nothing and mends nothing. -/
theorem spoiled_modify_iff (h : p.find? name id = some e)
    (htarget : (change e).target = e.target) (hreads : p.Reads (change e) ↔ p.Reads e) :
    (p.modify name id change).Spoiled name id ↔ p.Spoiled name id := by
  obtain ⟨hfor, before, after, hold, hnew⟩ := entries_modify h
  have hchanged : (change e).isFor name id = true := by rwa [Entry.isFor_congr htarget]
  change (∃ f ∈ (p.modify name id change).entries, _ ∧ ¬p.Reads f) ↔ _
  rw [Spoiled, hnew, hold]
  simp only [List.mem_append, List.mem_cons, or_and_right, exists_or, exists_eq_left, hfor, hchanged,
    hreads, true_and]

end Modify

section Calls

variable {target : ResourceRef} (hk : p.kindOf target.kind = .ok kind)

include hk

theorem shapeOf_of_find? (he : p.find? kind.typeName target.id = some e) :
    p.catalog.shapeOf e.target.kind = kind.tagShape := by
  rw [(Entry.isFor_iff.1 (List.find?_some he)).1,
    Catalog.shapeOf_typeName (Fallible.mapError_eq_ok.1 hk)]

theorem getTags_of_live (h : p.Live kind.typeName target.id) :
    ∃ e, p.find? kind.typeName target.id = some e ∧ p.getTags target =
      (shapeOf kind target >>= fun shape => p.tagsOf shape e, p.log .getTags target) := by
  obtain ⟨e, he, hgate⟩ := gate_of_live (p := p.log .getTags target) h
  refine ⟨e, he, ?_⟩
  simp only [getTags, hk, hgate]
  rfl

theorem getTags_of_not_live (h : ¬p.Live kind.typeName target.id) :
    ∃ error q, p.getTags target = (.error error, q) ∧ Shut kind.typeName target.id p q := by
  obtain ⟨error, q, hgate, hshut⟩ := gate_of_not_live (p := p.log .getTags target) h
  refine ⟨error, q, ?_, hshut⟩
  simp only [getTags, hk, hgate]

theorem putTags_of_live {shape : TagShape} (hshape : kind.tagShape = some shape)
    (h : p.Live kind.typeName target.id) (tags : TagSet) : p.putTags target tags =
      (.ok (), (p.log .putTags target).modify kind.typeName target.id
        (Entry.written shape tags)) := by
  obtain ⟨e, -, hgate⟩ := gate_of_live (p := p.log .putTags target) h
  simp only [putTags, hk, hgate, shapeOf, hshape]
  rfl

/-- Tags that are written to a live resource whose tags can be read spoil it just if they have the
empty key. -/
theorem putTags_spoiled_iff {shape : TagShape} (hshape : kind.tagShape = some shape)
    (h : p.Live kind.typeName target.id) (he : p.find? kind.typeName target.id = some e)
    (hreads : p.Reads e) (tags : TagSet) :
    (p.putTags target tags).2.Live kind.typeName target.id ∧
      ((p.putTags target tags).2.Spoiled kind.typeName target.id ↔
        tags.has "" = true ∨ p.Spoiled kind.typeName target.id) := by
  have hnew := reads_written ((shapeOf_of_find? hk he).trans hshape) tags
  let q := p.log .putTags target
  rw [putTags_of_live hk hshape h tags]
  refine ⟨live_modify (p := q) he rfl h, ?_⟩
  cases hempty : tags.has "" with
  | true =>
    have hunread := mt hnew.1 (Bool.ne_false_iff.2 hempty)
    exact iff_of_true (spoiled_modify (p := q) he rfl hunread) (.inl rfl)
  | false =>
    have hsame := iff_of_true (hnew.2 hempty) hreads
    simp only [Bool.false_eq_true, false_or]
    exact spoiled_modify_iff (p := q) he rfl hsame

theorem putTags_of_untaggable (hshape : kind.tagShape = none)
    (h : p.Live kind.typeName target.id) (tags : TagSet) : p.putTags target tags =
      (.error (.validation s!"{target.kind} is not taggable"), p.log .putTags target) := by
  obtain ⟨e, -, hgate⟩ := gate_of_live (p := p.log .putTags target) h
  simp only [putTags, hk, hgate, shapeOf, hshape]

theorem putTags_of_not_live (h : ¬p.Live kind.typeName target.id) (tags : TagSet) :
    ∃ error q, p.putTags target tags = (.error error, q) ∧
      Shut kind.typeName target.id p q := by
  obtain ⟨error, q, hgate, hshut⟩ := gate_of_not_live (p := p.log .putTags target) h
  refine ⟨error, q, ?_, hshut⟩
  simp only [putTags, hk, hgate]

theorem delete_of_live (h : p.Live kind.typeName target.id) :
    p.delete target = (.ok (), (p.log .delete target).remove kind.typeName target.id) := by
  obtain ⟨e, -, hgate⟩ := gate_of_live (p := p.log .delete target) h
  have hk : (p.log .delete target).kindOf target.kind = .ok kind := hk
  simp only [delete, hk, hgate]

theorem delete_of_not_live (h : ¬p.Live kind.typeName target.id) :
    ∃ error q, p.delete target = (.error error, q) ∧ Shut kind.typeName target.id p q := by
  obtain ⟨error, q, hgate, hshut⟩ := gate_of_not_live (p := p.log .delete target) h
  refine ⟨error, q, ?_, hshut⟩
  have hk : (p.log .delete target).kindOf target.kind = .ok kind := hk
  simp only [delete, hk, hgate]

theorem update_of_live {change : Json} {fields : List (String × Json)}
    (hfields : change.asObject? = some fields) (h : p.Live kind.typeName target.id) :
    p.update target change = (.ok (), (p.log .update target).modify kind.typeName target.id
      (Entry.updated fields)) := by
  obtain ⟨e, -, hgate⟩ := gate_of_live (p := p.log .update target) h
  have hk : (p.log .update target).kindOf target.kind = .ok kind := hk
  simp only [update, hfields, hk, hgate]
  rfl

theorem update_of_not_live {change : Json} {fields : List (String × Json)}
    (hfields : change.asObject? = some fields) (h : ¬p.Live kind.typeName target.id) :
    ∃ error q, p.update target change = (.error error, q) ∧
      Shut kind.typeName target.id p q := by
  obtain ⟨error, q, hgate, hshut⟩ := gate_of_not_live (p := p.log .update target) h
  refine ⟨error, q, ?_, hshut⟩
  have hk : (p.log .update target).kindOf target.kind = .ok kind := hk
  simp only [update, hfields, hk, hgate]

end Calls

end Provider

end TagGovernance
