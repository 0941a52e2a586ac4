import TagGovernance.Proofs.Batch.Tagging

/-!
# One resource through a batch

A resource that calls get through to shows its tags to them, and the fields that updates have set.
What a batch makes of these two is what the work makes of them once: work on other resources keeps
them, and doing the work again for the same resource changes nothing.
-/

namespace TagGovernance

namespace Provider

/-- A resource that calls get through to, the only one of its kind with its id. It has these tags if
its kind has any, and these fields were set. -/
structure Shows (p : Provider) (kind : ResourceKind) (target : ResourceRef) (tags : TagSet)
    (overlay : List (String × Json)) : Prop where
  found : p.catalog.get kind.typeName = .ok kind
  passes : p.Passes target.id
  present : target.id ∉ p.missing
  entry : ∃ e, p.named kind.typeName target.id = [e] ∧ e.target = target ∧ e.overlay = overlay ∧
    ∀ shape, kind.tagShape = some shape → p.tagsOf shape e = .ok tags

namespace Shows

variable {p q : Provider} {kind : ResourceKind} {target t : ResourceRef} {tags : TagSet}
  {overlay : List (String × Json)}

theorem live (h : p.Shows kind target tags overlay) : p.Live kind.typeName target.id := by
  obtain ⟨e, hnamed, -⟩ := h.entry
  rw [live_iff_named, hnamed]
  exact ⟨h.passes, h.present, List.cons_ne_nil e []⟩

theorem confined {name : String} {ids fields : List String} (h : p.Shows kind target tags overlay)
    (hq : Confined name ids fields p q) (apart : target.id ∉ ids) :
    q.Shows kind target tags overlay where
  found := by rw [hq.catalog, h.found]
  passes := by rw [Passes, hq.errors, h.passes]
  present := mt (hq.missing target.id apart).1 h.present
  entry := by
    obtain ⟨e, hnamed, hshown⟩ := h.entry
    have htags : q.tagsOf = p.tagsOf := by
      funext shape e
      rw [tagsOf, tagsOf, hq.ingest]
    exact ⟨e, (hq.named_eq (.inr apart)).trans hnamed, htags ▸ hshown⟩

theorem session (h : p.Shows kind target tags overlay) (sessions : Nat) :
    ({ p with sessions } : Provider).Shows kind target tags overlay :=
  h.confined (Confined.sessions kind.typeName [] [] p sessions) List.not_mem_nil

theorem kindOf (h : p.Shows kind target tags overlay) (ht : t.kind = kind.typeName) :
    p.kindOf t.kind = .ok kind := by
  rw [Provider.kindOf, ht, h.found, Fallible.mapError_ok]

theorem getTags (h : p.Shows kind target tags overlay) (ht : target.kind = kind.typeName)
    {shape : TagShape} (hshape : kind.tagShape = some shape) :
    (p.getTags target).1 = .ok tags := by
  obtain ⟨e, hnamed, -, -, htags⟩ := h.entry
  obtain ⟨found, hfound, hget⟩ := getTags_of_live (h.kindOf ht) h.live
  rw [find?_eq_head?, hnamed] at hfound
  obtain rfl := Option.some.inj hfound
  rw [hget, shapeOf, hshape, Fallible.ok_bind, htags shape hshape]

/-- The resource is enumerated, and its record has the fields that were set. -/
theorem listed (h : p.Shows kind target tags overlay) (hp : p.Sound)
    (hkind : target.kind = kind.typeName) {resources : List (ResourceRef × Json)}
    (hresources : p.resources kind.typeName = .ok resources) :
    ∃ fields, (target, .obj (Keyed.putAll fields overlay)) ∈ resources := by
  obtain ⟨e, hnamed, rfl, rfl, -⟩ := h.entry
  have he : e ∈ p.entries := (mem_named.1 (hnamed ▸ List.mem_singleton_self e)).1
  obtain ⟨record, hmem, hrecord⟩ := hp.mem_resources h.found hresources he hkind
  obtain ⟨render, hrender, href⟩ := hp.recordOf he (hkind ▸ h.found)
  obtain ⟨read, -, rfl⟩ := Fallible.map_eq_ok.1 (hrender.symm.trans hrecord)
  obtain ⟨shown, hobj⟩ := ResourceKind.obj_of_refOf (href read)
  obtain ⟨described, -, hrecord⟩ := Fallible.bind_eq_ok.1 hrecord
  split at hrecord
  · rename_i fields
    exact ⟨fields, Except.ok.inj hrecord ▸ hmem⟩
  · rename_i hnone
    exact absurd ((Except.ok.inj hrecord).trans hobj) (hnone shown)

theorem tagOne {w : Retagging} (h : p.Shows w.kind target tags overlay)
    (ht : t.kind = w.kind.typeName) (hid : t.id = target.id) :
    (Batch.tagOne w.add w.remove p t).2.Shows w.kind target (w.wanted tags) overlay := by
  have hdone := (w.tagOne_served (h.kindOf ht)).done
  obtain ⟨e, hnamed, htarget, hoverlay, htags⟩ := h.entry
  have hread := Fallible.mapError_eq_ok.1 (htags w.shape w.shaped)
  refine ⟨?_, (hdone.passes_iff _).2 h.passes, fun hmem => ?_, w.entry p.ingest e, ?_, ?_, ?_, ?_⟩
  · rw [hdone.rest, h.found]
  · exact h.present ((hdone.mem_missing _).1 hmem).1
  · rw [hdone.named, if_pos ⟨rfl, h.passes, List.mem_singleton.2 hid.symm⟩, if_neg h.present,
      hnamed]
    rfl
  · rw [w.entry_target, htarget]
  · rw [w.entry_rest, hoverlay]
  · intro shape hshape
    obtain rfl := Option.some.inj (w.shaped.symm.trans hshape)
    rw [hdone.rest]
    exact Fallible.mapError_eq_ok.2 (Retagging.decode_entry hread)

theorem updateOne {change : Json} {fields : List (String × Json)}
    (hfields : change.asObject? = some fields) (h : p.Shows kind target tags overlay)
    (ht : t.kind = kind.typeName) (hid : t.id = target.id) :
    (Batch.updateOne change p t).2.Shows kind target tags (Keyed.putAll overlay fields) := by
  obtain ⟨e, hnamed, htarget, hoverlay, htags⟩ := h.entry
  have hlive : p.Live kind.typeName t.id := hid ▸ h.live
  rw [Batch.updateOne, update_of_live (h.kindOf ht) hfields hlive]
  refine ⟨h.found, h.passes, h.present, e.updated fields, ?_, htarget, ?_, htags⟩
  · refine (named_modify (fun e => (rfl : (e.updated fields).target = e.target)) ..).trans ?_
    rw [if_pos ⟨rfl, hid.symm⟩]
    exact congrArg _ hnamed
  · rw [Entry.updated, hoverlay]

theorem deleteOne (h : p.Shows kind target tags overlay) (ht : t.kind = kind.typeName)
    (hid : t.id = target.id) :
    (Batch.deleteOne p t).2.named kind.typeName target.id = [] := by
  have hlive : p.Live kind.typeName t.id := hid ▸ h.live
  rw [Batch.deleteOne, delete_of_live (h.kindOf ht) hlive]
  exact (named_remove ..).trans (if_pos ⟨rfl, hid.symm⟩)

section Targets

variable {targets : List ResourceRef} (named : ∀ t ∈ targets, t.kind = kind.typeName)
  (hmem : target ∈ targets)

include named hmem

private theorem settles {work : Batch.Work} {p : Provider} {fields : List String}
    {T : Provider → Prop}
    (hwork : ∀ q t, Confined (Catalog.bareName t.kind) [t.id] fields q (work q t).2)
    (keep : ∀ q r name ids, Confined name ids fields q r → target.id ∉ ids → T q → T r)
    (turn : ∀ q t, t.kind = kind.typeName → t.id = target.id →
      q.Shows kind target tags overlay ∨ T q → T (work q t).2)
    (h : p.Shows kind target tags overlay) : T (Batch.runItems work p targets).2 := by
  refine Batch.runItems_settles (S := fun q => q.Shows kind target tags overlay)
    (fun q t _ hid => ?_) (fun q t ht hid => turn q t (named t ht) hid) (List.mem_map_of_mem hmem) h
  have hapart : target.id ∉ [t.id] := by simpa [eq_comm] using hid
  exact ⟨fun hq => hq.confined (hwork q t) hapart, keep q _ _ _ (hwork q t) hapart⟩

theorem delete (h : p.Shows kind target tags overlay) :
    (Batch.runItems Batch.deleteOne p targets).2.named kind.typeName target.id = [] := by
  refine settles (T := fun q => q.named kind.typeName target.id = []) named hmem
    (Batch.deleteOne_confined []) (fun q r _ _ hr _ => hr.named_nil) (fun q t ht hid hq => ?_) h
  rcases hq with hq | hq
  · exact hq.deleteOne ht hid
  · exact (Batch.deleteOne_confined [] q t).named_nil hq

end Targets

end Shows

end Provider

end TagGovernance
