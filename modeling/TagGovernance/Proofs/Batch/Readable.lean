import TagGovernance.Proofs.Batch.Work
import TagGovernance.Proofs.Provider.Readable

/-!
# Work and the tags it leaves

Work on a resource keeps whether its tags can be read, with two exceptions: adding a tag with the
empty key spoils a live resource, and deleting a live resource ends that it was spoiled.
-/

namespace TagGovernance

open Provider (Shut)

namespace Batch

variable {p : Provider} {kind : ResourceKind} {target : ResourceRef}
  (hk : p.kindOf target.kind = .ok kind)

include hk

theorem tagOne_of_live (h : p.Live kind.typeName target.id) {add : TagSet}
    (hshape : add.has "" = true → ∃ shape, kind.tagShape = some shape) (remove : TagKeys) :
    (tagOne add remove p target).2.Live kind.typeName target.id ∧
      ((tagOne add remove p target).2.Spoiled kind.typeName target.id ↔
        add.has "" = true ∨ p.Spoiled kind.typeName target.id) := by
  obtain ⟨e, he, hget⟩ := Provider.getTags_of_live hk h
  have hlog : (p.log .getTags target).Spoiled kind.typeName target.id ↔
      p.Spoiled kind.typeName target.id := Iff.rfl
  rw [Provider.shapeOf] at hget
  cases hs : kind.tagShape with
  | none =>
    have hadd : add.has "" = false := by
      refine Bool.eq_false_iff.2 fun hadd => ?_
      obtain ⟨shape, hshape⟩ := hshape hadd
      simp [hs] at hshape
    rw [hs] at hget
    rw [tagOne_of_error hget]
    exact ⟨h, by simp [hadd, hlog]⟩
  | some shape =>
    have hkind := (Provider.shapeOf_of_find? hk he).trans hs
    rw [hs, Fallible.ok_bind, Provider.tagsOf] at hget
    cases hd : shape.decode (e.recording.tags.getD .null) p.ingest with
    | error error =>
      have hspoiled : p.Spoiled kind.typeName target.id := by
        refine ⟨e, List.mem_of_find?_eq_some he, List.find?_some he, fun hreads => ?_⟩
        obtain ⟨tags, htags⟩ := hreads shape hkind
        simp [hd] at htags
      rw [hd, Fallible.mapError_error] at hget
      rw [tagOne_of_error hget]
      exact ⟨h, by simp [hlog, hspoiled]⟩
    | ok existing =>
      have hreads : p.Reads e := fun s hs => by
        obtain rfl := Option.some.inj (hkind.symm.trans hs)
        exact ⟨existing, hd⟩
      have hhas := has_reconcile (TagShape.decode_has_empty hd) add remove
      rw [hd, Fallible.mapError_ok] at hget
      by_cases hkept : reconcile existing add remove = existing
      · have hadd : add.has "" = false := by rw [← hhas, hkept, TagShape.decode_has_empty hd]
        rw [tagOne_of_kept hget hkept]
        exact ⟨h, by simp [hadd, hlog]⟩
      · let q := p.log .getTags target
        have hput := Provider.putTags_of_live (p := q) hk hs h (reconcile existing add remove)
        have hdone := Provider.putTags_spoiled_iff (p := q) hk hs h he hreads
          (reconcile existing add remove)
        rw [hput, hhas] at hdone
        rw [tagOne_of_changed hget hkept hput]
        exact hdone

theorem deleteOne_of_live (h : p.Live kind.typeName target.id) :
    ¬(deleteOne p target).2.Live kind.typeName target.id ∧
      ¬(deleteOne p target).2.Spoiled kind.typeName target.id := by
  unfold deleteOne
  rw [Provider.delete_of_live hk h]
  exact Provider.remove_gone _ _ _

theorem updateOne_of_live (change : Json) {fields : List (String × Json)}
    (hfields : change.asObject? = some fields) (h : p.Live kind.typeName target.id) :
    (updateOne change p target).2.Live kind.typeName target.id ∧
      ((updateOne change p target).2.Spoiled kind.typeName target.id ↔
        p.Spoiled kind.typeName target.id) := by
  obtain ⟨e, he, -⟩ := Provider.gate_of_live h
  unfold updateOne
  rw [Provider.update_of_live hk hfields h]
  exact ⟨Provider.live_modify he rfl h, Provider.spoiled_modify_iff he rfl Iff.rfl⟩

theorem tagOne_of_not_live (h : ¬p.Live kind.typeName target.id) (add : TagSet)
    (remove : TagKeys) :
    Shut kind.typeName target.id p (tagOne add remove p target).2 := by
  obtain ⟨error, q, hget, hshut⟩ := Provider.getTags_of_not_live hk h
  unfold tagOne
  rwa [hget]

theorem deleteOne_of_not_live (h : ¬p.Live kind.typeName target.id) :
    Shut kind.typeName target.id p (deleteOne p target).2 := by
  obtain ⟨error, q, hdelete, hshut⟩ := Provider.delete_of_not_live hk h
  unfold deleteOne
  rwa [hdelete]

theorem updateOne_of_not_live (change : Json) {fields : List (String × Json)}
    (hfields : change.asObject? = some fields) (h : ¬p.Live kind.typeName target.id) :
    Shut kind.typeName target.id p (updateOne change p target).2 := by
  obtain ⟨error, q, hupdate, hshut⟩ := Provider.update_of_not_live hk hfields h
  unfold updateOne
  rwa [hupdate]

end Batch

end TagGovernance
