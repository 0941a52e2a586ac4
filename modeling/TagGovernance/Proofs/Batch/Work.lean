import TagGovernance.Batch.Actions
import TagGovernance.Proofs.Provider.Effect
import TagGovernance.Proofs.Tag.Reconcile

/-!
# Work on targets

Work is done for one target after the other, so what the work for each target keeps, the whole batch
keeps.
-/

namespace TagGovernance.Batch

open Provider (Confined)

/-- What is kept for each target holds in the end. It may speak of the targets that are done. -/
theorem runItems_keeps {work : Work} {targets : List ResourceRef} {p : Provider}
    {P : List ResourceRef → Provider → Prop} (start : P [] p)
    (step : ∀ done q, ∀ target ∈ targets, P done q → P (done ++ [target]) (work q target).2) :
    P targets (runItems work p targets).2 := by
  have hrest : ∀ rest done q, rest ⊆ targets → P done q →
      P (done ++ rest) (runItems work q rest).2 := by
    intro rest
    induction rest with
    | nil => exact fun done q _ h => (List.append_nil done).symm ▸ h
    | cons target rest ih =>
      intro done q hsub h
      have hnext := step done q target (hsub List.mem_cons_self) h
      have hlast := ih (done ++ [target]) _ (fun t ht => hsub (List.mem_cons_of_mem _ ht)) hnext
      rwa [List.append_assoc] at hlast
  exact hrest targets [] p (List.Subset.refl _) start

/-- What the work for some id brings about, the batch brings about if one of its targets has that id.
Work on other targets keeps what held before that and what holds after it. -/
theorem runItems_settles {work : Work} {targets : List ResourceRef} {p : Provider} {id : String}
    {S T : Provider → Prop}
    (others : ∀ q, ∀ target ∈ targets, target.id ≠ id →
      (S q → S (work q target).2) ∧ (T q → T (work q target).2))
    (turn : ∀ q, ∀ target ∈ targets, target.id = id → S q ∨ T q → T (work q target).2)
    (hmem : id ∈ targets.map (·.id)) (start : S p) : T (runItems work p targets).2 := by
  induction targets generalizing p with
  | nil => cases hmem
  | cons target rest ih =>
    obtain ⟨hfirst, hothers⟩ :=
      List.forall_mem_cons.1 fun target htarget q => others q target htarget
    obtain ⟨hturn, hturns⟩ :=
      List.forall_mem_cons.1 fun target htarget q => turn q target htarget
    by_cases hid : target.id = id
    · -- From here on every target keeps what holds after the turn.
      have hstays : T (runItems work (work p target).2 rest).2 := by
        refine runItems_keeps (P := fun _ => T) (hturn p hid (.inl start)) fun _ q t ht h => ?_
        by_cases hagain : t.id = id
        · exact hturns t ht q hagain (.inr h)
        · exact (hothers t ht q hagain).2 h
      exact hstays
    · have hrest : id ∈ rest.map (·.id) := by
        rcases List.mem_cons.1 hmem with h | h
        · exact absurd h.symm hid
        · exact h
      exact ih (fun q t ht => hothers t ht q) (fun q t ht => hturns t ht q) hrest
        ((hfirst p hid).1 start)

theorem runItems_resource (work : Work) (p : Provider) (targets : List ResourceRef) :
    (runItems work p targets).1.map (·.resource) = targets.map (·.id) := by
  induction targets generalizing p with
  | nil => rfl
  | cons target rest ih => exact congrArg (target.id :: ·) (ih (work p target).2)

section Tags

variable {p q r : Provider} {target : ResourceRef} {existing add : TagSet} {remove : TagKeys}

theorem tagOne_of_error {error : ProviderError} (hget : p.getTags target = (.error error, q)) :
    tagOne add remove p target = (.error error, q) := by
  rw [tagOne, hget]

theorem tagOne_of_kept (hget : p.getTags target = (.ok existing, q))
    (h : reconcile existing add remove = existing) :
    tagOne add remove p target = (.ok .unchanged, q) := by
  simp only [tagOne, hget, plan_of_kept h]

theorem tagOne_of_changed (hget : p.getTags target = (.ok existing, q))
    (h : reconcile existing add remove ≠ existing)
    (hput : q.putTags target (reconcile existing add remove) = (.ok (), r)) :
    tagOne add remove p target = (.ok .applied, r) := by
  simp only [tagOne, hget, plan_of_changed h, hput]

end Tags

theorem tagOne_confined (add : TagSet) (remove : TagKeys) (fields : List String) (p : Provider)
    (target : ResourceRef) : Confined (Catalog.bareName target.kind) [target.id] fields p
      (tagOne add remove p target).2 := by
  have hread := p.getTags_confined target fields
  unfold tagOne
  split <;> rename_i hget <;> rw [hget] at hread
  · exact hread
  · rename_i q
    split
    · exact hread
    · rename_i tags _
      have hwrite := q.putTags_confined target tags fields
      split <;> rename_i hput <;> rw [hput] at hwrite <;> exact hread.trans hwrite

theorem deleteOne_confined (fields : List String) (p : Provider) (target : ResourceRef) :
    Confined (Catalog.bareName target.kind) [target.id] fields p (deleteOne p target).2 := by
  have h := p.delete_confined target fields
  unfold deleteOne
  split <;> rename_i hdelete <;> rw [hdelete] at h <;> exact h

theorem updateOne_confined (change : Json) {fields : List (String × Json)}
    (hfields : change.asObject? = some fields) (p : Provider) (target : ResourceRef) :
    Confined (Catalog.bareName target.kind) [target.id] (Keyed.keys fields) p
      (updateOne change p target).2 := by
  have h := p.update_confined target hfields
  unfold updateOne
  split <;> rename_i hupdate <;> rw [hupdate] at h <;> exact h

theorem runItems_confined {work : Work} {kind : String} {ids fields : List String}
    (hwork : ∀ p target, Confined (Catalog.bareName target.kind) [target.id] fields p
      (work p target).2) (p : Provider) {targets : List ResourceRef}
    (named : ∀ target ∈ targets, Catalog.bareName target.kind = kind ∧ target.id ∈ ids) :
    Confined kind ids fields p (runItems work p targets).2 := by
  refine runItems_keeps (P := fun _ => Confined kind ids fields p) (.refl ..) ?_
  intro _ q target htarget h
  obtain ⟨rfl, hid⟩ := named target htarget
  exact h.trans ((hwork q target).mono (List.cons_subset.2 ⟨hid, List.nil_subset ids⟩))

end TagGovernance.Batch
