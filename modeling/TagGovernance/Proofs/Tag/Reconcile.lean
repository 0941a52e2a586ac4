import TagGovernance.Tag.Reconcile

/-!
# Requests and what they change

A request that is made again changes nothing, and neither does one that asks for nothing. The empty
key comes in with tags to add only.

Key by key, the tags to add come first, then the keys to remove, and what was there comes last. A
write is planned just if a tag to add is not there yet, or a key to remove is there and is not added.
-/

namespace TagGovernance

variable {existing add : TagSet} {remove : TagKeys}

theorem plan_of_kept (h : reconcile existing add remove = existing) :
    plan existing add remove = .noop := if_pos h

theorem plan_of_changed (h : reconcile existing add remove ≠ existing) :
    plan existing add remove = .write (reconcile existing add remove) := if_neg h

theorem plan_eq_noop_iff :
    plan existing add remove = .noop ↔ reconcile existing add remove = existing := by
  refine ⟨fun h => Decidable.byContradiction fun hchanged => ?_, plan_of_kept⟩
  cases (plan_of_changed hchanged).symm.trans h

/-- Tags that were read have no empty key, so a reconciled set has it only from what is added. -/
theorem has_reconcile (h : existing.has "" = false) (add : TagSet) (remove : TagKeys) :
    (reconcile existing add remove).has "" = add.has "" := by
  have hnone : existing.get? "" = none := by simpa [TagSet.has] using h
  rw [TagSet.has, get?_reconcile, hnone, ite_self, Option.or_none, TagSet.has]

theorem reconcile_again (existing add : TagSet) (remove : TagKeys) :
    reconcile (reconcile existing add remove) add remove = reconcile existing add remove := by
  apply TagSet.ext_get?
  intro key
  simp only [get?_reconcile]
  cases add.get? key with
  | some value => rfl
  | none =>
    simp only [Option.none_or]
    split <;> rfl

theorem reconcile_nothing (existing : TagSet) : reconcile existing TagSet.empty [] = existing := by
  apply TagSet.ext_get?
  intro key
  simp [get?_reconcile]

/-- A request changes nothing just if the tags to add are there, and of the keys to remove only those
are there that are added. -/
theorem reconcile_eq_self_iff : reconcile existing add remove = existing ↔
    (∀ tag ∈ add.entries, tag ∈ existing.entries) ∧
      ∀ key ∈ remove, existing.has key = true → add.has key = true := by
  constructor
  · intro h
    refine ⟨fun ⟨key, value⟩ hadd => ?_, fun key hkey hhas => ?_⟩
    · rw [TagSet.mem_entries_iff] at hadd ⊢
      rw [← h, get?_reconcile, hadd, Option.some_or]
    · rw [← h, TagSet.has, get?_reconcile, if_pos hkey, Option.or_none] at hhas
      exact hhas
  · rintro ⟨hadded, hremoved⟩
    apply TagSet.ext_get?
    intro key
    rw [get?_reconcile]
    cases hadd : add.get? key with
    | some value =>
      have hthere := hadded _ (TagSet.mem_entries_iff.2 hadd)
      rw [Option.some_or, TagSet.mem_entries_iff.1 hthere]
    | none =>
      rw [Option.none_or, ite_eq_right_iff]
      intro hkey
      cases hexisting : existing.get? key with
      | none => rfl
      | some value =>
        have hhas := hremoved key hkey (by rw [TagSet.has, hexisting, Option.isSome_some])
        rw [TagSet.has, hadd] at hhas
        cases hhas

/-- What a request comes to, key by key, and when it is written. Tags to add are authoritative, keys
to remove come next, and anything else is carried over, in one step or tag by tag. Nothing is written
just if every tag to add is there and every key to remove that is there is added; otherwise the result
is written as it is, and differs from what was there. -/
theorem plan_spec (existing add : TagSet) (remove : TagKeys) :
    (∀ key, (reconcile existing add remove).get? key =
      if add.has key then add.get? key else if key ∈ remove then none else existing.get? key) ∧
    existing.entries.foldl (TagSet.carry remove) add = reconcile existing add remove ∧
    (plan existing add remove = .noop ↔
      (∀ tag ∈ add.entries, tag ∈ existing.entries) ∧
        ∀ key ∈ remove, existing.has key = true → add.has key = true) ∧
    (plan existing add remove ≠ .noop →
      plan existing add remove = .write (reconcile existing add remove) ∧
        reconcile existing add remove ≠ existing) := by
  refine ⟨fun key => ?_, foldl_carry_eq_reconcile existing add remove,
    plan_eq_noop_iff.trans reconcile_eq_self_iff, fun h => ?_⟩
  · rw [get?_reconcile, TagSet.has]
    cases add.get? key <;> rfl
  · have hchanged : reconcile existing add remove ≠ existing := mt plan_of_kept h
    exact ⟨plan_of_changed hchanged, hchanged⟩

theorem plan_spec_ownerReplaced :
    plan (.ofList [("owner", "nobody"), ("env", "prod")]) (.ofList [("owner", "policy")])
        ["owner", "due"] ≠ .noop ∧
    plan (.ofList [("owner", "nobody"), ("env", "prod")]) (.ofList [("owner", "policy")])
        ["owner", "due"] = .write (.ofList [("env", "prod"), ("owner", "policy")]) := by
  have hneeded : plan (.ofList [("owner", "nobody"), ("env", "prod")])
      (.ofList [("owner", "policy")]) ["owner", "due"] ≠ .noop := by decide
  have hwritten := ((plan_spec (.ofList [("owner", "nobody"), ("env", "prod")])
    (.ofList [("owner", "policy")]) ["owner", "due"]).2.2.2 hneeded).1
  exact ⟨hneeded, hwritten.trans rfl⟩

end TagGovernance
