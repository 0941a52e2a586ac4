import TagGovernance.Tag.Set

/-!
# Reconciling tags

A request names tags to add and keys to remove. Added tags are authoritative and win over the
removal of their key; existing tags named by neither are carried over, one after the other or all at
once. Nothing is written when the result is what the resource already has.
-/

namespace TagGovernance

/-- What a request means for a resource's current tags. -/
inductive TagChange
  | noop
  | write (tags : TagSet)
  deriving DecidableEq

/-- The tags a resource should have. -/
def reconcile (existing add : TagSet) (remove : TagKeys) : TagSet :=
  (existing.filterKeys fun key => !remove.contains key).insertAll add.entries

theorem get?_reconcile (existing add : TagSet) (remove : TagKeys) (key : String) :
    (reconcile existing add remove).get? key =
      (add.get? key).or (if key ∈ remove then none else existing.get? key) := by
  rw [reconcile, TagSet.get?_insertAll add.ascending, TagSet.get?_filterKeys, TagSet.get?]
  by_cases h : key ∈ remove <;> simp [h, TagSet.get?]

namespace TagSet

/-- Carries an existing tag over to a result, unless the result has its key or the key is to be
removed. -/
def carry (remove : TagKeys) (result : TagSet) (tag : String × String) : TagSet :=
  if result.has tag.1 || remove.contains tag.1 then result else result.insert tag.1 tag.2

theorem get?_carry (remove : TagKeys) (result : TagSet) (tag : String × String) (key : String) :
    (carry remove result tag).get? key =
      (result.get? key).or (if key ∈ remove then none else Keyed.find? key [tag]) := by
  obtain ⟨k, value⟩ := tag
  rw [carry, Keyed.find?_cons, Keyed.find?_nil]
  by_cases hk : k = key
  · subst k
    by_cases hremove : key ∈ remove
    · simp [hremove]
    · cases hget : result.get? key <;> simp [has, hget, hremove, get?_insert]
  · rw [if_neg hk, ite_self, Option.or_none]
    split
    · rfl
    · rw [get?_insert, if_neg hk]

/-- At every point of the way a key has its value at the start, or else the first one among the tags
that were carried over, unless it is to be removed. -/
theorem get?_foldl_carry (remove : TagKeys) (tags : List (String × String)) (result : TagSet)
    (key : String) : (tags.foldl (carry remove) result).get? key =
      (result.get? key).or (if key ∈ remove then none else Keyed.find? key tags) := by
  induction tags generalizing result with
  | nil => simp
  | cons tag rest ih =>
    obtain ⟨k, value⟩ := tag
    rw [List.foldl_cons, ih, get?_carry, Option.or_assoc, Keyed.find?_cons, Keyed.find?_cons]
    by_cases hremove : key ∈ remove
    · simp [hremove]
    · by_cases hk : k = key <;> simp [hremove, hk]

end TagSet

/-- The tags to add, to which the existing ones are carried over one after the other, are the
reconciled set. -/
theorem foldl_carry_eq_reconcile (existing add : TagSet) (remove : TagKeys) :
    existing.entries.foldl (TagSet.carry remove) add = reconcile existing add remove := by
  apply TagSet.ext_get?
  intro key
  rw [TagSet.get?_foldl_carry, get?_reconcile]
  rfl

/-- Reconciles, and decides whether a write is needed at all. -/
def plan (existing add : TagSet) (remove : TagKeys) : TagChange :=
  let result := reconcile existing add remove
  if result = existing then .noop else .write result

end TagGovernance
