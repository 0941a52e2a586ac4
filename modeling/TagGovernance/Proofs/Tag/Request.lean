import Mathlib.Data.List.Lattice
import TagGovernance.Proofs.Tag.Reconcile

/-!
# Requests one after the other

Two requests come to one, whatever the tags are that they are made of: what the first one adds is
brought to what the second one asks for, and what either of them removes is removed. An added tag wins
over the removal of its key there, too, so a key that the first one adds and the second one removes is
gone, and one that the first one removes and the second one adds is there. Any number of requests come
to their total.
-/

namespace TagGovernance

structure TagRequest where
  add : TagSet
  remove : TagKeys

namespace TagRequest

def nothing : TagRequest := ⟨.empty, []⟩

def apply (r : TagRequest) (tags : TagSet) : TagSet := reconcile tags r.add r.remove

/-- Two requests as one. -/
def andThen (first second : TagRequest) : TagRequest :=
  ⟨second.apply first.add, first.remove ∪ second.remove⟩

def total (requests : List TagRequest) : TagRequest := requests.foldl andThen nothing

theorem get?_apply (r : TagRequest) (tags : TagSet) (key : String) :
    (r.apply tags).get? key =
      (r.add.get? key).or (if key ∈ r.remove then none else tags.get? key) :=
  get?_reconcile tags r.add r.remove key

theorem apply_nothing (tags : TagSet) : nothing.apply tags = tags := reconcile_nothing tags

theorem apply_andThen (first second : TagRequest) (tags : TagSet) :
    (first.andThen second).apply tags = second.apply (first.apply tags) := by
  apply TagSet.ext_get?
  intro key
  simp only [andThen, get?_apply, List.mem_union_iff]
  cases second.add.get? key with
  | some value => rw [Option.some_or, Option.some_or, Option.some_or]
  | none => by_cases hsecond : key ∈ second.remove <;> simp [hsecond]

theorem apply_foldl (requests : List TagRequest) (start : TagRequest) (tags : TagSet) :
    (requests.foldl andThen start).apply tags =
      requests.foldl (fun tags r => r.apply tags) (start.apply tags) := by
  induction requests generalizing start with
  | nil => rfl
  | cons r rest ih => rw [List.foldl_cons, List.foldl_cons, ih, apply_andThen]

theorem apply_total (requests : List TagRequest) (tags : TagSet) :
    (total requests).apply tags = requests.foldl (fun tags r => r.apply tags) tags := by
  rw [total, apply_foldl, apply_nothing]

/-- Requests compose. Two of them come to one, and any number of them to their total, which is made of
the requests alone: what it does to tags is what they do to them one after the other. -/
theorem requests_compose :
    (∀ (existing add add' : TagSet) (remove remove' : TagKeys),
      reconcile (reconcile existing add remove) add' remove' =
        reconcile existing (reconcile add add' remove') (remove ∪ remove')) ∧
    ∀ (requests : List TagRequest) (existing : TagSet),
      requests.foldl (fun tags r => reconcile tags r.add r.remove) existing =
        reconcile existing (total requests).add (total requests).remove := by
  refine ⟨fun existing add add' remove remove' => ?_, fun requests existing => ?_⟩
  · exact (apply_andThen ⟨add, remove⟩ ⟨add', remove'⟩ existing).symm
  · exact (apply_total requests existing).symm

end TagRequest

end TagGovernance
