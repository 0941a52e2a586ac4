import TagGovernance.Proofs.Batch.Interleaving
import TagGovernance.Proofs.Provider.ClientCall

/-!
# The calls that work makes

What a task does next depends on the answers to its calls. On a given provider it makes a certain
list of calls, and a client that makes them one after the other leaves the provider that the task
leaves. So what is said of every call of a batch is said of lists of client calls.
-/

namespace TagGovernance

namespace ClientCall

variable {P Q : Provider → ClientCall → Prop} {p : Provider} {xs ys : List ClientCall}

/-- A condition on each of some calls and on the provider that it is made on. -/
def Throughout (P : Provider → ClientCall → Prop) (p : Provider) : List ClientCall → Prop
  | [] => True
  | call :: rest => P p call ∧ Throughout P (call.make p).2 rest

theorem makeAll_append (p : Provider) (xs ys : List ClientCall) :
    (makeAll p (xs ++ ys)).2 = (makeAll (makeAll p xs).2 ys).2 := by
  induction xs generalizing p with
  | nil => rfl
  | cons call rest ih => exact ih (call.make p).2

theorem throughout_append :
    Throughout P p (xs ++ ys) ↔ Throughout P p xs ∧ Throughout P (makeAll p xs).2 ys := by
  induction xs generalizing p with
  | nil => simp [Throughout, makeAll]
  | cons call rest ih =>
    rw [List.cons_append, Throughout, Throughout, ih, and_assoc]
    rfl

theorem Throughout.imp (h : Throughout P p xs) (himp : ∀ q, ∀ call ∈ xs, P q call → Q q call) :
    Throughout Q p xs := by
  induction xs generalizing p with
  | nil => trivial
  | cons call rest ih =>
    obtain ⟨hfirst, hrest⟩ := h
    refine ⟨himp p call List.mem_cons_self hfirst, ih hrest fun q other hother => ?_⟩
    exact himp q other (List.mem_cons_of_mem _ hother)

end ClientCall

namespace Batch.Task

open ClientCall (makeAll Throughout)

def calls : Task → Provider → ResourceRef → List ClientCall
  | done _ => fun _ _ => []
  | getTags next => fun p t => .getTags t :: (next (p.getTags t).1).calls (p.getTags t).2 t
  | putTags tags next => fun p t =>
    .putTags t tags :: (next (p.putTags t tags).1).calls (p.putTags t tags).2 t
  | delete next => fun p t => .delete t :: (next (p.delete t).1).calls (p.delete t).2 t
  | update change next => fun p t =>
    .update t change :: (next (p.update t change).1).calls (p.update t change).2 t

theorem makeAll_calls (task : Task) (p : Provider) (target : ResourceRef) :
    (makeAll p (task.calls p target)).2 = (task.run p target).2 := by
  induction task generalizing p with
  | done result => rfl
  | getTags next ih => exact ih (p.getTags target).1 (p.getTags target).2
  | putTags tags next ih => exact ih (p.putTags target tags).1 (p.putTags target tags).2
  | delete next ih => exact ih (p.delete target).1 (p.delete target).2
  | update change next ih => exact ih (p.update target change).1 (p.update target change).2

theorem about_calls (task : Task) (p : Provider) (target : ResourceRef) :
    ∀ call ∈ task.calls p target, call.about? = some target := by
  induction task generalizing p with
  | done result => exact nofun
  | getTags next ih => exact List.forall_mem_cons.2 ⟨rfl, ih _ _⟩
  | putTags tags next ih => exact List.forall_mem_cons.2 ⟨rfl, ih _ _⟩
  | delete next ih => exact List.forall_mem_cons.2 ⟨rfl, ih _ _⟩
  | update change next ih => exact List.forall_mem_cons.2 ⟨rfl, ih _ _⟩

theorem calls_last (answer : Except ProviderError Unit) (p : Provider) (target : ResourceRef) :
    (last answer).calls p target = [] := by
  rcases answer with error | _ <;> rfl

theorem calls_delete (p : Provider) (target : ResourceRef) :
    (delete last).calls p target = [.delete target] := congrArg (_ :: ·) (calls_last ..)

theorem calls_update (change : Json) (p : Provider) (target : ResourceRef) :
    (update change last).calls p target = [.update target change] :=
  congrArg (_ :: ·) (calls_last ..)

theorem calls_tag (add : TagSet) (remove : TagKeys) (p : Provider) (target : ResourceRef) :
    (tag add remove).calls p target = .getTags target ::
      match (p.getTags target).1 with
      | .error _ => []
      | .ok existing =>
        if reconcile existing add remove = existing then []
        else [.putTags target (reconcile existing add remove)] := by
  rcases hget : p.getTags target with ⟨error | existing, q⟩
  · simp only [tag, calls, hget]
  · by_cases hkept : reconcile existing add remove = existing
    · simp only [tag, calls, hget, plan_of_kept hkept, if_pos hkept]
    · simp only [tag, calls, hget, plan_of_changed hkept, if_neg hkept, calls_last]

def batchCalls (task : Task) (p : Provider) : List ResourceRef → List ClientCall
  | [] => []
  | target :: rest => task.calls p target ++ batchCalls task (task.run p target).2 rest

variable {P : Provider → ClientCall → Prop} {targets : List ResourceRef}

theorem makeAll_batchCalls (task : Task) (p : Provider) (targets : List ResourceRef) :
    (makeAll p (task.batchCalls p targets)).2 = (runItems task.run p targets).2 := by
  induction targets generalizing p with
  | nil => rfl
  | cons target rest ih =>
    rw [batchCalls, ClientCall.makeAll_append, makeAll_calls, ih]
    rfl

/-- What holds of the calls for each target holds throughout the batch. -/
theorem throughout_batchCalls {task : Task} (p : Provider)
    (h : ∀ q, ∀ target ∈ targets, Throughout P q (task.calls q target)) :
    Throughout P p (task.batchCalls p targets) := by
  induction targets generalizing p with
  | nil => trivial
  | cons target rest ih =>
    rw [batchCalls, ClientCall.throughout_append, makeAll_calls]
    refine ⟨h p target List.mem_cons_self, ih _ fun q other hother => ?_⟩
    exact h q other (List.mem_cons_of_mem _ hother)

end Batch.Task

end TagGovernance
