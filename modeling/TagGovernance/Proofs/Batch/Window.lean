import TagGovernance.Proofs.Batch.Interleaving

/-!
# Batches with a limit

A batch has no more than some number of targets at work at once. Their jobs begin in the order of the
targets and are done in any order, and what becomes of them is reported in the order of the targets
again. Whatever the limit is and whatever the results are, every such batch ends, and its report has
one item for each target, in their order.
-/

namespace TagGovernance.Batch

open Relation (ReflTransGen)

namespace Task

/-- What a task can come to, whatever its calls answer. -/
inductive Gives : Task → Except ProviderError Outcome → Prop
  | done (result) : Gives (done result) result
  | getTags {next answer result} (h : Gives (next answer) result) : Gives (getTags next) result
  | putTags {tags next answer result} (h : Gives (next answer) result) :
    Gives (putTags tags next) result
  | delete {next answer result} (h : Gives (next answer) result) : Gives (delete next) result
  | update {change next answer result} (h : Gives (next answer) result) :
    Gives (update change next) result

theorem gives_run (task : Task) (p : Provider) (target : ResourceRef) :
    task.Gives (task.run p target).1 := by
  induction task generalizing p with
  | done result => exact .done result
  | getTags next ih => exact .getTags (ih ..)
  | putTags tags next ih => exact .putTags (ih ..)
  | delete next ih => exact .delete (ih ..)
  | update change next ih => exact .update (ih ..)

theorem gives_last (answer : Except ProviderError Unit) :
    (last answer).Gives (answer.map fun _ => .applied) := by
  cases answer <;> exact .done _

/-- The tasks of batches: a tag request, a deletion or an update. -/
inductive IsRequest : Task → Prop
  | tag (add : TagSet) (remove : TagKeys) : IsRequest (tag add remove)
  | delete : IsRequest (delete last)
  | update (change : Json) : IsRequest (update change last)

def Settles (result : Except ProviderError Outcome) : Prop :=
  result = .ok .applied ∨ result = .ok .unchanged ∨ ∃ e, result = .error e

variable {result : Except ProviderError Outcome}

theorem settles_last {answer : Except ProviderError Unit} (h : (last answer).Gives result) :
    Settles result := by
  cases answer with
  | error e =>
    cases h
    exact .inr (.inr ⟨e, rfl⟩)
  | ok _ =>
    cases h
    exact .inl rfl

theorem IsRequest.settles {task : Task} (h : task.IsRequest) (hgives : task.Gives result) :
    Settles result := by
  cases h with
  | delete =>
    obtain _ | _ | _ | h := hgives
    exact settles_last h
  | update change =>
    obtain _ | _ | _ | _ | h := hgives
    exact settles_last h
  | tag add remove =>
    obtain _ | @⟨_, answer, _, h⟩ := hgives
    cases answer with
    | error e =>
      cases h
      exact .inr (.inr ⟨e, rfl⟩)
    | ok existing =>
      cases hplan : plan existing add remove with
      | noop =>
        simp only [hplan] at h
        cases h
        exact .inr (.inl rfl)
      | write tags =>
        simp only [hplan] at h
        obtain _ | _ | h := h
        exact settles_last h

end Task

structure Job where
  target : ResourceRef
  result : Except ProviderError Outcome

def Job.item (job : Job) : ReportItem := ⟨job.target.id, .ofResult job.result⟩

/-- A batch without a limit does jobs that its task can come to. -/
theorem runItems_jobs (task : Task) (p : Provider) (targets : List ResourceRef) :
    ∃ jobs : List Job, jobs.map (·.target) = targets ∧ (∀ job ∈ jobs, task.Gives job.result) ∧
      (runItems task.run p targets).1 = jobs.map Job.item := by
  induction targets generalizing p with
  | nil => exact ⟨[], rfl, nofun, rfl⟩
  | cons target rest ih =>
    obtain ⟨jobs, htargets, hgives, hitems⟩ := ih (task.run p target).2
    exact ⟨⟨target, (task.run p target).1⟩ :: jobs, congrArg _ htargets,
      List.forall_mem_cons.2 ⟨task.gives_run p target, hgives⟩, congrArg _ hitems⟩

structure Window where
  waiting : List Job
  /-- The jobs that have begun and are not reported yet, and whether they are done. -/
  begun : List (Job × Bool)
  reported : List ReportItem

namespace Window

def start (jobs : List Job) : Window := ⟨jobs, [], []⟩

/-- The next job begins if there is room, some job is done, or the first one that has begun is
reported because it is done. There is always room for one job. -/
inductive Step (limit : ℕ) : Window → Window → Prop
  | enter {job waiting begun reported} (room : begun.length < max limit 1) :
    Step limit ⟨job :: waiting, begun, reported⟩ ⟨waiting, begun ++ [(job, false)], reported⟩
  | finish {waiting before job after reported} :
    Step limit ⟨waiting, before ++ (job, false) :: after, reported⟩
      ⟨waiting, before ++ (job, true) :: after, reported⟩
  | report {waiting job begun reported} :
    Step limit ⟨waiting, (job, true) :: begun, reported⟩ ⟨waiting, begun, reported ++ [job.item]⟩

structure Completes (limit : ℕ) (jobs : List Job) (w : Window) : Prop where
  run : ReflTransGen (Step limit) (start jobs) w
  ended : ∀ w', ¬Step limit w w'

variable {limit : ℕ} {jobs : List Job} {w w' : Window}

def items (w : Window) : List ReportItem :=
  w.reported ++ w.begun.map (·.1.item) ++ w.waiting.map Job.item

theorem Step.items_eq (h : Step limit w w') : w'.items = w.items := by
  cases h <;> simp [items]

theorem items_of_run (h : ReflTransGen (Step limit) w w') : w'.items = w.items := by
  induction h with
  | refl => rfl
  | tail _ hstep ih => exact hstep.items_eq.trans ih

/-- How many steps a batch can still take: three for a job that waits, two for one at work, and one
for one that is done. -/
def remaining (w : Window) : ℕ :=
  3 * w.waiting.length + w.begun.length + w.begun.countP (!·.2)

theorem Step.remaining_lt (h : Step limit w w') : w'.remaining < w.remaining := by
  cases h <;> simp [remaining]; omega

/-- Every batch comes to its end. -/
theorem exists_completes (limit : ℕ) (jobs : List Job) : ∃ w, Completes limit jobs w := by
  have hfrom : ∀ n w, w.remaining = n →
      ∃ w', ReflTransGen (Step limit) w w' ∧ ∀ w'', ¬Step limit w' w'' := by
    intro n
    induction n using Nat.strong_induction_on with
    | _ n ih =>
      rintro w rfl
      by_cases hended : ∀ w', ¬Step limit w w'
      · exact ⟨w, .refl, hended⟩
      · obtain ⟨next, hstep⟩ := not_forall_not.1 hended
        obtain ⟨last, hrun, hlast⟩ := ih _ hstep.remaining_lt next rfl
        exact ⟨last, .head hstep hrun, hlast⟩
  obtain ⟨w, hrun, hended⟩ := hfrom _ (start jobs) rfl
  exact ⟨w, hrun, hended⟩

theorem idle_of_ended (h : ∀ w', ¬Step limit w w') : w.begun = [] ∧ w.waiting = [] := by
  obtain ⟨waiting, begun, reported⟩ := w
  cases begun with
  | cons first rest =>
    obtain ⟨job, isDone⟩ := first
    cases isDone with
    | true => exact absurd .report (h _)
    | false => exact absurd (Step.finish : Step limit ⟨_, [] ++ (job, false) :: rest, _⟩ _) (h _)
  | nil =>
    cases waiting with
    | nil => exact ⟨rfl, rfl⟩
    | cons job waiting =>
      exact absurd (.enter (Nat.lt_of_lt_of_le Nat.zero_lt_one (Nat.le_max_right ..))) (h _)

/-- Whatever the limit is, each job is reported in its place. -/
theorem Completes.reported_eq (h : Completes limit jobs w) : w.reported = jobs.map Job.item := by
  obtain ⟨hbegun, hwaiting⟩ := idle_of_ended h.ended
  have hitems := items_of_run h.run
  simpa [items, start, hbegun, hwaiting] using hitems

end Window

end TagGovernance.Batch
