import TagGovernance.Proofs.Batch.Work
import TagGovernance.Proofs.Provider.Independence
import Mathlib.Data.List.Nodup
import Mathlib.Logic.Function.Basic

/-!
# Targets in any order

The work for a target is a sequence of calls, and a provider may be given other calls between two of
them. A schedule says which target makes its next call. If the ids of the targets differ, turns of
different targets can be exchanged, so a schedule can be sorted: whenever every target has its
outcome in the end, the outcomes and the provider are those of the batch that serves one target
after the other.
-/

namespace TagGovernance.Batch

open Provider (LocalTo)

/-- What is still to be done for a target: the next call and what follows on its answer, or nothing
any more. -/
inductive Task
  | done (result : Except ProviderError Outcome)
  | getTags (next : Except ProviderError TagSet → Task)
  | putTags (tags : TagSet) (next : Except ProviderError Unit → Task)
  | delete (next : Except ProviderError Unit → Task)
  | update (change : Json) (next : Except ProviderError Unit → Task)

namespace Task

def step (target : ResourceRef) : Task → Provider → Task × Provider
  | done result, p => (done result, p)
  | getTags next, p => (next (p.getTags target).1, (p.getTags target).2)
  | putTags tags next, p => (next (p.putTags target tags).1, (p.putTags target tags).2)
  | delete next, p => (next (p.delete target).1, (p.delete target).2)
  | update change next, p => (next (p.update target change).1, (p.update target change).2)

def run : Task → Work
  | done result => fun p _ => (result, p)
  | getTags next => fun p t => (next (p.getTags t).1).run (p.getTags t).2 t
  | putTags tags next => fun p t => (next (p.putTags t tags).1).run (p.putTags t tags).2 t
  | delete next => fun p t => (next (p.delete t).1).run (p.delete t).2 t
  | update change next => fun p t => (next (p.update t change).1).run (p.update t change).2 t

def result? : Task → Option (Except ProviderError Outcome)
  | done result => some result
  | _ => none

def last : Except ProviderError Unit → Task
  | .error e => done (.error e)
  | .ok () => done (.ok .applied)

def tag (add : TagSet) (remove : TagKeys) : Task :=
  getTags fun
    | .error e => done (.error e)
    | .ok existing =>
      match plan existing add remove with
      | .noop => done (.ok .unchanged)
      | .write tags => putTags tags last

theorem run_tag (add : TagSet) (remove : TagKeys) : (tag add remove).run = tagOne add remove := by
  funext p target
  rcases hget : p.getTags target with ⟨error | existing, q⟩
  · simp only [tag, run, tagOne, hget]
  · cases hplan : plan existing add remove with
    | noop => simp only [tag, run, tagOne, hget, hplan]
    | write tags =>
      rcases hput : q.putTags target tags with ⟨error | _, r⟩ <;>
        simp only [tag, run, tagOne, hget, hplan, hput, last]

theorem run_delete : (delete last).run = deleteOne := by
  funext p target
  rcases hdelete : p.delete target with ⟨error | _, q⟩ <;>
    simp only [run, deleteOne, hdelete, last]

theorem run_update (change : Json) : (update change last).run = updateOne change := by
  funext p target
  rcases hupdate : p.update target change with ⟨error | _, q⟩ <;>
    simp only [run, updateOne, hupdate, last]

theorem step_local (task : Task) (target : ResourceRef) : LocalTo target.id (task.step target) := by
  cases task with
  | done result => exact .pure target.id _
  | getTags next => exact (Provider.getTags_local target).map next
  | putTags tags next => exact (Provider.putTags_local target tags).map next
  | delete next => exact (Provider.delete_local target).map next
  | update change next => exact (Provider.update_local target change).map next

end Task

structure Progress where
  provider : Provider
  task : ResourceRef → Task

namespace Progress

def start (p : Provider) (task : Task) : Progress := ⟨p, fun _ => task⟩

def turn (s : Progress) (target : ResourceRef) : Progress :=
  ⟨((s.task target).step target s.provider).2,
    Function.update s.task target ((s.task target).step target s.provider).1⟩

/-- The targets of a schedule make their calls one after the other. -/
def turns (s : Progress) (schedule : List ResourceRef) : Progress := schedule.foldl turn s

def Settled (s : Progress) (targets : List ResourceRef) : Prop :=
  ∀ target ∈ targets, ∃ result, s.task target = .done result

def items (s : Progress) (targets : List ResourceRef) : List ReportItem :=
  targets.filterMap fun target =>
    (s.task target).result?.map fun result => ⟨target.id, .ofResult result⟩

def unlogged (s : Progress) : Progress := ⟨s.provider.unlogged, s.task⟩

variable {s : Progress} {target other : ResourceRef} {targets schedule schedule' : List ResourceRef}

theorem turns_append (s : Progress) (schedule schedule' : List ResourceRef) :
    s.turns (schedule ++ schedule') = (s.turns schedule).turns schedule' := List.foldl_append

theorem turn_of_done {result : Except ProviderError Outcome} (h : s.task target = .done result) :
    s.turn target = s := by
  have hturn : s.turn target = ⟨s.provider, Function.update s.task target (.done result)⟩ := by
    simp only [turn, h, Task.step]
  rw [hturn, ← h, Function.update_eq_self]

theorem turn_task_self (s : Progress) (target : ResourceRef) :
    (s.turn target).task target = ((s.task target).step target s.provider).1 :=
  Function.update_self ..

theorem turn_task_of_ne (h : other ≠ target) : (s.turn target).task other = s.task other :=
  Function.update_of_ne h _ _

theorem turns_task_of_not_mem (h : target ∉ schedule) :
    (s.turns schedule).task target = s.task target := by
  induction schedule generalizing s with
  | nil => rfl
  | cons first rest ih =>
    obtain ⟨hfirst, hrest⟩ := not_or.1 (mt List.mem_cons.2 h)
    exact (ih hrest).trans (turn_task_of_ne hfirst)

theorem turns_of_settled (h : s.Settled targets) (hturns : schedule ⊆ targets) :
    s.turns schedule = s := by
  induction schedule with
  | nil => rfl
  | cons first rest ih =>
    obtain ⟨hfirst, hrest⟩ := List.cons_subset.1 hturns
    obtain ⟨result, hdone⟩ := h first hfirst
    have hfirst : s.turns (first :: rest) = (s.turn first).turns rest := rfl
    rw [hfirst, turn_of_done hdone, ih hrest]

theorem turn_unlogged (s : Progress) (target : ResourceRef) :
    (s.unlogged.turn target).unlogged = (s.turn target).unlogged := by
  obtain ⟨htask, hprovider⟩ := ((s.task target).step_local target).unlogged s.provider
  simp only [turn, unlogged, htask, hprovider]

/-- Targets with different ids can exchange their turns. -/
theorem turn_comm (h : target.id ≠ other.id) (s : Progress) :
    ((s.turn target).turn other).unlogged = ((s.turn other).turn target).unlogged := by
  have hne : other ≠ target := fun heq => h (heq ▸ rfl)
  have hfirst := (s.task target).step_local target
  have hsecond := (s.task other).step_local other
  simp only [turn, unlogged, Function.update_of_ne hne, Function.update_of_ne hne.symm,
    hfirst.answer_after hsecond h, hsecond.answer_after hfirst h.symm, hfirst.comm hsecond h,
    Function.update_comm hne]

private theorem turns_unlogged (s : Progress) (schedule : List ResourceRef) :
    (s.turns schedule).unlogged =
      schedule.foldl (fun s target => (s.turn target).unlogged) s.unlogged := by
  induction schedule generalizing s with
  | nil => rfl
  | cons first rest ih =>
    refine (ih (s.turn first)).trans ?_
    rw [List.foldl_cons, turn_unlogged]

theorem turns_perm (distinct : ∀ a ∈ schedule, ∀ b ∈ schedule, a.id = b.id → a = b)
    (h : schedule.Perm schedule') (s : Progress) :
    (s.turns schedule).unlogged = (s.turns schedule').unlogged := by
  rw [turns_unlogged, turns_unlogged]
  refine h.foldl_eq' (fun a ha b hb s => ?_) s.unlogged
  by_cases hid : a.id = b.id
  · rw [distinct a ha b hb hid]
  · rw [turn_unlogged, turn_unlogged, turn_comm hid]

/-- Whenever all targets have their outcome, the outcomes and the provider are the same. -/
theorem settled_unique (distinct : (targets.map (·.id)).Nodup) (hturns : schedule ⊆ targets)
    (hturns' : schedule' ⊆ targets) (h : (s.turns schedule).Settled targets)
    (h' : (s.turns schedule').Settled targets) :
    (s.turns schedule).unlogged = (s.turns schedule').unlogged := by
  have hids : ∀ a ∈ schedule ++ schedule', ∀ b ∈ schedule ++ schedule', a.id = b.id → a = b := by
    have hall : schedule ++ schedule' ⊆ targets := List.append_subset.2 ⟨hturns, hturns'⟩
    exact fun a ha b hb hid => List.inj_on_of_nodup_map distinct (hall ha) (hall hb) hid
  calc (s.turns schedule).unlogged
      = (s.turns (schedule ++ schedule')).unlogged := by
        rw [turns_append, turns_of_settled h hturns']
    _ = (s.turns (schedule' ++ schedule)).unlogged := turns_perm hids List.perm_append_comm s
    _ = (s.turns schedule').unlogged := by rw [turns_append, turns_of_settled h' hturns]

/-- A target that makes its calls with no others between them. -/
def Alone (target : ResourceRef) (task : Task) : Prop :=
  ∀ s : Progress, s.task target = task → ∃ n, s.turns (List.replicate n target) =
    ⟨(task.run s.provider target).2,
      Function.update s.task target (.done (task.run s.provider target).1)⟩

private theorem alone_of_next {task : Task}
    (hrun : ∀ p, task.run p target = (task.step target p).1.run (task.step target p).2 target)
    (h : ∀ p, Alone target (task.step target p).1) : Alone target task := by
  intro s hs
  have hnext : (s.turn target).task target = (task.step target s.provider).1 := by
    rw [turn_task_self, hs]
  obtain ⟨n, hn⟩ := h s.provider (s.turn target) hnext
  refine ⟨n + 1, ?_⟩
  rw [List.replicate_succ]
  refine hn.trans ?_
  simp only [turn, hs, hrun s.provider, Function.update_idem]

theorem alone (target : ResourceRef) (task : Task) : Alone target task := by
  induction task with
  | done result =>
    intro s hs
    refine ⟨0, ?_⟩
    rw [Task.run, ← hs, Function.update_eq_self]
    rfl
  | getTags next ih | putTags tags next ih | delete next ih | update change next ih =>
    exact alone_of_next (fun _ => rfl) fun _ => ih _

/-- A batch is a schedule in which no target waits for another between its calls. -/
theorem runItems_eq_turns (task : Task) (distinct : targets.Nodup)
    (h : ∀ target ∈ targets, s.task target = task) :
    ∃ schedule ⊆ targets, (s.turns schedule).Settled targets ∧
      (s.turns schedule).items targets = (runItems task.run s.provider targets).1 ∧
      (s.turns schedule).provider = (runItems task.run s.provider targets).2 := by
  induction targets generalizing s with
  | nil => exact ⟨[], List.Subset.refl [], nofun, rfl, rfl⟩
  | cons target rest ih =>
    obtain ⟨hnotin, hdistinct⟩ := List.nodup_cons.1 distinct
    obtain ⟨hfirst, hrest⟩ := List.forall_mem_cons.1 h
    obtain ⟨n, hn⟩ := alone target task s hfirst
    have hwaiting : ∀ t ∈ rest, (s.turns (List.replicate n target)).task t = task := by
      intro t ht
      have hne : t ≠ target := fun heq => hnotin (heq ▸ ht)
      rw [hn]
      exact (Function.update_of_ne hne ..).trans (hrest t ht)
    obtain ⟨schedule, hsub, hsettled, hitems, hprovider⟩ := ih hdistinct hwaiting
    have hdone : ((s.turns (List.replicate n target)).turns schedule).task target =
        .done (task.run s.provider target).1 := by
      rw [turns_task_of_not_mem fun hmem => hnotin (hsub hmem), hn]
      exact Function.update_self ..
    rw [← turns_append] at hsettled hitems hprovider hdone
    refine ⟨List.replicate n target ++ schedule, ?_, ?_, ?_, ?_⟩
    · refine List.append_subset.2 ⟨fun t ht => ?_, fun t ht => List.mem_cons_of_mem _ (hsub ht)⟩
      rw [List.eq_of_mem_replicate ht]
      exact List.mem_cons_self
    · exact List.forall_mem_cons.2 ⟨⟨_, hdone⟩, hsettled⟩
    · rw [hn] at hitems
      rw [items, List.filterMap_cons_some (by rw [hdone]; rfl)]
      exact congrArg (List.cons _) hitems
    · rw [hn] at hprovider
      exact hprovider

/-- A task that is done after some number of calls, whatever they answer. -/
def EndsWithin : ℕ → Task → Prop
  | _, .done _ => True
  | 0, _ => False
  | n + 1, .getTags next => ∀ answer, EndsWithin n (next answer)
  | n + 1, .putTags _ next | n + 1, .delete next | n + 1, .update _ next =>
    ∀ answer, EndsWithin n (next answer)

theorem endsWithin_step {n : ℕ} {task : Task} (h : EndsWithin (n + 1) task) (target : ResourceRef)
    (p : Provider) : EndsWithin n (task.step target p).1 := by
  cases task with
  | done result => cases n <;> trivial
  | _ => exact h _

theorem endsWithin_tag (add : TagSet) (remove : TagKeys) : EndsWithin 2 (.tag add remove) := by
  rintro (error | existing)
  · trivial
  · cases hplan : plan existing add remove with
    | noop => simp only [hplan, EndsWithin]
    | write tags =>
      simp only [hplan, EndsWithin]
      rintro (error | _) <;> trivial

/-- A target has its outcome when it had as many turns as its task has calls. -/
theorem done_of_count {n : ℕ} (h : EndsWithin n (s.task target))
    (hcount : n ≤ schedule.count target) :
    ∃ result, (s.turns schedule).task target = .done result := by
  induction schedule generalizing s n with
  | nil =>
    obtain rfl : n = 0 := Nat.le_zero.1 hcount
    cases htask : s.task target with
    | done result => exact ⟨result, htask⟩
    | _ => simp only [htask, EndsWithin] at h
  | cons first rest ih =>
    by_cases hfirst : first = target
    · subst hfirst
      rw [List.count_cons_self] at hcount
      cases n with
      | zero =>
        cases htask : s.task first with
        | done result =>
          have hrest := ih (s := s) (n := 0) h (Nat.zero_le _)
          rwa [← turn_of_done htask] at hrest
        | _ => simp only [htask, EndsWithin] at h
      | succ n =>
        refine ih (s := s.turn first) (n := n) ?_ (Nat.le_of_succ_le_succ hcount)
        rw [turn_task_self]
        exact endsWithin_step h first s.provider
    · rw [List.count_cons_of_ne hfirst] at hcount
      refine ih (s := s.turn first) ?_ hcount
      rwa [turn_task_of_ne (Ne.symm hfirst)]

end Progress

open Progress

variable {work : Work} {task : Task} {targets targets' schedule : List ResourceRef}

private theorem turns_of_batch (p : Provider) (task : Task) (distinct : targets.Nodup) :
    ∃ schedule ⊆ targets, ((start p task).turns schedule).Settled targets ∧
      ((start p task).turns schedule).items targets = (runItems task.run p targets).1 ∧
      ((start p task).turns schedule).provider = (runItems task.run p targets).2 :=
  runItems_eq_turns (s := start p task) task distinct fun _ _ => rfl

/-- A schedule of all targets ends as the batch that serves one after the other. -/
theorem turns_eq_runItems (p : Provider) (hwork : task.run = work)
    (distinct : (targets.map (·.id)).Nodup) (hturns : schedule ⊆ targets)
    (h : ((start p task).turns schedule).Settled targets) :
    ((start p task).turns schedule).provider.unlogged = (runItems work p targets).2.unlogged ∧
      ((start p task).turns schedule).items targets = (runItems work p targets).1 := by
  obtain ⟨alone, hsub, hsettled, hitems, hprovider⟩ :=
    turns_of_batch p task (List.Nodup.of_map _ distinct)
  obtain ⟨hunlogged, htask⟩ := Progress.mk.inj (settled_unique distinct hturns hsub h hsettled)
  rw [← hwork, ← hprovider, ← hitems, items, items, htask]
  exact ⟨hunlogged, rfl⟩

/-- Targets with different ids can be served in any order. -/
theorem runItems_perm (p : Provider) (hwork : task.run = work)
    (distinct : (targets.map (·.id)).Nodup) (h : targets'.Perm targets) :
    (runItems work p targets').2.unlogged = (runItems work p targets).2.unlogged ∧
      (runItems work p targets').1.Perm (runItems work p targets).1 := by
  have distinct' : targets'.Nodup := List.Nodup.of_map _ ((h.map _).nodup_iff.2 distinct)
  obtain ⟨schedule, hsub, hsettled, hitems, hprovider⟩ := turns_of_batch p task distinct'
  obtain ⟨hunlogged, hsame⟩ := turns_eq_runItems p hwork distinct
    (fun t ht => h.subset (hsub ht)) fun t ht => hsettled t (h.symm.subset ht)
  rw [← hwork, ← hitems, ← hprovider]
  rw [← hwork] at hunlogged hsame
  exact ⟨hunlogged, hsame ▸ h.filterMap _⟩

/-- Batches on targets with different ids do not depend on the order of calls. When the calls for
the targets of a tag request are interleaved in any way, every schedule in which each target has two
turns gives each its outcome, and whenever all have theirs, the report and the provider but for its
log are those of the batch that serves one target after the other. Deletions and updates, which are
single calls, can be made for the targets in any order. -/
theorem interleavings_agree (p : Provider) {targets : List ResourceRef}
    (distinct : (targets.map (·.id)).Nodup) :
    (∀ (add : TagSet) (remove : TagKeys), ∀ schedule ⊆ targets,
      ((∀ target ∈ targets, 2 ≤ schedule.count target) →
        ((start p (.tag add remove)).turns schedule).Settled targets) ∧
      (((start p (.tag add remove)).turns schedule).Settled targets →
        ((start p (.tag add remove)).turns schedule).provider.unlogged =
          (tagEach add remove p targets).2.unlogged ∧
        ((start p (.tag add remove)).turns schedule).items targets =
          (tagEach add remove p targets).1.items)) ∧
    (∀ targets', targets'.Perm targets →
      (deleteEach p targets').2.unlogged = (deleteEach p targets).2.unlogged ∧
      (deleteEach p targets').1.items.Perm (deleteEach p targets).1.items) ∧
    ∀ (action : String) (change : Json) (targets' : List ResourceRef), targets'.Perm targets →
      (updateEach action change p targets').2.unlogged =
        (updateEach action change p targets).2.unlogged ∧
      (updateEach action change p targets').1.items.Perm
        (updateEach action change p targets).1.items := by
  refine ⟨fun add remove schedule hturns => ⟨fun hcount target htarget => ?_, fun hsettled => ?_⟩,
    fun targets' h => ?_, fun action change targets' h => ?_⟩
  · exact done_of_count (endsWithin_tag add remove) (hcount target htarget)
  · exact turns_eq_runItems p (Task.run_tag add remove) distinct hturns hsettled
  · exact runItems_perm p Task.run_delete distinct h
  · exact runItems_perm p (Task.run_update change) distinct h

def fourClusters : Flight where
  resources := [("memorydb", [
    { listed := .obj [("ARN", .str "arn:a"), ("Name", .str "a")]
      tags := some (.arr [.obj [("Key", .str "owner"), ("Value", .str "policy")]]) },
    { listed := .obj [("ARN", .str "arn:b"), ("Name", .str "b")] },
    { listed := .obj [("ARN", .str "arn:d"), ("Name", .str "d")] }])]
  missing := ["b"]
  errors := [("c", ⟨"Throttling", "slow down"⟩)]

def clusterRefs : List ResourceRef := ["a", "b", "c", "d"].map fun id => ⟨"memorydb", id, none⟩

/-- The first and the last cluster read their tags before either of them writes. -/
def crossedTurns : List ResourceRef :=
  ["d", "a", "c", "d", "b", "a"].map fun id => ⟨"memorydb", id, none⟩

theorem interleavings_agree_fourClusters : ∃ catalog start,
    Aws.catalog = .ok catalog ∧ Provider.ofFlight catalog fourClusters .strict = .ok start ∧
    (clusterRefs.map (·.id)).Nodup ∧ crossedTurns ⊆ clusterRefs ∧
    ((Progress.start start (.tag (.ofList [("env", "dev")]) ["owner"])).turns
      crossedTurns).Settled clusterRefs ∧
    ((Progress.start start (.tag (.ofList [("env", "dev")]) ["owner"])).turns
      crossedTurns).items clusterRefs =
        (tagEach (.ofList [("env", "dev")]) ["owner"] start clusterRefs).1.items ∧
    (tagEach (.ofList [("env", "dev")]) ["owner"] start clusterRefs).1.items =
      [⟨"a", .applied⟩, ⟨"b", .notFound⟩, ⟨"c", .failed (.throttled "slow down")⟩,
        ⟨"d", .applied⟩] ∧
    (deleteEach start clusterRefs.reverse).2.unlogged =
      (deleteEach start clusterRefs).2.unlogged := by
  have hdistinct : (clusterRefs.map (·.id)).Nodup := by decide
  have hturns : crossedTurns ⊆ clusterRefs := by decide
  refine ⟨_, _, Aws.catalog_eq, rfl, hdistinct, hturns, ?_, ?_, rfl, ?_⟩
  · exact List.forall_mem_cons.2 ⟨⟨_, rfl⟩, List.forall_mem_cons.2 ⟨⟨_, rfl⟩,
      List.forall_mem_cons.2 ⟨⟨_, rfl⟩, List.forall_mem_cons.2 ⟨⟨_, rfl⟩, nofun⟩⟩⟩⟩
  · exact (((interleavings_agree _ hdistinct).1 _ _ _ hturns).2
      (List.forall_mem_cons.2 ⟨⟨_, rfl⟩, List.forall_mem_cons.2 ⟨⟨_, rfl⟩,
        List.forall_mem_cons.2 ⟨⟨_, rfl⟩, List.forall_mem_cons.2 ⟨⟨_, rfl⟩, nofun⟩⟩⟩⟩)).2
  · exact ((interleavings_agree _ hdistinct).2.1 _ (List.reverse_perm _)).1

end TagGovernance.Batch
