import Mathlib.Data.List.Basic
import Mathlib.Logic.Relation
import TagGovernance.Graph.Order

/-!
# The depth-first search

Two invariants carry the search. The first one says that no node is lost or finished twice, and that
no node that was discovered has an edge to itself. The second one says what waits. A node that was
discovered and is not finished waits on the stack. What stands above it can be reached from it, and
each of its dependents is finished, stands above it, or leads back to it. So when it comes to the top
again, a dependent that is not finished closes a cycle with it. In the order that the search ends
with, an edge that leads to what stands before is part of a cycle.
-/

namespace TagGovernance.Graph

open Relation (TransGen)

variable {edges : List Edge} {n u v w : Nat} {fresh finished stack below : List Nat}

def Leads (edges : List Edge) (u v : Nat) : Prop := (u, v) ∈ edges

def Acyclic (edges : List Edge) : Prop := ∀ v, ¬TransGen (Leads edges) v v

def Within (n : Nat) (edges : List Edge) : Prop := ∀ u v, Leads edges u v → u < n ∧ v < n

@[simp] theorem mem_successors : w ∈ successors edges v ↔ Leads edges v w := by
  simp [successors, Leads]

@[simp] theorem mem_predecessors : u ∈ predecessors edges v ↔ Leads edges u v := by
  simp [predecessors, Leads]

theorem mem_finish :
    u ∈ (if v ∈ finished then finished else v :: finished) ↔ u = v ∨ u ∈ finished := by
  split
  · rename_i hv
    exact ⟨.inr, fun hu => hu.elim (fun huv => huv ▸ hv) id⟩
  · exact List.mem_cons

/-- The search on some graph: every node is finished or on the stack. -/
structure Search (edges : List Edge) (n : Nat) (fresh finished stack : List Nat) : Prop where
  finished_nodup : finished.Nodup
  apart : ∀ v ∈ finished, v ∉ fresh
  within : ∀ v, v ∈ finished ∨ v ∈ stack → v < n
  covered : ∀ v < n, v ∈ finished ∨ v ∈ stack
  loopless : ∀ v < n, v ∉ fresh → ¬Leads edges v v

namespace Search

theorem start (edges : List Edge) (n : Nat) :
    Search edges n (List.range n) [] (List.range n) where
  finished_nodup := List.nodup_nil
  apart := nofun
  within _ h := List.mem_range.1 (h.resolve_left List.not_mem_nil)
  covered _ hv := .inr (List.mem_range.2 hv)
  loopless _ hv hfresh := absurd (List.mem_range.2 hv) hfresh

theorem discover (h : Search edges n fresh finished (v :: below)) (hedges : Within n edges)
    (hloop : v ∉ successors edges v) :
    Search edges n (fresh.erase v) finished
      ((successors edges v).filter (· ∈ fresh.erase v) ++ v :: below) where
  finished_nodup := h.finished_nodup
  apart u hu hfresh := h.apart u hu (List.mem_of_mem_erase hfresh)
  within u hu := by
    rcases hu with hu | hu
    · exact h.within u (.inl hu)
    · rcases List.mem_append.1 hu with hu | hu
      · exact (hedges v u (mem_successors.1 (List.mem_filter.1 hu).1)).2
      · exact h.within u (.inr hu)
  covered u hu := (h.covered u hu).imp_right (List.mem_append_right _)
  loopless u hu hfresh := by
    by_cases hsame : u = v
    · rwa [hsame, ← mem_successors]
    · exact h.loopless u hu fun hmem => hfresh ((List.mem_erase_of_ne hsame).2 hmem)

theorem finish (h : Search edges n fresh finished (v :: below)) (hv : v ∉ fresh) :
    Search edges n fresh (if v ∈ finished then finished else v :: finished) below where
  finished_nodup := by
    split
    · exact h.finished_nodup
    · rename_i hunfinished
      exact List.nodup_cons.2 ⟨hunfinished, h.finished_nodup⟩
  apart u hu := by
    rcases mem_finish.1 hu with rfl | hu
    · exact hv
    · exact h.apart u hu
  within u hu := by
    refine h.within u ?_
    rw [mem_finish] at hu
    rw [List.mem_cons]
    tauto
  covered u hu := by
    have hcovered := h.covered u hu
    rw [List.mem_cons] at hcovered
    rw [mem_finish]
    tauto
  loopless := h.loopless

theorem perm (h : Search edges n fresh finished []) : finished.Perm (List.range n) := by
  refine (List.perm_ext_iff_of_nodup h.finished_nodup List.nodup_range).2 fun u => ?_
  rw [List.mem_range]
  exact ⟨fun hu => h.within u (.inl hu), fun hu => (h.covered u hu).resolve_right List.not_mem_nil⟩

theorem run (h : Search edges n fresh finished stack) (hedges : Within n edges)
    {order : List Nat} (hrun : finishOrder edges fresh finished stack = .ok order) :
    order.Perm (List.range n) ∧ ∀ v < n, ¬Leads edges v v := by
  induction fresh, finished, stack using finishOrder.induct edges with
  | case1 fresh finished =>
    rw [finishOrder] at hrun
    obtain rfl := Except.ok.inj hrun
    refine ⟨h.perm, fun v hv => h.loopless v hv (h.apart v ?_)⟩
    exact (h.covered v hv).resolve_right List.not_mem_nil
  | case2 fresh finished v below hv next hloop =>
    rw [finishOrder, if_pos hv, if_pos hloop] at hrun
    cases hrun
  | case3 fresh finished v below hv next hloop fresh' ih =>
    rw [finishOrder, if_pos hv, if_neg hloop] at hrun
    exact ih (h.discover hedges hloop) hrun
  | case4 fresh finished v below hv ih =>
    rw [finishOrder, if_neg hv] at hrun
    exact ih (h.finish hv) hrun

end Search

def above (u : Nat) (stack : List Nat) : List Nat := stack.takeWhile (· ≠ u)

theorem above_top (v : Nat) (below : List Nat) : above v (v :: below) = [] := by
  simp [above]

theorem above_cons (h : v ≠ u) (below : List Nat) : above u (v :: below) = v :: above u below := by
  simp [above, h]

theorem above_append {pushed : List Nat} (h : u ∉ pushed) (stack : List Nat) :
    above u (pushed ++ stack) = pushed ++ above u stack := by
  refine List.takeWhile_append_of_pos fun v hv => decide_eq_true ?_
  rintro rfl
  exact h hv

structure Waits (fresh finished stack : List Nat) (u : Nat) : Prop where
  mem : u ∈ stack
  discovered : u ∉ fresh
  unfinished : u ∉ finished

/-- A node that waits once a node is discovered is that node, or it waited before, above or below
it. -/
theorem Waits.of_discover {pushed : List Nat} (hpushed : ∀ x ∈ pushed, x ∈ fresh.erase v)
    (hu : Waits (fresh.erase v) finished (pushed ++ v :: below) u) :
    u ∉ pushed ∧ (v ≠ u → Waits fresh finished (v :: below) u) := by
  have hnew : u ∉ pushed := fun hmem => hu.discovered (hpushed u hmem)
  have hmem := (List.mem_append.1 hu.mem).resolve_left hnew
  refine ⟨hnew, fun hne => ⟨hmem, ?_, hu.unfinished⟩⟩
  exact fun hmem => hu.discovered ((List.mem_erase_of_ne hne.symm).2 hmem)

/-- A node that waits once the node on top is finished waited below it. -/
theorem Waits.of_finish
    (hu : Waits fresh (if v ∈ finished then finished else v :: finished) below u) :
    v ≠ u ∧ Waits fresh finished (v :: below) u := by
  obtain ⟨hne, hunfinished⟩ := not_or.1 (mt mem_finish.2 hu.unfinished)
  exact ⟨fun hvu => hne hvu.symm, List.mem_cons_of_mem v hu.mem, hu.discovered, hunfinished⟩

/-- The search on some graph: edges that are left behind lead back. -/
structure Descent (edges : List Edge) (fresh finished stack : List Nat) : Prop where
  ordered : finished.Pairwise fun u v => Leads edges v u → TransGen (Leads edges) u v
  closed : ∀ u ∈ finished, ∀ w, Leads edges u w → w ∈ finished ∨ TransGen (Leads edges) w u
  reached : ∀ u, Waits fresh finished stack u → ∀ x ∈ above u stack, TransGen (Leads edges) u x
  pending : ∀ u, Waits fresh finished stack u → ∀ w, Leads edges u w →
    w ∈ finished ∨ w ∈ above u stack ∨ TransGen (Leads edges) w u

namespace Descent

theorem start (edges : List Edge) (n : Nat) :
    Descent edges (List.range n) [] (List.range n) where
  ordered := .nil
  closed := nofun
  reached _ hu := absurd hu.mem hu.discovered
  pending _ hu := absurd hu.mem hu.discovered

/-- The dependents of a fresh node are fresh or finished, or wait below it and lead back to it. -/
theorem fresh_or_finished (h : Descent edges fresh finished (v :: below))
    (hs : Search edges n fresh finished (v :: below)) (hedges : Within n edges) (hv : v ∈ fresh)
    (hlead : Leads edges v w) : w ∈ fresh ∨ w ∈ finished ∨ TransGen (Leads edges) w v := by
  by_cases hfresh : w ∈ fresh
  · exact .inl hfresh
  by_cases hfinished : w ∈ finished
  · exact .inr (.inl hfinished)
  have hne : v ≠ w := by
    rintro rfl
    exact hfresh hv
  have hwaits : Waits fresh finished (v :: below) w :=
    ⟨(hs.covered w (hedges v w hlead).2).resolve_left hfinished, hfresh, hfinished⟩
  refine .inr (.inr (h.reached w hwaits v ?_))
  rw [above_cons hne]
  exact List.mem_cons_self

theorem discover (h : Descent edges fresh finished (v :: below))
    (hs : Search edges n fresh finished (v :: below)) (hedges : Within n edges) (hv : v ∈ fresh)
    (hloop : v ∉ successors edges v) :
    Descent edges (fresh.erase v) finished
      ((successors edges v).filter (· ∈ fresh.erase v) ++ v :: below) := by
  set pushed := (successors edges v).filter (· ∈ fresh.erase v)
  have hlead {x : Nat} (hx : x ∈ pushed) : Leads edges v x :=
    mem_successors.1 (List.mem_filter.1 hx).1
  have hpushed (x : Nat) (hx : x ∈ pushed) : x ∈ fresh.erase v :=
    of_decide_eq_true (List.mem_filter.1 hx).2
  refine { h with reached := fun u hu x hx => ?_, pending := fun u hu w hw => ?_ }
  · obtain ⟨hnew, hbefore⟩ := hu.of_discover hpushed
    rw [above_append hnew] at hx
    by_cases hne : v = u
    · subst hne
      rw [above_top, List.append_nil] at hx
      exact .single (hlead hx)
    · have hreached := h.reached u (hbefore hne)
      rw [above_cons hne] at hreached hx
      rcases List.mem_append.1 hx with hx | hx
      · exact (hreached v List.mem_cons_self).tail (hlead hx)
      · exact hreached x hx
  · obtain ⟨hnew, hbefore⟩ := hu.of_discover hpushed
    rw [above_append hnew]
    by_cases hne : v = u
    · subst hne
      have hself : w ≠ v := by
        rintro rfl
        exact hloop (mem_successors.2 hw)
      rcases h.fresh_or_finished hs hedges hv hw with hfresh | hfinished | hback
      · have hfresh' := decide_eq_true ((List.mem_erase_of_ne hself).2 hfresh)
        refine .inr (.inl (List.mem_append_left _ ?_))
        exact List.mem_filter.2 ⟨mem_successors.2 hw, hfresh'⟩
      · exact .inl hfinished
      · exact .inr (.inr hback)
    · exact (h.pending u (hbefore hne) w hw).imp_right (.imp_left (List.mem_append_right _))

theorem finish (h : Descent edges fresh finished (v :: below)) (hv : v ∉ fresh) :
    Descent edges fresh (if v ∈ finished then finished else v :: finished) below := by
  -- Nothing stands above the node on top, so its dependents are finished or lead back to it.
  have hdependents (hunfinished : v ∉ finished) (w : Nat) (hw : Leads edges v w) :
      w ∈ finished ∨ TransGen (Leads edges) w v := by
    have hpending := h.pending v ⟨List.mem_cons_self, hv, hunfinished⟩ w hw
    rw [above_top] at hpending
    exact hpending.imp_right fun h => h.resolve_left List.not_mem_nil
  refine { ordered := ?_, closed := fun u hu w hw => ?_, reached := fun u hu x hx => ?_,
           pending := fun u hu w hw => ?_ }
  · split
    · exact h.ordered
    · rename_i hunfinished
      exact h.ordered.cons fun u hu hlead => (h.closed u hu v hlead).resolve_left hunfinished
  · rw [mem_finish]
    by_cases hfinished : u ∈ finished
    · exact (h.closed u hfinished w hw).imp_left .inr
    · obtain rfl := (mem_finish.1 hu).resolve_right hfinished
      exact (hdependents hfinished w hw).imp_left .inr
  · obtain ⟨hne, hwaits⟩ := hu.of_finish
    refine h.reached u hwaits x ?_
    rw [above_cons hne]
    exact List.mem_cons_of_mem v hx
  · obtain ⟨hne, hwaits⟩ := hu.of_finish
    have hpending := h.pending u hwaits w hw
    rw [above_cons hne, List.mem_cons] at hpending
    rw [mem_finish]
    tauto

/-- In the order of finishing, edges to what stands before lead back. -/
theorem run (h : Descent edges fresh finished stack) (hs : Search edges n fresh finished stack)
    (hedges : Within n edges) {order : List Nat}
    (hrun : finishOrder edges fresh finished stack = .ok order) :
    order.Pairwise fun u v => Leads edges v u → TransGen (Leads edges) u v := by
  induction fresh, finished, stack using finishOrder.induct edges with
  | case1 fresh finished =>
    rw [finishOrder] at hrun
    obtain rfl := Except.ok.inj hrun
    exact h.ordered
  | case2 fresh finished v below hv next hloop =>
    rw [finishOrder, if_pos hv, if_pos hloop] at hrun
    cases hrun
  | case3 fresh finished v below hv next hloop fresh' ih =>
    rw [finishOrder, if_pos hv, if_neg hloop] at hrun
    exact ih (h.discover hs hedges hv hloop) (hs.discover hedges hloop) hrun
  | case4 fresh finished v below hv ih =>
    rw [finishOrder, if_neg hv] at hrun
    exact ih (h.finish hv) (hs.finish hv) hrun

end Descent

/-- The search stops only at a node with an edge to itself. -/
theorem leads_of_finishOrder (h : finishOrder edges fresh finished stack = .error v) :
    Leads edges v v := by
  induction fresh, finished, stack using finishOrder.induct edges with
  | case1 fresh finished =>
    rw [finishOrder] at h
    cases h
  | case2 fresh finished u below hu next hloop =>
    rw [finishOrder, if_pos hu, if_pos hloop] at h
    obtain rfl := Except.error.inj h
    exact mem_successors.1 hloop
  | case3 fresh finished u below hu next hloop fresh' ih =>
    rw [finishOrder, if_pos hu, if_neg hloop] at h
    exact ih h
  | case4 fresh finished u below hu ih =>
    rw [finishOrder, if_neg hu] at h
    exact ih h

end TagGovernance.Graph
