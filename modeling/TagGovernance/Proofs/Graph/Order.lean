import Mathlib.Data.List.Permutation
import TagGovernance.Proofs.Fallible
import TagGovernance.Proofs.Graph.Search

/-!
# The order by prerequisites

The check after the search finds a prerequisite that does not stand before its dependent, if there
is one. So an order that passes has no edge against it, and then positions in it grow along all
paths and there is no cycle. Without cycles the search finds an order that passes. Names are
translated to positions and back: an edge between positions is a prerequisite between names.
-/

namespace TagGovernance.Graph

open Relation (TransGen)

section Ordered

variable {α : Type} [DecidableEq α] {r : α → α → Prop} {l : List α} {a b : α}

/-- If nothing in a list is related to what stands before it, positions grow along the relation. -/
theorem idxOf_lt_idxOf (hordered : l.Pairwise fun x y => ¬r y x) (hirrefl : ¬r a a) (ha : a ∈ l)
    (hb : b ∈ l) (h : r a b) : l.idxOf a < l.idxOf b := by
  have hla := List.idxOf_lt_length_iff.2 ha
  have hlb := List.idxOf_lt_length_iff.2 hb
  have hne : l.idxOf a ≠ l.idxOf b := by
    intro heq
    obtain rfl := (List.idxOf_inj ha).1 heq
    exact hirrefl h
  refine (Nat.lt_or_gt_of_ne hne).resolve_right fun hlt => ?_
  have hback := List.pairwise_iff_getElem.1 hordered _ _ hlb hla hlt
  rw [List.getElem_idxOf, List.getElem_idxOf] at hback
  exact hback h

end Ordered

variable {edges : List Edge} {n : Nat} {order seen : List Nat}

/-- The prerequisites of all nodes stand before them just if no edge leads to what stands before. -/
theorem misplaced?_eq_none_iff (hnodup : order.Nodup) (hapart : ∀ v ∈ order, v ∉ seen)
    (hall : ∀ v ∈ order, ∀ u, Leads edges u v → u ∈ seen ∨ u ∈ order) :
    misplaced? edges seen order = none ↔ order.Pairwise fun u v => ¬Leads edges v u := by
  induction order generalizing seen with
  | nil => simp [misplaced?]
  | cons v rest ih =>
    obtain ⟨hv, hrest⟩ := List.nodup_cons.1 hnodup
    obtain ⟨hvseen, hrestseen⟩ := List.forall_mem_cons.1 hapart
    obtain ⟨hvall, hrestall⟩ := List.forall_mem_cons.1 hall
    have hhead : (predecessors edges v).find? (· ∉ v :: seen) = none ↔
        ∀ u ∈ rest, ¬Leads edges u v := by
      simp only [List.find?_eq_none, mem_predecessors, decide_eq_true_eq, not_not]
      constructor
      · intro h u hu hlead
        rcases List.mem_cons.1 (h u hlead) with rfl | hseen
        · exact hv hu
        · exact hrestseen u hu hseen
      · intro h u hlead
        rcases hvall u hlead with hseen | hmem
        · exact List.mem_cons_of_mem v hseen
        · rcases List.mem_cons.1 hmem with rfl | hmem
          · exact List.mem_cons_self
          · exact absurd hlead (h u hmem)
    have htail : misplaced? edges (v :: seen) rest = none ↔
        rest.Pairwise fun u v => ¬Leads edges v u := by
      refine ih hrest (fun u hu => ?_) fun u hu w hw => ?_
      · rw [List.mem_cons, not_or]
        exact ⟨fun huv => hv (huv ▸ hu), hrestseen u hu⟩
      · have := hrestall u hu w hw
        rw [List.mem_cons] at this ⊢
        tauto
    rw [List.pairwise_cons, ← hhead, ← htail, misplaced?]
    cases (predecessors edges v).find? (· ∉ v :: seen) <;> simp

/-- An order of all nodes passes the check just if no edge leads to what stands before. -/
theorem checked_iff (hedges : Within n edges) (hperm : order.Perm (List.range n)) :
    misplaced? edges [] order = none ↔ order.Pairwise fun u v => ¬Leads edges v u := by
  refine misplaced?_eq_none_iff (hperm.nodup_iff.2 List.nodup_range)
    (fun _ _ => List.not_mem_nil) fun v _ u hlead => ?_
  exact .inr (hperm.mem_iff.2 (List.mem_range.2 (hedges u v hlead).1))

/-- An order that is found has all nodes, and every edge leads forward in it. -/
theorem topological_eq_ok (hedges : Within n edges) (h : topological n edges = .ok order) :
    order.Perm (List.range n) ∧ (∀ v, ¬Leads edges v v) ∧
      order.Pairwise fun u v => ¬Leads edges v u := by
  obtain ⟨found, hfound, h⟩ := Fallible.bind_eq_ok.1 h
  obtain ⟨hperm, hloop⟩ := (Search.start edges n).run hedges hfound
  cases hcheck : misplaced? edges [] found with
  | some p =>
    rw [hcheck] at h
    cases h
  | none =>
    rw [hcheck] at h
    obtain rfl := Except.ok.inj h
    exact ⟨hperm, fun v hv => hloop v (hedges v v hv).1 hv, (checked_iff hedges hperm).1 hcheck⟩

theorem idxOf_lt_of_topological (hedges : Within n edges) (h : topological n edges = .ok order)
    {u v : Nat} (hpath : TransGen (Leads edges) u v) : order.idxOf u < order.idxOf v := by
  obtain ⟨hperm, hloop, hordered⟩ := topological_eq_ok hedges h
  have hstep {u v : Nat} (hlead : Leads edges u v) : order.idxOf u < order.idxOf v := by
    have hmem {w : Nat} (hw : w < n) : w ∈ order := hperm.mem_iff.2 (List.mem_range.2 hw)
    obtain ⟨hu, hv⟩ := hedges u v hlead
    exact idxOf_lt_idxOf hordered (hloop u) (hmem hu) (hmem hv) hlead
  induction hpath with
  | single hlead => exact hstep hlead
  | tail _ hlead ih => exact Nat.lt_trans ih (hstep hlead)

theorem topological_succeeds_iff (hedges : Within n edges) :
    (∃ order, topological n edges = .ok order) ↔ Acyclic edges := by
  constructor
  · rintro ⟨order, h⟩ v hcycle
    exact Nat.lt_irrefl _ (idxOf_lt_of_topological hedges h hcycle)
  · intro acyclic
    cases horder : finishOrder edges (List.range n) [] (List.range n) with
    | error v => exact absurd (.single (leads_of_finishOrder horder)) (acyclic v)
    | ok order =>
      obtain ⟨hperm, -⟩ := (Search.start edges n).run hedges horder
      have hback := (Descent.start edges n).run (Search.start edges n) hedges horder
      have hordered : order.Pairwise fun u v => ¬Leads edges v u := by
        refine hback.imp fun {u v} hback => ?_
        exact fun hlead => acyclic u ((hback hlead).tail hlead)
      have hcheck := (checked_iff hedges hperm).2 hordered
      exact ⟨order, Fallible.bind_eq_ok.2 ⟨order, horder, by rw [hcheck]⟩⟩

variable {nodes : List (String × List String)} {names : List String} {name : String} {i j : Nat}

theorem getElem?_of_lastIndex? (h : lastIndex? name names = some i) : names[i]? = some name := by
  induction names generalizing i with
  | nil => cases h
  | cons x rest ih =>
    rw [lastIndex?] at h
    split at h
    · rename_i k hk
      obtain rfl := Option.some.inj h
      exact ih hk
    · split at h
      · rename_i hx
        obtain rfl := Option.some.inj h
        rw [hx]
        rfl
      · cases h

theorem lastIndex?_succeeds_iff : (∃ i, lastIndex? name names = some i) ↔ name ∈ names := by
  constructor
  · rintro ⟨i, hi⟩
    exact List.mem_of_getElem? (getElem?_of_lastIndex? hi)
  · intro h
    induction names with
    | nil => cases h
    | cons x rest ih =>
      rw [lastIndex?]
      cases hrest : lastIndex? name rest with
      | some i => exact ⟨i + 1, rfl⟩
      | none =>
        rcases List.mem_cons.1 h with rfl | h
        · exact ⟨0, if_pos rfl⟩
        · obtain ⟨i, hi⟩ := ih h
          rw [hrest] at hi
          cases hi

theorem lastIndex?_of_nodup (hnodup : names.Nodup) (h : names[i]? = some name) :
    lastIndex? name names = some i := by
  obtain ⟨j, hj⟩ := lastIndex?_succeeds_iff.2 (List.mem_of_getElem? h)
  have hsame := h.trans (getElem?_of_lastIndex? hj).symm
  rwa [(List.getElem?_inj (List.getElem?_eq_some_iff.1 h).1 hnodup).1 hsame]

theorem filterMap_range (names : List String) :
    ((List.range names.length).filterMap fun i => names[i]?) = names := by
  induction names with
  | nil => rfl
  | cons x rest ih =>
    rw [List.length_cons, List.range_succ_eq_map, List.filterMap_cons, List.filterMap_map]
    exact congrArg (x :: ·) ih

/-- The first name is a prerequisite of the second one. -/
def Requires (nodes : List (String × List String)) (a b : String) : Prop :=
  ∃ prerequisites, (b, prerequisites) ∈ nodes ∧ a ∈ prerequisites

theorem Requires.dependent_mem {a b : String} (h : Requires nodes a b) :
    b ∈ nodes.map Prod.fst := by
  obtain ⟨prerequisites, hnode, -⟩ := h
  exact List.mem_map_of_mem hnode

def wanted (nodes : List (String × List String)) : List (String × String) :=
  nodes.flatMap fun node => node.2.map fun p => (p, node.1)

def edgeOf (names : List String) (pair : String × String) : Except OrderError Edge :=
  match lastIndex? pair.1 names, lastIndex? pair.2 names with
  | some i, some j => .ok (i, j)
  | _, _ => .error (.unknownDependency pair.2 pair.1)

theorem edgesOf_eq (nodes : List (String × List String)) :
    edgesOf nodes = (wanted nodes).mapM (edgeOf (nodes.map Prod.fst)) := rfl

theorem mem_wanted {a b : String} : (a, b) ∈ wanted nodes ↔ Requires nodes a b := by
  simp only [wanted, List.mem_flatMap, List.mem_map, Requires, Prod.exists, Prod.mk.injEq]
  constructor
  · rintro ⟨b, prerequisites, hnode, a, ha, rfl, rfl⟩
    exact ⟨prerequisites, hnode, ha⟩
  · rintro ⟨prerequisites, hnode, ha⟩
    exact ⟨b, prerequisites, hnode, a, ha, rfl, rfl⟩

theorem edgeOf_eq_ok {a b : String} : edgeOf names (a, b) = .ok (i, j) ↔
    lastIndex? a names = some i ∧ lastIndex? b names = some j := by
  rw [edgeOf]
  cases lastIndex? a names <;> cases lastIndex? b names <;> simp

theorem edgesOf_succeeds_iff : (∃ edges, edgesOf nodes = .ok edges) ↔
    ∀ a b, Requires nodes a b → a ∈ nodes.map Prod.fst := by
  simp only [edgesOf_eq, Fallible.mapM_succeeds_iff, Prod.forall, Prod.exists, mem_wanted,
    edgeOf_eq_ok, exists_and_left, exists_and_right, lastIndex?_succeeds_iff]
  exact forall₃_congr fun a b h => and_iff_left h.dependent_mem

theorem Requires.leads {a b : String} (hrequires : Requires nodes a b)
    (h : edgesOf nodes = .ok edges) : ∃ i j, lastIndex? a (nodes.map Prod.fst) = some i ∧
      lastIndex? b (nodes.map Prod.fst) = some j ∧ Leads edges i j := by
  rw [edgesOf_eq] at h
  obtain ⟨⟨i, j⟩, hlead, hedge⟩ := Fallible.exists_of_mapM h (mem_wanted.2 hrequires)
  obtain ⟨hi, hj⟩ := edgeOf_eq_ok.1 hedge
  exact ⟨i, j, hi, hj, hlead⟩

theorem leads_iff_requires (h : edgesOf nodes = .ok edges) : Leads edges i j ↔
    ∃ a b, Requires nodes a b ∧ lastIndex? a (nodes.map Prod.fst) = some i ∧
      lastIndex? b (nodes.map Prod.fst) = some j := by
  constructor
  · intro hlead
    rw [edgesOf_eq] at h
    obtain ⟨⟨a, b⟩, hwanted, hedge⟩ := Fallible.mem_of_mapM h hlead
    exact ⟨a, b, mem_wanted.1 hwanted, edgeOf_eq_ok.1 hedge⟩
  · rintro ⟨a, b, hrequires, ha, hb⟩
    obtain ⟨i', j', hi, hj, hlead⟩ := hrequires.leads h
    obtain rfl := Option.some.inj (ha.symm.trans hi)
    obtain rfl := Option.some.inj (hb.symm.trans hj)
    exact hlead

theorem edgesOf_within (h : edgesOf nodes = .ok edges) :
    Within (nodes.map Prod.fst).length edges := by
  intro i j hlead
  obtain ⟨a, b, -, ha, hb⟩ := (leads_iff_requires h).1 hlead
  exact ⟨(List.getElem?_eq_some_iff.1 (getElem?_of_lastIndex? ha)).1,
    (List.getElem?_eq_some_iff.1 (getElem?_of_lastIndex? hb)).1⟩

theorem requires_of_path (h : edgesOf nodes = .ok edges) (hpath : TransGen (Leads edges) i j) :
    TransGen (Requires nodes) ((nodes.map Prod.fst)[i]?.getD "")
      ((nodes.map Prod.fst)[j]?.getD "") := by
  refine TransGen.lift (p := Requires nodes) (fun i => (nodes.map Prod.fst)[i]?.getD "")
    (fun i j hlead => ?_) _ _ hpath
  obtain ⟨a, b, hrequires, ha, hb⟩ := (leads_iff_requires h).1 hlead
  rw [Function.onFun_apply, getElem?_of_lastIndex? ha, getElem?_of_lastIndex? hb]
  exact hrequires

/-- There is no cycle of positions just if there is none of names. -/
theorem acyclic_iff (h : edgesOf nodes = .ok edges) :
    Acyclic edges ↔ ∀ a, ¬TransGen (Requires nodes) a a := by
  constructor
  · intro acyclic a hcycle
    refine acyclic _ (TransGen.lift (p := Leads edges)
      (fun a => (lastIndex? a (nodes.map Prod.fst)).getD 0) (fun a b hrequires => ?_) _ _ hcycle)
    obtain ⟨i, j, hi, hj, hlead⟩ := hrequires.leads h
    rw [Function.onFun_apply, hi, hj]
    exact hlead
  · exact fun acyclic i hcycle => acyclic _ (requires_of_path h hcycle)

variable {names' : List String}

theorem orderByPrerequisites_eq_ok : orderByPrerequisites nodes = .ok names' ↔
    ∃ edges order, edgesOf nodes = .ok edges ∧
      topological (nodes.map Prod.fst).length edges = .ok order ∧
      (order.filterMap fun i => (nodes.map Prod.fst)[i]?) = names' := by
  rw [orderByPrerequisites, Fallible.bind_eq_ok]
  refine exists_congr fun edges => ?_
  cases topological (nodes.map Prod.fst).length edges <;> simp

theorem orderByPrerequisites_perm (h : orderByPrerequisites nodes = .ok names') :
    names'.Perm (nodes.map Prod.fst) := by
  obtain ⟨edges, order, hedges, horder, rfl⟩ := orderByPrerequisites_eq_ok.1 h
  have hperm := (topological_eq_ok (edgesOf_within hedges) horder).1
  exact (hperm.filterMap _).trans (.of_eq (filterMap_range _))

theorem orderByPrerequisites_succeeds_iff : (∃ names', orderByPrerequisites nodes = .ok names') ↔
    (∀ a b, Requires nodes a b → a ∈ nodes.map Prod.fst) ∧
      ∀ a, ¬TransGen (Requires nodes) a a := by
  rw [← edgesOf_succeeds_iff]
  constructor
  · rintro ⟨names', h⟩
    obtain ⟨edges, order, hedges, horder, -⟩ := orderByPrerequisites_eq_ok.1 h
    exact ⟨⟨edges, hedges⟩, (acyclic_iff hedges).1
      ((topological_succeeds_iff (edgesOf_within hedges)).1 ⟨order, horder⟩)⟩
  · rintro ⟨⟨edges, hedges⟩, acyclic⟩
    obtain ⟨order, horder⟩ := (topological_succeeds_iff (edgesOf_within hedges)).2
      ((acyclic_iff hedges).2 acyclic)
    exact ⟨_, orderByPrerequisites_eq_ok.2 ⟨edges, order, hedges, horder, rfl⟩⟩

theorem idxOf_lt_of_requires (h : orderByPrerequisites nodes = .ok names')
    (hnodup : (nodes.map Prod.fst).Nodup) {a b : String} (hrequires : Requires nodes a b) :
    names'.idxOf a < names'.idxOf b := by
  have hperm := orderByPrerequisites_perm h
  obtain ⟨hknown, acyclic⟩ := orderByPrerequisites_succeeds_iff.1 ⟨names', h⟩
  have hordered : names'.Pairwise fun x y => ¬Requires nodes y x := by
    obtain ⟨edges, order, hedges, horder, rfl⟩ := orderByPrerequisites_eq_ok.1 h
    refine List.pairwise_filterMap.2
      ((topological_eq_ok (edgesOf_within hedges) horder).2.2.imp fun hback x hx y hy hyx => ?_)
    exact hback ((leads_iff_requires hedges).2
      ⟨y, x, hyx, lastIndex?_of_nodup hnodup hy, lastIndex?_of_nodup hnodup hx⟩)
  exact idxOf_lt_idxOf hordered (fun hself => acyclic a (.single hself))
    (hperm.mem_iff.2 (hknown a b hrequires)) (hperm.mem_iff.2 hrequires.dependent_mem) hrequires

/-- Nodes are ordered just if all prerequisites are names of nodes and there is no cycle, not even
of a name that is its own prerequisite. The order has every name as often as the nodes do. If no
name is repeated, every name stands behind all of its prerequisites. -/
theorem orderByPrerequisites_spec (nodes : List (String × List String)) :
    ((∃ order, orderByPrerequisites nodes = .ok order) ↔
      (∀ a b, Requires nodes a b → a ∈ nodes.map Prod.fst) ∧
        ∀ a, ¬TransGen (Requires nodes) a a) ∧
    ∀ order, orderByPrerequisites nodes = .ok order →
      order.Perm (nodes.map Prod.fst) ∧
      ((nodes.map Prod.fst).Nodup → ∀ a b, Requires nodes a b →
        order.idxOf a < order.idxOf b) := by
  refine ⟨orderByPrerequisites_succeeds_iff, fun order h => ⟨orderByPrerequisites_perm h, ?_⟩⟩
  intro hnodup a b hrequires
  exact idxOf_lt_of_requires h hnodup hrequires

def someKinds : List (String × List String) :=
  [("user", ["acl"]), ("acl", ["cluster", "cluster"]), ("cluster", []), ("snapshot", [])]

theorem orderByPrerequisites_spec_someKinds : (someKinds.map Prod.fst).Nodup ∧
    Requires someKinds "cluster" "acl" ∧ ∃ order, orderByPrerequisites someKinds = .ok order ∧
      order.Perm ["user", "acl", "cluster", "snapshot"] ∧
      order.idxOf "cluster" < order.idxOf "acl" := by
  have hnodup : (someKinds.map Prod.fst).Nodup := by decide
  have hrequires : Requires someKinds "cluster" "acl" :=
    ⟨["cluster", "cluster"], .tail _ (.head _), .head _⟩
  have horder : orderByPrerequisites someKinds = .ok ["snapshot", "cluster", "acl", "user"] := by
    cbv
  obtain ⟨hperm, hbehind⟩ := (orderByPrerequisites_spec someKinds).2 _ horder
  exact ⟨hnodup, hrequires, _, horder, hperm, hbehind hnodup _ _ hrequires⟩

end TagGovernance.Graph
