import TagGovernance.Proofs.Graph.Order

/-!
# What is wrong with nodes that have no order

Nodes cannot be ordered if one of them names a prerequisite that is no node, and the first such
prerequisite is reported, whatever cycles there are. Otherwise the node that is reported lies on a
cycle itself. The search stops at a node with an edge to itself; or the check finds a prerequisite
behind its dependent, and in the order that the search ends with, an edge against the order is part
of a cycle.
-/

namespace TagGovernance.Graph

open Relation (TransGen)

variable {edges : List Edge} {n u v : Nat} {order seen : List Nat}

theorem misplaced?_eq_some (h : misplaced? edges seen order = some u) :
    ∃ before v after, order = before ++ v :: after ∧ Leads edges u v ∧ u ∉ seen ∧
      u ∉ before ++ [v] := by
  induction order generalizing seen with
  | nil => cases h
  | cons v rest ih =>
    rw [misplaced?] at h
    cases hfound : (predecessors edges v).find? (· ∉ v :: seen) with
    | some p =>
      rw [hfound] at h
      obtain rfl := Option.some.inj h
      have hunseen := List.find?_some hfound
      obtain ⟨hne, hseen⟩ := not_or.1 (mt List.mem_cons.2 (of_decide_eq_true hunseen))
      have hlead := mem_predecessors.1 (List.mem_of_find?_eq_some hfound)
      exact ⟨[], v, rest, rfl, hlead, hseen, fun hmem => hne (List.mem_singleton.1 hmem)⟩
    | none =>
      rw [hfound] at h
      obtain ⟨before, w, after, rfl, hlead, hunseen, hbefore⟩ := ih h
      obtain ⟨hne, hseen⟩ := not_or.1 (mt List.mem_cons.2 hunseen)
      refine ⟨v :: before, w, after, rfl, hlead, hseen, fun hmem => ?_⟩
      exact (List.mem_cons.1 hmem).elim hne hbefore

/-- The node that is reported leads back to itself. -/
theorem topological_eq_error (hedges : Within n edges) (h : topological n edges = .error u) :
    TransGen (Leads edges) u u := by
  cases horder : finishOrder edges (List.range n) [] (List.range n) with
  | error v =>
    rw [topological, horder] at h
    obtain rfl := Except.error.inj h
    exact .single (leads_of_finishOrder horder)
  | ok order =>
    obtain ⟨hperm, -⟩ := (Search.start edges n).run hedges horder
    have hback := (Descent.start edges n).run (Search.start edges n) hedges horder
    have hmem {w : Nat} (hw : w < n) : w ∈ order := hperm.mem_iff.2 (List.mem_range.2 hw)
    cases hcheck : misplaced? edges [] order with
    | none => simp [topological, horder, hcheck] at h
    | some p =>
      obtain rfl : p = u := by simpa [topological, horder, hcheck] using h
      obtain ⟨before, v, after, rfl, hlead, -, hbefore⟩ := misplaced?_eq_some hcheck
      have hbehind : p ∈ after := by
        have hmem := hmem (hedges p v hlead).1
        rw [List.append_cons] at hmem
        exact (List.mem_append.1 hmem).resolve_left hbefore
      have hreturn := (List.pairwise_cons.1 (List.pairwise_append.1 hback).2.1).1 p hbehind hlead
      exact .head hlead hreturn

variable {nodes : List (String × List String)} {e : OrderError}

/-- The edge that cannot be made is that of the first prerequisite that is no node. -/
theorem edgesOf_eq_error (h : edgesOf nodes = .error e) :
    ∃ before a b after, wanted nodes = before ++ (a, b) :: after ∧
      (∀ pair ∈ before, pair.1 ∈ nodes.map Prod.fst) ∧ a ∉ nodes.map Prod.fst ∧
      e = .unknownDependency b a := by
  rw [edgesOf_eq] at h
  obtain ⟨before, ⟨a, b⟩, after, hwanted, hbefore, hpair⟩ := Fallible.mapM_eq_error.1 h
  refine ⟨before, a, b, after, hwanted, fun pair hmem => ?_, ?_⟩
  · obtain ⟨edge, hedge⟩ := hbefore pair hmem
    exact lastIndex?_succeeds_iff.1 ⟨_, (edgeOf_eq_ok.1 hedge).1⟩
  · have hb : b ∈ nodes.map Prod.fst := by
      refine (mem_wanted.1 ?_ : Requires nodes a b).dependent_mem
      rw [hwanted]
      exact List.mem_append_right _ List.mem_cons_self
    obtain ⟨j, hj⟩ := lastIndex?_succeeds_iff.2 hb
    rw [edgeOf, hj] at hpair
    cases ha : lastIndex? a (nodes.map Prod.fst) with
    | some i => simp [ha] at hpair
    | none =>
      rw [ha] at hpair
      refine ⟨fun hmem => ?_, (Except.error.inj hpair).symm⟩
      obtain ⟨i, hi⟩ := lastIndex?_succeeds_iff.2 hmem
      rw [ha] at hi
      cases hi

/-- A name that lies on a cycle: its last node does, so the name is a prerequisite of itself by one
or more steps. -/
structure OnCycle (nodes : List (String × List String)) (name : String) : Prop where
  around : TransGen (Requires nodes) name name
  node : ∃ edges i, edgesOf nodes = .ok edges ∧ (nodes.map Prod.fst)[i]? = some name ∧
    TransGen (Leads edges) i i

theorem onCycle_of_path (h : edgesOf nodes = .ok edges)
    (hcycle : TransGen (Leads edges) u u) : OnCycle nodes ((nodes.map Prod.fst)[u]?.getD "") := by
  refine ⟨requires_of_path h hcycle, edges, u, h, ?_, hcycle⟩
  obtain ⟨w, hlead, -⟩ := TransGen.head'_iff.1 hcycle
  obtain ⟨a, b, -, ha, -⟩ := (leads_iff_requires h).1 hlead
  rw [getElem?_of_lastIndex? ha, Option.getD_some]

/-- Nodes that cannot be ordered are refused for the first prerequisite that is no node, in the order
of the nodes and of their prerequisites. If all are nodes, they are refused for one that lies on a
cycle, not only before or behind one. -/
theorem orderByPrerequisites_refused (h : orderByPrerequisites nodes = .error e) :
    (∃ before a b after, wanted nodes = before ++ (a, b) :: after ∧
      (∀ pair ∈ before, pair.1 ∈ nodes.map Prod.fst) ∧ a ∉ nodes.map Prod.fst ∧
      e = .unknownDependency b a) ∨
    ((∀ a b, Requires nodes a b → a ∈ nodes.map Prod.fst) ∧
      ∃ name, e = .cycle name ∧ OnCycle nodes name) := by
  cases hedges : edgesOf nodes with
  | error e' =>
    rw [orderByPrerequisites, hedges] at h
    obtain rfl := Except.error.inj h
    exact .inl (edgesOf_eq_error hedges)
  | ok edges =>
    refine .inr ⟨edgesOf_succeeds_iff.1 ⟨edges, hedges⟩, ?_⟩
    rw [orderByPrerequisites, hedges, Fallible.ok_bind] at h
    cases horder : topological (nodes.map Prod.fst).length edges with
    | ok order =>
      rw [horder] at h
      cases h
    | error i =>
      rw [horder] at h
      exact ⟨_, (Except.error.inj h).symm,
        onCycle_of_path hedges (topological_eq_error (edgesOf_within hedges) horder)⟩

def crossed : List (String × List String) :=
  [("first", []), ("left", ["right", "first"]), ("right", ["left"]), ("last", ["right"])]

theorem orderByPrerequisites_refused_crossed :
    orderByPrerequisites crossed = .error (.cycle "right") ∧ OnCycle crossed "right" ∧
    orderByPrerequisites (crossed ++ [("lost", ["first", "ghost"])]) =
      .error (.unknownDependency "lost" "ghost") ∧
    "ghost" ∉ (crossed ++ [("lost", ["first", "ghost"])]).map Prod.fst := by
  have hcycle : orderByPrerequisites crossed = .error (.cycle "right") := by cbv
  have hlost : orderByPrerequisites (crossed ++ [("lost", ["first", "ghost"])]) =
      .error (.unknownDependency "lost" "ghost") := by cbv
  refine ⟨hcycle, ?_, hlost, ?_⟩
  · rcases orderByPrerequisites_refused hcycle with ⟨_, a, b, _, -, -, -, hname⟩ | ⟨-, name, hname, h⟩
    · cases hname
    · obtain rfl := OrderError.cycle.inj hname
      exact h
  · rcases orderByPrerequisites_refused hlost with ⟨_, a, b, _, -, -, h, hname⟩ | ⟨-, name, hname, -⟩
    · obtain ⟨-, rfl⟩ := OrderError.unknownDependency.inj hname
      exact h
    · cases hname

end TagGovernance.Graph
