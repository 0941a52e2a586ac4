/-!
# Order by prerequisites

Nodes name the nodes that must come before them. A depth-first search along the edges from
prerequisites to dependents finishes every node after the ones that depend on it, so the nodes in
reverse order of finishing stand behind their prerequisites if no cycle is in the way. Whether one
is in the way is checked afterwards, node by node.
-/

namespace TagGovernance

/-- Why nodes cannot be ordered. -/
inductive OrderError
  | cycle (node : String)
  | unknownDependency (node dependency : String)
  deriving DecidableEq, Repr

def OrderError.message : OrderError → String
  | cycle node => s!"dependency cycle detected at '{node}'"
  | unknownDependency node dependency => s!"'{node}' depends on unknown '{dependency}'"

namespace Graph

/-- An edge from a prerequisite to its dependent, by their positions in the list of nodes. -/
abbrev Edge := Nat × Nat

/-- The dependents of a node, in the order in which their edges were added. -/
def successors (edges : List Edge) (v : Nat) : List Nat :=
  (edges.filter (fun e => e.1 = v)).map Prod.snd

/-- The prerequisites of a node, in the order in which their edges were added. -/
def predecessors (edges : List Edge) (v : Nat) : List Nat :=
  (edges.filter (fun e => e.2 = v)).map Prod.fst

/-- A depth-first search: the nodes not yet discovered, those finished with the last one first, and
the nodes still to be looked at. The result is the nodes in reverse order of finishing, or a node
with an edge to itself. A node that comes to the top of the stack is discovered and its undiscovered
dependents are put above it; when it comes to the top again it is finished. -/
def finishOrder (edges : List Edge) (fresh finished : List Nat) :
    List Nat → Except Nat (List Nat)
  | [] => .ok finished
  | v :: below =>
    if v ∈ fresh then
      let next := successors edges v
      if v ∈ next then .error v
      else
        let fresh' := fresh.erase v
        finishOrder edges fresh' finished (next.filter (· ∈ fresh') ++ v :: below)
    else
      finishOrder edges fresh (if v ∈ finished then finished else v :: finished) below
termination_by stack => (fresh.length, stack.length)
decreasing_by
  · rename_i h _
    rw [List.length_erase_of_mem h]
    have := List.length_pos_of_mem h
    exact Prod.Lex.left _ _ (by omega)
  · exact Prod.Lex.right _ (by simp)

/-- The first prerequisite that does not stand before its dependent. A walk against the edges from
every node in turn, through nodes not seen yet, ends where it begins if there is none, and else goes
there first. -/
def misplaced? (edges : List Edge) (seen : List Nat) : List Nat → Option Nat
  | [] => none
  | v :: rest =>
    match (predecessors edges v).find? (· ∉ v :: seen) with
    | some p => some p
    | none => misplaced? edges (v :: seen) rest

/-- The nodes `0, ..., size - 1` with every prerequisite before its dependents, or a node that lies
on a cycle. -/
def topological (size : Nat) (edges : List Edge) : Except Nat (List Nat) := do
  let nodes := List.range size
  let order ← finishOrder edges nodes [] nodes
  match misplaced? edges [] order with
  | some p => .error p
  | none => .ok order

/-- The last position of a name. -/
def lastIndex? (name : String) : List String → Option Nat
  | [] => none
  | x :: rest =>
    match lastIndex? name rest with
    | some i => some (i + 1)
    | none => if x = name then some 0 else none

/-- The edges of all nodes in the order of the list. -/
def edgesOf (nodes : List (String × List String)) : Except OrderError (List Edge) :=
  let names := nodes.map Prod.fst
  let wanted := nodes.flatMap fun (name, prerequisites) => prerequisites.map fun p => (p, name)
  wanted.mapM fun (prerequisite, name) =>
    match lastIndex? prerequisite names, lastIndex? name names with
    | some i, some j => .ok (i, j)
    | _, _ => .error (.unknownDependency name prerequisite)

/-- Orders named nodes so that each one stands behind the nodes it names. An edge goes to the last
node with its name. -/
def orderByPrerequisites (nodes : List (String × List String)) :
    Except OrderError (List String) := do
  let names := nodes.map Prod.fst
  let edges ← edgesOf nodes
  match topological names.length edges with
  | .ok order => .ok (order.filterMap fun i => names[i]?)
  | .error i => .error (.cycle (names[i]?.getD ""))

end Graph

end TagGovernance
