import TagGovernance.Proofs.Provider.Readable

/-!
# The resources that calls find

A call is for the resources of one kind with one id. They stand in a list of their own, of which the
call finds the first. What calls do is said here on these lists: the gate answers from one of them,
a change goes to the head of one, a removal empties one, and all others stay as they are.
-/

namespace TagGovernance

namespace Provider

variable {p : Provider} {kind : ResourceKind} {name id : String} {change : Entry → Entry}

def named (p : Provider) (kind id : String) : List Entry := p.entries.filter (Entry.isFor kind id)

/-- No error was recorded for calls on the resources with an id. -/
def Passes (p : Provider) (id : String) : Prop := Keyed.find? id p.errors = none

instance (p : Provider) (id : String) : Decidable (p.Passes id) :=
  inferInstanceAs (Decidable (_ = none))

def refs (p : Provider) : List ResourceRef := p.entries.map (·.target)

theorem find?_eq_head? (p : Provider) (kind id : String) :
    p.find? kind id = (p.named kind id).head? :=
  List.head?_filter.symm

theorem mem_named {e : Entry} : e ∈ p.named name id ↔ e ∈ p.entries ∧ e.isFor name id = true :=
  List.mem_filter

theorem live_iff_named :
    p.Live name id ↔ p.Passes id ∧ id ∉ p.missing ∧ p.named name id ≠ [] := by
  simp only [Live, Passes, ne_eq, List.eq_nil_iff_forall_not_mem, mem_named, not_forall, not_not]

namespace Confined

variable {q : Provider} {other : String} {ids fields : List String}

theorem named_eq (h : Confined name ids fields p q) (apart : other ≠ name ∨ id ∉ ids) :
    q.named other id = p.named other id := h.filter_isFor apart

theorem named_nil (h : Confined name ids fields p q) (hnone : p.named other id = []) :
    q.named other id = [] := by
  refine List.eq_nil_iff_forall_not_mem.2 fun f hf => ?_
  obtain ⟨hmem, hfor⟩ := mem_named.1 hf
  obtain ⟨e, he, hupdates⟩ := h.kept f hmem
  rw [Entry.isFor_congr hupdates.target] at hfor
  exact List.not_mem_nil (hnone ▸ mem_named.2 ⟨he, hfor⟩)

end Confined

theorem named_remove (p : Provider) (kind id name other : String) :
    (p.remove kind id).named name other =
      if name = kind ∧ other = id then [] else p.named name other := by
  rw [named, remove, List.filter_filter]
  split
  · rename_i h
    obtain ⟨rfl, rfl⟩ := h
    exact List.filter_eq_nil_iff.2 fun e _ => by simp
  · rename_i h
    refine List.filter_congr fun e _ => ?_
    cases hfor : e.isFor name other with
    | false => rfl
    | true =>
      obtain ⟨rfl, rfl⟩ := Entry.isFor_iff.1 hfor
      have hapart : e.isFor kind id = false := by
        refine Bool.eq_false_iff.2 fun hmem => h ?_
        obtain ⟨rfl, rfl⟩ := Entry.isFor_iff.1 hmem
        exact ⟨rfl, rfl⟩
      simp [hapart]

private theorem filter_modifyFirst_self {test : Entry → Bool} {entries : List Entry}
    (h : ∀ e, test (change e) = test e) :
    (modifyFirst test change entries).filter test = (entries.filter test).modifyHead change := by
  induction entries with
  | nil => rfl
  | cons e rest ih =>
    rw [modifyFirst]
    split
    · rename_i htest
      simp [htest, h]
    · rename_i htest
      simp [htest, ih]

theorem named_modify (htarget : ∀ e, (change e).target = e.target) (p : Provider)
    (kind id name other : String) : (p.modify kind id change).named name other =
      if name = kind ∧ other = id then (p.named name other).modifyHead change
      else p.named name other := by
  rw [named, modify]
  split
  · rename_i h
    obtain ⟨rfl, rfl⟩ := h
    exact filter_modifyFirst_self fun e => Entry.isFor_congr (htarget e) _ _
  · rename_i h
    refine filter_modifyFirst fun e hfor => ?_
    have hapart : e.isFor name other = false := by
      refine Bool.eq_false_iff.2 fun hmem => h ?_
      obtain ⟨rfl, rfl⟩ := Entry.isFor_iff.1 hfor
      obtain ⟨rfl, rfl⟩ := Entry.isFor_iff.1 hmem
      exact ⟨rfl, rfl⟩
    exact ⟨hapart, by rw [Entry.isFor_congr (htarget e), hapart]⟩

theorem refs_modify (htarget : ∀ e, (change e).target = e.target) (p : Provider)
    (kind id : String) : (p.modify kind id change).refs = p.refs := by
  have hmap (test : Entry → Bool) (entries : List Entry) :
      (modifyFirst test change entries).map (·.target) = entries.map (·.target) := by
    induction entries with
    | nil => rfl
    | cons e rest ih =>
      rw [modifyFirst]
      split <;> simp [htarget, ih]
  exact hmap _ p.entries

theorem refs_remove (p : Provider) (kind id : String) :
    (p.remove kind id).refs = p.refs.filter fun r => !(r.kind = kind && r.id = id) := by
  rw [refs, refs, List.filter_map]
  rfl

theorem gate_failing (kind : ResourceKind) {error : RecordedError}
    (h : Keyed.find? id p.errors = some error) :
    p.gate kind id = (.error (.ofCode error.code error.text), p) := by
  rw [gate, h]

theorem gate_missing (kind : ResourceKind) (hpass : p.Passes id) (h : id ∈ p.missing) :
    p.gate kind id = (.error (notFoundText kind id),
      { p.remove kind.typeName id with missing := p.missing.filter (· ≠ id) }) := by
  rw [gate, hpass]
  exact if_pos h

theorem gate_absent (hpass : p.Passes id) (hmissing : id ∉ p.missing)
    (h : p.named kind.typeName id = []) :
    p.gate kind id = (.error (notFoundText kind id), p) := by
  rw [gate, hpass]
  dsimp only
  rw [if_neg hmissing, find?_eq_head?, h]
  rfl

theorem gate_found (hpass : p.Passes id) (hmissing : id ∉ p.missing)
    {e : Entry} {rest : List Entry} (h : p.named kind.typeName id = e :: rest) :
    p.gate kind id = (.ok e, p) := by
  rw [gate, hpass]
  dsimp only
  rw [if_neg hmissing, find?_eq_head?, h]
  rfl

end Provider

end TagGovernance
