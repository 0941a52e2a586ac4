import TagGovernance.Proofs.FirstFault
import TagGovernance.Proofs.Graph.Order
import TagGovernance.Proofs.Resource.Catalog

/-!
# Which kinds make a catalog

A kind is at fault if an earlier kind has its name, if it can write tags but has no shape for them,
or if it can be marked but not tagged. A list of kinds is refused for the first kind that is at
fault, and for the first of these faults. If no kind is, then it is refused just if the kinds cannot
be ordered: some kind follows a name that no kind has, or kinds follow each other in a circle. So of
a kind that a catalog has it is known that its tags can be written if it may write any.
-/

namespace TagGovernance.Catalog

open Relation (TransGen)

def WritesTags (kind : ResourceKind) : Prop := ∃ op ∈ kind.operations, op.writesTags = true

/-- What is wrong with a kind, given the kinds before it. Names come first, then shapes. -/
inductive KindFault (before : List ResourceKind) (kind : ResourceKind) : CatalogError → Prop
  | repeated (seen : kind.typeName ∈ before.map (·.typeName)) :
      KindFault before kind (.duplicateKind kind.typeName)
  | shapeless (new : kind.typeName ∉ before.map (·.typeName)) (writes : WritesTags kind)
      (shapeless : kind.tagShape = none) : KindFault before kind (.tagsWithoutShape kind.typeName)
  | untagged (new : kind.typeName ∉ before.map (·.typeName))
      (shaped : ¬(WritesTags kind ∧ kind.tagShape = none)) (marks : .markForOp ∈ kind.operations)
      (untagged : .tag ∉ kind.operations) : KindFault before kind (.marksWithoutTags kind.typeName)

variable {kinds before : List ResourceKind} {kind : ResourceKind} {error : CatalogError}
  {catalog : Catalog} {name : String} {op : Operation}

theorem kindFault_iff : (∃ error, KindFault before kind error) ↔
    kind.typeName ∈ before.map (·.typeName) ∨ (WritesTags kind ∧ kind.tagShape = none) ∨
      (.markForOp ∈ kind.operations ∧ .tag ∉ kind.operations) := by
  constructor
  · rintro ⟨_, ⟨seen⟩ | ⟨-, writes, shapeless⟩ | ⟨-, -, marks, untagged⟩⟩
    · exact .inl seen
    · exact .inr (.inl ⟨writes, shapeless⟩)
    · exact .inr (.inr ⟨marks, untagged⟩)
  · intro h
    by_cases new : kind.typeName ∈ before.map (·.typeName)
    · exact ⟨_, .repeated new⟩
    · by_cases shaped : WritesTags kind ∧ kind.tagShape = none
      · exact ⟨_, .shapeless new shaped.1 shaped.2⟩
      · obtain ⟨marks, untagged⟩ := (h.resolve_left new).resolve_left shaped
        exact ⟨_, .untagged new shaped marks untagged⟩

/-- Behind the kinds before it, a kind is refused for its fault. -/
theorem fault?_eq_some_iff :
    fault? (before.map (·.typeName)).reverse kind = some error ↔ KindFault before kind error := by
  have hseen : kind.typeName ∈ (before.map (·.typeName)).reverse ↔
      kind.typeName ∈ before.map (·.typeName) := List.mem_reverse
  have hshapeless : (kind.tagShape.isNone = true ∧
      kind.operations.any Operation.writesTags = true) ↔
      WritesTags kind ∧ kind.tagShape = none := by
    simp [WritesTags, and_comm]
  have huntagged : (kind.supports .markForOp = true ∧ ¬kind.supports .tag = true) ↔
      .markForOp ∈ kind.operations ∧ .tag ∉ kind.operations := by
    simp [ResourceKind.supports]
  constructor
  · intro h
    unfold fault? at h
    split at h
    · rename_i seen
      obtain rfl := Option.some.inj h
      exact .repeated (hseen.1 seen)
    · rename_i new
      rw [hseen] at new
      split at h
      · rename_i shapeless
        obtain rfl := Option.some.inj h
        obtain ⟨writes, shapeless⟩ := hshapeless.1 shapeless
        exact .shapeless new writes shapeless
      · rename_i shaped
        rw [hshapeless] at shaped
        split at h
        · rename_i untagged
          obtain rfl := Option.some.inj h
          obtain ⟨marks, untagged⟩ := huntagged.1 untagged
          exact .untagged new shaped marks untagged
        · cases h
  · rintro (⟨seen⟩ | ⟨new, writes, shapeless⟩ | ⟨new, shaped, marks, untagged⟩)
    · exact if_pos (hseen.2 seen)
    · rw [fault?, if_neg (mt hseen.1 new), if_pos (hshapeless.2 ⟨writes, shapeless⟩)]
    · rw [fault?, if_neg (mt hseen.1 new), if_neg (mt hshapeless.1 shaped),
        if_pos (huntagged.2 ⟨marks, untagged⟩)]

theorem firstFault?_append (h : Flawless KindFault before) (rest : List ResourceKind) :
    firstFault? [] (before ++ rest) = firstFault? (before.map (·.typeName)).reverse rest := by
  induction before using List.reverseRecOn generalizing rest with
  | nil => rfl
  | append_singleton before kind ih =>
    obtain ⟨hbefore, hkind⟩ := Flawless.concat_iff.1 h
    have hnone : fault? (before.map (·.typeName)).reverse kind = none := by
      cases hfault : fault? (before.map (·.typeName)).reverse kind with
      | none => rfl
      | some error => exact absurd ⟨error, fault?_eq_some_iff.1 hfault⟩ hkind
    rw [List.append_assoc, ih hbefore, List.singleton_append, firstFault?, hnone]
    simp

theorem firstFault?_of_fault (hbefore : Flawless KindFault before) (h : KindFault before kind error)
    (after : List ResourceKind) : firstFault? [] (before ++ kind :: after) = some error := by
  rw [firstFault?_append hbefore, firstFault?, fault?_eq_some_iff.2 h]

theorem firstFault?_of_flawless (h : Flawless KindFault kinds) : firstFault? [] kinds = none := by
  have happend := firstFault?_append h []
  rwa [List.append_nil, firstFault?] at happend

theorem firstFault?_eq_some_iff : firstFault? [] kinds = some error ↔
    ∃ before kind after, kinds = before ++ kind :: after ∧ Flawless KindFault before ∧
      KindFault before kind error := by
  refine Flawless.reports_iff (fun _ _ => Option.some.inj) ?_ (fun hkinds error h => ?_) error
  · intro before kind after error hsplit hbefore hfault
    rw [hsplit, firstFault?_of_fault hbefore hfault after]
  · cases h.symm.trans (firstFault?_of_flawless hkinds)

theorem firstFault?_eq_none_iff : firstFault? [] kinds = none ↔ Flawless KindFault kinds := by
  refine ⟨fun h => ?_, firstFault?_of_flawless⟩
  rcases Flawless.or_first KindFault kinds with
    hkinds | ⟨before, kind, after, error, rfl, hbefore, hfault⟩
  · exact hkinds
  · cases h.symm.trans (firstFault?_of_fault hbefore hfault after)

/-- In a list without a fault names differ, and every kind can write the tags that it may write and
can be tagged if it can be marked. -/
theorem flawless_iff : Flawless KindFault kinds ↔ (kinds.map (·.typeName)).Nodup ∧
    (∀ kind ∈ kinds, WritesTags kind → kind.tagShape ≠ none) ∧
    ∀ kind ∈ kinds, .markForOp ∈ kind.operations → .tag ∈ kind.operations := by
  induction kinds using List.reverseRecOn with
  | nil => simp [Flawless.nil]
  | append_singleton kinds kind ih =>
    rw [Flawless.concat_iff, ih, kindFault_iff]
    simp only [List.map_append, List.map_singleton, List.nodup_append, List.nodup_singleton,
      List.forall_mem_append, List.forall_mem_singleton]
    grind

/-- Resources of the kind with the first name are deleted before those of the kind with the second.
-/
def Precedes (kinds : List ResourceKind) (first second : String) : Prop :=
  ∃ kind ∈ kinds, kind.typeName = second ∧ first ∈ kind.deleteAfter

def followers (kinds : List ResourceKind) : List (String × List String) :=
  kinds.map fun k => (k.typeName, k.deleteAfter)

theorem names_followers (kinds : List ResourceKind) :
    (followers kinds).map Prod.fst = kinds.map (·.typeName) := by
  simp [followers]

theorem requires_followers : Graph.Requires (followers kinds) = Precedes kinds := by
  funext first second
  simp [Graph.Requires, Precedes, followers, and_assoc]

/-- Kinds can be ordered just if all that they follow are kinds and none follows itself. -/
theorem ordered_iff : (∃ order, Graph.orderByPrerequisites (followers kinds) = .ok order) ↔
    (∀ kind ∈ kinds, ∀ name ∈ kind.deleteAfter, name ∈ kinds.map (·.typeName)) ∧
      ∀ name, ¬TransGen (Precedes kinds) name name := by
  rw [Graph.orderByPrerequisites_succeeds_iff, requires_followers, names_followers]
  refine and_congr_left' ⟨fun h kind hkind name hname => ?_, fun h first second hprecedes => ?_⟩
  · exact h name kind.typeName ⟨kind, hkind, rfl, hname⟩
  · obtain ⟨kind, hkind, -, hname⟩ := hprecedes
    exact h kind hkind first hname

theorem ofKinds_of_fault (h : firstFault? [] kinds = some error) :
    ofKinds kinds = .error error := by
  rw [ofKinds, h]

theorem ofKinds_of_flawless (h : Flawless KindFault kinds) : ofKinds kinds =
    ((Graph.orderByPrerequisites (followers kinds)).mapError .order).map (⟨kinds, ·⟩) := by
  rw [ofKinds, firstFault?_of_flawless h, followers]
  cases Graph.orderByPrerequisites (kinds.map fun k => (k.typeName, k.deleteAfter)) <;> rfl

/-- Kinds are refused for the first fault, or else because they cannot be ordered. -/
theorem ofKinds_eq_error_iff : ofKinds kinds = .error error ↔
    (∃ before kind after, kinds = before ++ kind :: after ∧ Flawless KindFault before ∧
      KindFault before kind error) ∨
    (Flawless KindFault kinds ∧
      ∃ e, Graph.orderByPrerequisites (followers kinds) = .error e ∧ error = .order e) := by
  rw [← firstFault?_eq_some_iff, ← firstFault?_eq_none_iff]
  cases hfault : firstFault? [] kinds with
  | some found => simp [ofKinds_of_fault hfault]
  | none =>
    rw [ofKinds_of_flawless (firstFault?_eq_none_iff.1 hfault), Fallible.map_eq_error,
      Fallible.mapError_eq_error]
    simp [eq_comm]

theorem ofKinds_eq_ok_iff : ofKinds kinds = .ok catalog ↔
    Flawless KindFault kinds ∧ ∃ order,
      Graph.orderByPrerequisites (followers kinds) = .ok order ∧ ⟨kinds, order⟩ = catalog := by
  rw [← firstFault?_eq_none_iff]
  cases hfault : firstFault? [] kinds with
  | some found => simp [ofKinds_of_fault hfault]
  | none =>
    rw [ofKinds_of_flawless (firstFault?_eq_none_iff.1 hfault), Fallible.map_eq_ok]
    simp only [Fallible.mapError_eq_ok, true_and]

theorem ofKinds_succeeds_iff : (∃ catalog, ofKinds kinds = .ok catalog) ↔
    Flawless KindFault kinds ∧
      ∃ order, Graph.orderByPrerequisites (followers kinds) = .ok order := by
  constructor
  · rintro ⟨catalog, h⟩
    obtain ⟨hflawless, order, horder, -⟩ := ofKinds_eq_ok_iff.1 h
    exact ⟨hflawless, order, horder⟩
  · rintro ⟨hflawless, order, horder⟩
    exact ⟨_, ofKinds_eq_ok_iff.2 ⟨hflawless, order, horder, rfl⟩⟩

theorem require_eq_ok (h : catalog.require name op = .ok kind) :
    kind ∈ catalog.kinds ∧ op ∈ kind.operations := by
  obtain ⟨found, hfound, h⟩ := Fallible.bind_eq_ok.1 h
  split at h
  · rename_i supported
    obtain rfl := Except.ok.inj h
    exact ⟨(get_eq_ok hfound).1, by simpa [ResourceKind.supports] using supported⟩
  · cases h

/-- Kinds are accepted just if their names differ, all of them have a shape if an action writes
their tags, those that can be marked can be tagged, and they follow names of kinds and not
themselves. They are refused for the first kind that breaks one of the first three rules, and for
the first rule that it breaks; only if there is none, for what is in the way of an order. The tags
of a kind that is found for an action that writes them have a shape. -/
theorem ofKinds_verdict (kinds : List ResourceKind) :
    ((∃ catalog, ofKinds kinds = .ok catalog) ↔
      (kinds.map (·.typeName)).Nodup ∧
      (∀ kind ∈ kinds, WritesTags kind → kind.tagShape ≠ none) ∧
      (∀ kind ∈ kinds, .markForOp ∈ kind.operations → .tag ∈ kind.operations) ∧
      (∀ kind ∈ kinds, ∀ name ∈ kind.deleteAfter, name ∈ kinds.map (·.typeName)) ∧
      ∀ name, ¬TransGen (Precedes kinds) name name) ∧
    (∀ error, ofKinds kinds = .error error ↔
      (∃ before kind after, kinds = before ++ kind :: after ∧ Flawless KindFault before ∧
        KindFault before kind error) ∨
      (Flawless KindFault kinds ∧
        ∃ e, Graph.orderByPrerequisites (followers kinds) = .error e ∧ error = .order e)) ∧
    ∀ catalog, ofKinds kinds = .ok catalog → ∀ name op kind, op.writesTags = true →
      catalog.require name op = .ok kind → ∃ shape, kind.tagShape = some shape := by
  refine ⟨?_, fun error => ofKinds_eq_error_iff, fun catalog h name op kind writes hrequire => ?_⟩
  · rw [ofKinds_succeeds_iff, ordered_iff, flawless_iff, and_assoc, and_assoc]
  · obtain ⟨hflawless, order, -, rfl⟩ := ofKinds_eq_ok_iff.1 h
    obtain ⟨hkind, supported⟩ := require_eq_ok hrequire
    have hshape := (flawless_iff.1 hflawless).2.1 kind hkind ⟨op, supported, writes⟩
    exact Option.ne_none_iff_exists'.1 hshape

/-- Two kinds that follow each other, one that can be marked and has no shape, and one that has the
name of another one. -/
def faultyKinds : List ResourceKind := [
  { typeName := "left", deleteAfter := ["right"] },
  { typeName := "right", deleteAfter := ["left"] },
  { typeName := "lens", tagShape := none, operations := [.markForOp] },
  { typeName := "left" }]

/-- The first of all these faults is the shape that is missing. Without it and what follows, only
the circle is in the way. -/
theorem ofKinds_verdict_faultyKinds :
    ofKinds faultyKinds = .error (.tagsWithoutShape "lens") ∧
    ofKinds (faultyKinds.take 2) = .error (.order (.cycle "right")) ∧
    Flawless KindFault (faultyKinds.take 2) ∧ ∃ catalog, ofKinds Aws.kinds = .ok catalog ∧
      catalog.require "aws.firewall" .markForOp = .ok Aws.firewall ∧
      ∃ shape, Aws.firewall.tagShape = some shape := by
  have hflawless : Flawless KindFault (faultyKinds.take 2) := flawless_iff.2 <| by
    simp [faultyKinds]
  have hcircle : Graph.orderByPrerequisites (followers (faultyKinds.take 2)) =
      .error (.cycle "right") := by
    cbv
  have hshapeless : KindFault (faultyKinds.take 2)
      { typeName := "lens", tagShape := none, operations := [.markForOp] }
      (.tagsWithoutShape "lens") :=
    .shapeless (by decide) ⟨.markForOp, .head _, rfl⟩ rfl
  obtain ⟨catalog, hcatalog⟩ : ∃ catalog, Aws.catalog = .ok catalog := ⟨_, Aws.catalog_eq⟩
  have hfound : catalog.require "aws.firewall" .markForOp = .ok Aws.firewall := by
    rw [require, get, Aws.kinds_of_catalog hcatalog]
    rfl
  refine ⟨((ofKinds_verdict _).2.1 _).2 (.inl ⟨_, _, _, rfl, hflawless, hshapeless⟩),
    ((ofKinds_verdict _).2.1 _).2 (.inr ⟨hflawless, _, hcircle, rfl⟩), hflawless, catalog,
    hcatalog, hfound, ?_⟩
  exact (ofKinds_verdict Aws.kinds).2.2 _ hcatalog _ .markForOp _ rfl hfound

end TagGovernance.Catalog
