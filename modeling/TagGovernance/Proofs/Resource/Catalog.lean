import Mathlib.Data.List.Permutation
import TagGovernance.Proofs.Fallible
import TagGovernance.Resource.Aws

/-!
# Kinds in a catalog

A kind is looked up by its bare name. In a steady catalog every kind is found under its own name,
and what providers attach to records never hides the fields that references are read from. The
catalog of AWS kinds is steady.
-/

namespace TagGovernance

namespace ResourceKind

/-- The fields of a record that its reference is read from. -/
def refKeys (kind : ResourceKind) : List String :=
  (Text.pieces '.' kind.idPath).take 1 ++
    (kind.arnPath.map fun path => (Text.pieces '.' path).take 1).getD []

end ResourceKind

namespace Catalog

theorem get_eq_ok {catalog : Catalog} {name : String} {kind : ResourceKind}
    (h : catalog.get name = .ok kind) : kind ∈ catalog.kinds ∧ kind.typeName = bareName name := by
  unfold get at h
  split at h
  · rename_i found hfound
    obtain rfl := Except.ok.inj h
    exact ⟨List.mem_of_find?_eq_some hfound, by simpa using List.find?_some hfound⟩
  · simp at h

theorem get_eq_error {catalog : Catalog} {name : String} {error : CatalogError}
    (h : catalog.get name = .error error) : error = .unknownKind name := by
  unfold get at h
  split at h
  · simp at h
  · exact (Except.error.inj h).symm

theorem get_of_bareName {catalog : Catalog} {name other : String} {kind : ResourceKind}
    (h : bareName other = bareName name) (hk : catalog.get name = .ok kind) :
    catalog.get other = .ok kind := by
  unfold get at hk ⊢
  rw [h]
  split at hk
  · exact hk
  · simp at hk

theorem ofKinds_eq_ok {kinds : List ResourceKind} {order : List String}
    (hfault : firstFault? [] kinds = none)
    (horder : Graph.orderByPrerequisites (kinds.map fun k => (k.typeName, k.deleteAfter)) =
      .ok order) : ofKinds kinds = .ok ⟨kinds, order⟩ := by
  rw [ofKinds, hfault, horder]
  rfl

def shapeOf (catalog : Catalog) (kind : String) : Option TagShape :=
  (catalog.kinds.find? fun k => k.typeName = kind).bind (·.tagShape)

theorem shapeOf_typeName {catalog : Catalog} {name : String} {kind : ResourceKind}
    (h : catalog.get name = .ok kind) : catalog.shapeOf kind.typeName = kind.tagShape := by
  rw [shapeOf, (get_eq_ok h).2]
  unfold get at h
  split at h
  · rename_i found hfound
    obtain rfl := Except.ok.inj h
    rw [hfound]
    rfl
  · simp at h

def attachedKeys : List String :=
  ["Tags", Annotation.logging.key, Annotation.policy.key, "DeleteProtection"]

/-- A catalog that finds its kinds under their own names, and whose records show their references
whatever is attached to them. -/
structure Steady (catalog : Catalog) : Prop where
  found : ∀ kind ∈ catalog.kinds, catalog.get kind.typeName = .ok kind
  visible : ∀ kind ∈ catalog.kinds, ∀ key ∈ kind.refKeys, key ∉ attachedKeys

namespace Steady

variable {catalog : Catalog}

theorem bareName_typeName (h : catalog.Steady) {kind : ResourceKind} (hk : kind ∈ catalog.kinds) :
    bareName kind.typeName = kind.typeName := (get_eq_ok (h.found kind hk)).2.symm

theorem get_typeName (h : catalog.Steady) {name : String} {kind : ResourceKind}
    (hk : catalog.get name = .ok kind) : catalog.get kind.typeName = .ok kind :=
  h.found kind (get_eq_ok hk).1

end Steady

end Catalog

namespace Aws

theorem catalog_eq : catalog = .ok ⟨kinds, ["memorydb-snapshot", "memorydb", "memorydb-acl",
    "memorydb-user", "globalaccelerator", "bedrock-knowledge-base", "bedrock-custom-model",
    "s3-storage-lens", "s3-access-point-multi", "s3-access-point", "firewall"]⟩ :=
  Catalog.ofKinds_eq_ok (by decide +kernel) (by cbv)

theorem kinds_of_catalog {c : Catalog} (h : catalog = .ok c) : c.kinds = kinds := by
  rw [catalog_eq] at h
  exact (Except.ok.inj h) ▸ rfl

theorem steady {c : Catalog} (h : catalog = .ok c) : c.Steady := by
  have hkinds := kinds_of_catalog h
  constructor
  · have found : ∀ kind ∈ kinds, kinds.find? (fun k => k.typeName = Catalog.bareName kind.typeName) =
        some kind := by decide +kernel
    intro kind hk
    rw [Catalog.get, hkinds, found kind (hkinds ▸ hk)]
  · rw [hkinds]
    decide +kernel

/-- Only kinds with tags can be tagged and marked. -/
theorem tagShape_of_supports {c : Catalog} (h : catalog = .ok c) {kind : ResourceKind}
    (hk : kind ∈ c.kinds) {op : Operation} (hop : op.writesTags = true)
    (supported : kind.supports op = true) : ∃ shape, kind.tagShape = some shape := by
  have shaped : ∀ kind ∈ kinds, ∀ op ∈ Operation.all, op.writesTags = true →
      kind.supports op = true → kind.tagShape.isSome = true := by
    decide +kernel
  exact Option.isSome_iff_exists.1
    (shaped kind (kinds_of_catalog h ▸ hk) op op.mem_all hop supported)

end Aws

end TagGovernance
