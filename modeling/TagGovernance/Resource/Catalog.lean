import TagGovernance.Resource.Error
import TagGovernance.Resource.Kind

/-!
# Catalogs of kinds

The kinds that a program knows, checked once: names differ, tag actions need a tag shape, marking
needs tagging, and the kinds can be ordered so that no resource is deleted before one that it
depends on.
-/

namespace TagGovernance

structure Catalog where
  kinds : List ResourceKind
  /-- Names of the kinds in an order in which their resources can be deleted. -/
  deletionOrder : List String

namespace Catalog

/-- What is wrong with a kind that comes behind kinds with the names `seen`. -/
def fault? (seen : List String) (kind : ResourceKind) : Option CatalogError :=
  if kind.typeName ∈ seen then some (.duplicateKind kind.typeName)
  else if kind.tagShape.isNone ∧ kind.operations.any Operation.writesTags then
    some (.tagsWithoutShape kind.typeName)
  else if kind.supports .markForOp ∧ ¬kind.supports .tag then
    some (.marksWithoutTags kind.typeName)
  else none

/-- The first fault of a list of kinds. -/
def firstFault? (seen : List String) : List ResourceKind → Option CatalogError
  | [] => none
  | kind :: rest =>
    match fault? seen kind with
    | some e => some e
    | none => firstFault? (kind.typeName :: seen) rest

def ofKinds (kinds : List ResourceKind) : Except CatalogError Catalog :=
  match firstFault? [] kinds with
  | some e => .error e
  | none => do
    let order ← (Graph.orderByPrerequisites (kinds.map fun k => (k.typeName, k.deleteAfter))).mapError
      .order
    .ok ⟨kinds, order⟩

/-- A kind's name may be given with the name of its cloud before it. -/
def bareName (name : String) : String := (Text.afterStart? "aws." name).getD name

def get (catalog : Catalog) (name : String) : Except CatalogError ResourceKind :=
  match catalog.kinds.find? (fun k => k.typeName = bareName name) with
  | some kind => .ok kind
  | none => .error (.unknownKind name)

/-- The kind with this name, if it supports an operation. -/
def require (catalog : Catalog) (name : String) (op : Operation) :
    Except CatalogError ResourceKind := do
  let kind ← catalog.get name
  if kind.supports op then .ok kind else .error (.unsupported kind.typeName op)

/-- All kinds in deletion order. -/
def toJson (catalog : Catalog) : Json :=
  let kinds := catalog.deletionOrder.filterMap fun name => (catalog.get name).toOption
  .ofFields [("kinds", .arr (kinds.map ResourceKind.toJson))]

end Catalog

end TagGovernance
