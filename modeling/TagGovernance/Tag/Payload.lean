import TagGovernance.Failure
import TagGovernance.Tag.Reconcile

/-!
# Reconciling a payload

A payload goes in as the provider writes it and comes out in the same shape, with the tags that the
resource should have and the news whether they differ from those it has.
-/

namespace TagGovernance

structure ReconciledPayload where
  changed : Bool
  /-- The tags in the shape of the payload. -/
  tags : Json

namespace ReconciledPayload

def toJson (p : ReconciledPayload) : Json :=
  .ofFields [("changed", .bool p.changed), ("tags", p.tags)]

end ReconciledPayload

namespace TagShape

def reconcile (shape : TagShape) (raw : Json) (ingest : Ingest) (add : TagSet) (remove : TagKeys) :
    Except Failure ReconciledPayload := do
  let existing ← during .existingTags ((shape.decode raw ingest).mapError .ingest)
  let result := TagGovernance.reconcile existing add remove
  .ok ⟨result ≠ existing, shape.encode result⟩

end TagShape

end TagGovernance
