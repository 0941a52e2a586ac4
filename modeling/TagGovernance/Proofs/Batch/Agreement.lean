import TagGovernance.Proofs.Batch.Tagging
import TagGovernance.Proofs.Provider.Answered
import TagGovernance.Proofs.Tag.Reconciled

/-!
# A batch and a payload on its own

A payload can be reconciled on its own or where it is stored, by a batch. The first decides whether
the tags differ and writes them in their shape; the second plans a write from what it reads and
leaves the writing to the provider. They come to the same: the batch stores what the payload becomes,
and leaves a payload that is as requested in the form that it has.
-/

namespace TagGovernance

namespace ReconciledPayload

def outcome (payload : ReconciledPayload) : Outcome :=
  if payload.changed then .applied else .unchanged

/-- An entry with the payload in the place of what is stored, if the tags differ. -/
def storedIn (payload : ReconciledPayload) (e : Entry) : Entry :=
  if payload.changed then { e with recording := { e.recording with tags := some payload.tags } }
  else e

variable {payload : ReconciledPayload}

theorem outcome_of_changed (h : payload.changed = true) : payload.outcome = .applied := if_pos h

theorem outcome_of_kept (h : payload.changed = false) : payload.outcome = .unchanged :=
  if_neg (Bool.eq_false_iff.1 h)

theorem storedIn_of_changed (h : payload.changed = true) (e : Entry) : payload.storedIn e =
    { e with recording := { e.recording with tags := some payload.tags } } := if_pos h

theorem storedIn_of_kept (h : payload.changed = false) (e : Entry) : payload.storedIn e = e :=
  if_neg (Bool.eq_false_iff.1 h)

end ReconciledPayload

variable {shape : TagShape} {raw : Json} {ingest : Ingest} {existing add : TagSet} {remove : TagKeys}
  {payload : ReconciledPayload}

namespace Batch

variable {p : Provider} {target : ResourceRef} {kind : ResourceKind} {before after : List Entry}
  {e : Entry}

theorem tagEach_singleton (add : TagSet) (remove : TagKeys) (p : Provider) (target : ResourceRef) :
    tagEach add remove p [target] =
      (⟨tagAction add, [⟨target.id, .ofResult (tagOne add remove p target).1⟩]⟩,
        (tagOne add remove p target).2) := rfl

section Found

variable (known : p.kindOf target.kind = .ok kind) (shaped : kind.tagShape = some shape)
  (found : p.Finds kind.typeName target.id before e after) (passes : p.Passes target.id)
  (present : target.id ∉ p.missing)

include known shaped found passes present

/-- The work for a target makes of its stored payload what the payload becomes on its own. -/
theorem tagOne_of_finds (hread : shape.decode (e.recording.tags.getD .null) p.ingest = .ok existing)
    (hpayload : shape.reconcile (e.recording.tags.getD .null) p.ingest add remove = .ok payload) :
    tagOne add remove p target = (.ok payload.outcome,
      { p with
        entries := before ++ payload.storedIn e :: after
        calls := p.calls ++ Retagging.callsFor p.sessions target payload.outcome }) := by
  have hget := Provider.Finds.getTags known shaped found passes present hread
  rw [TagShape.reconcile_of_decode hread] at hpayload
  obtain rfl := Except.ok.inj hpayload
  by_cases hkept : reconcile existing add remove = existing
  · have hsame : decide (reconcile existing add remove ≠ existing) = false := by simp [hkept]
    rw [tagOne_of_kept hget hkept, ReconciledPayload.outcome_of_kept hsame,
      ReconciledPayload.storedIn_of_kept hsame, ← found.entries]
    rfl
  · have hchanged : decide (reconcile existing add remove ≠ existing) = true := decide_eq_true hkept
    have hput := Provider.putTags_of_live (p := p.log .getTags target) known shaped
      (found.live passes present) (reconcile existing add remove)
    have hwritten := found.modify (Entry.written shape (reconcile existing add remove))
      ((p.log .getTags target).log .putTags target).calls
    rw [tagOne_of_changed hget hkept (hput.trans (congrArg _ hwritten)),
      ReconciledPayload.outcome_of_changed hchanged, ReconciledPayload.storedIn_of_changed hchanged]
    refine congrArg (Prod.mk _) ?_
    rw [Provider.log, Provider.log, List.append_assoc]
    rfl

/-- A batch on one resource and the payload of the resource on its own agree, whatever the payload
looks like. The batch reports that tags were applied just if the payload changed, and stores the
payload that it changed to; otherwise it writes nothing, and what was stored stays in its form. -/
theorem tagEach_agrees (add : TagSet) (remove : TagKeys)
    (hread : shape.decode (e.recording.tags.getD .null) p.ingest = .ok existing) :
    ∃ payload, shape.reconcile (e.recording.tags.getD .null) p.ingest add remove = .ok payload ∧
      tagEach add remove p [target] =
        (⟨tagAction add, [⟨target.id, payload.outcome⟩]⟩,
          { p with
            entries := before ++ payload.storedIn e :: after
            calls := p.calls ++ Retagging.callsFor p.sessions target payload.outcome }) := by
  have hpayload := TagShape.reconcile_of_decode hread add remove
  refine ⟨_, hpayload, ?_⟩
  rw [tagEach_singleton, tagOne_of_finds known shaped found passes present hread hpayload]
  rfl

end Found

/-- A cluster whose tags are out of order. One key comes twice, and one has no value. -/
def untidyCluster : Flight where
  resources := [("memorydb", [{
    listed := .obj [("ARN", .str "arn:a"), ("Name", .str "a")]
    tags := some (.arr [.obj [("Key", .str "owner"), ("Value", .str "nobody")],
      .obj [("Key", .str "env")], .obj [("Key", .str "owner"), ("Value", .str "policy")]]) }])]

theorem tagEach_agrees_untidyCluster : ∃ catalog start e,
    Aws.catalog = .ok catalog ∧ Provider.ofFlight catalog untidyCluster .lastWins = .ok start ∧
    start.kindOf "aws.memorydb" = .ok Aws.memorydb ∧ Aws.memorydb.tagShape = some .pascal ∧
    start.Finds "memorydb" "a" [] e [] ∧ start.Passes "a" ∧ "a" ∉ start.missing ∧
    TagShape.pascal.decode (e.recording.tags.getD .null) start.ingest =
      .ok (.ofList [("env", ""), ("owner", "policy")]) ∧
    (TagShape.pascal.reconcile (e.recording.tags.getD .null) start.ingest
      (.ofList [("owner", "policy")]) ["due"]).map (·.changed) = .ok false ∧
    ∃ payload, TagShape.pascal.reconcile (e.recording.tags.getD .null) start.ingest
        (.ofList [("owner", "policy")]) ["due"] = .ok payload ∧
      tagEach (.ofList [("owner", "policy")]) ["due"] start [⟨"aws.memorydb", "a", none⟩] =
        (⟨"tag", [⟨"a", payload.outcome⟩]⟩,
          { start with
            entries := [payload.storedIn e]
            calls := Retagging.callsFor 0 ⟨"aws.memorydb", "a", none⟩ payload.outcome }) := by
  refine ⟨_, _, _, Aws.catalog_eq, rfl, rfl, rfl, ⟨rfl, rfl, nofun⟩, rfl, nofun, rfl, rfl, ?_⟩
  refine tagEach_agrees rfl rfl (?_ : Provider.Finds _ _ _ [] _ []) ?_ ?_ _ _
    (?_ : _ = Except.ok (.ofList [("env", ""), ("owner", "policy")]))
  · exact ⟨rfl, rfl, nofun⟩
  · rfl
  · exact List.not_mem_nil
  · rfl

end Batch

end TagGovernance
