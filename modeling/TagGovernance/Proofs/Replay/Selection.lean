import TagGovernance.Proofs.Policy.Selection
import TagGovernance.Replay.Run

/-!
# What a request selects

The filters of a request become one policy. What it selects are the enumerated resources, in their
order, that pass each filter that was asked for.
-/

namespace TagGovernance

/-- A resource with these tags passes everything that a request asks for. -/
structure ReplayRequest.Admits (r : ReplayRequest) (now : Instant) (d : Described) (tags : TagSet) :
    Prop where
  filters : ∀ text ∈ r.filters, ∃ f, TagFilter.ofText text = .ok f ∧ f.accepts tags = true
  logging : r.logging ≠ [] → ∃ destinations,
    d.2.field? Annotation.logging.key = some (.arr destinations) ∧
      ∃ destination ∈ destinations, ∀ wanted ∈ r.logging,
        destination.path? wanted.1 = some (.str wanted.2)
  crossAccount : r.crossAccount = true →
    CrossAccountFilter.accepts ⟨r.allowedAccounts⟩ d.1 d.2 = true
  marked : ∀ action, r.markedFor = some action →
    MarkedFilter.accepts { action, skewDays := r.skewDays } tags now = true

namespace ReplayRequest

variable {r : ReplayRequest} {now : Instant}

theorem accepts_logging_iff {record : Json} : ListItemFilter.accepts
      { key := Annotation.logging.key, attrs := r.logging.map fun a => (a.1, .str a.2) } record =
        true ↔
    ∃ destinations, record.field? Annotation.logging.key = some (.arr destinations) ∧
      ∃ destination ∈ destinations, ∀ wanted ∈ r.logging,
        destination.path? wanted.1 = some (.str wanted.2) := by
  rw [ListItemFilter.accepts_iff rfl]
  simp only [List.forall_mem_map, Json.same_str_iff, exists_eq_right]

/-- The policy of a request lets through just what the request admits. -/
theorem passes_policy_iff {policy : Policy} (h : r.policy = .ok policy) (d : Described)
    (tags : TagSet) : policy.passes now d tags = true ↔ r.Admits now d tags := by
  obtain ⟨filters, hfilters, h⟩ := Fallible.bind_eq_ok.1 h
  obtain rfl := Except.ok.inj h
  have htags : (filters.map Filter.tag).all (fun f => f.accepts d.1 d.2 tags now) = true ↔
      ∀ text ∈ r.filters, ∃ f, TagFilter.ofText text = .ok f ∧ f.accepts tags = true := by
    rw [List.all_map, List.all_eq_true, ← Fallible.forall_mapM hfilters]
    rfl
  unfold Policy.passes
  rw [List.all_append, List.all_append, List.all_append, Bool.and_eq_true, Bool.and_eq_true,
    Bool.and_eq_true, htags]
  constructor
  · rintro ⟨⟨⟨hfilters, hlogging⟩, hcross⟩, hmarked⟩
    refine ⟨hfilters, fun hasked => ?_, fun hasked => ?_, fun action hasked => ?_⟩
    · exact accepts_logging_iff.1 (by simpa [hasked, Filter.accepts] using hlogging)
    · simpa [hasked, Filter.accepts] using hcross
    · simpa [hasked, Filter.accepts] using hmarked
  · rintro ⟨hfilters, hlogging, hcross, hmarked⟩
    refine ⟨⟨⟨hfilters, ?_⟩, ?_⟩, ?_⟩
    · split
      · rfl
      · rename_i hasked
        have haccepts := accepts_logging_iff.2 (hlogging (by simpa using hasked))
        simpa [Filter.accepts] using haccepts
    · split
      · rename_i hasked
        simpa [Filter.accepts] using hcross hasked
      · rfl
    · split
      · rename_i action hasked
        simpa [Filter.accepts] using hmarked action hasked
      · rfl

/-- The selected resources are the enumerated ones that the request admits, in their order. -/
theorem selection_eq_ok {p : Provider} {kind : ResourceKind} {selected : List ResourceRef}
    (h : r.selection p now = .ok (kind, selected)) :
    ∃ (resources : List Described) (passes : Described → Bool),
      p.resources kind.typeName = .ok resources ∧
      (∀ d, passes d = true ↔ ∃ tags, Policy.recordTags d.2 = .ok tags ∧ r.Admits now d tags) ∧
      selected = (resources.filter passes).map Prod.fst := by
  obtain ⟨found, -, h⟩ := Fallible.bind_eq_ok.1 h
  obtain ⟨policy, hpolicy, h⟩ := Fallible.bind_eq_ok.1 h
  obtain ⟨resources, hresources, h⟩ := Fallible.bind_eq_ok.1 h
  obtain ⟨chosen, hchosen, h⟩ := Fallible.bind_eq_ok.1 h
  obtain ⟨rfl, rfl⟩ := Prod.mk.inj (Except.ok.inj h)
  refine ⟨resources, policy.admits now, hresources, fun d => ?_, Policy.select_eq_filter hchosen⟩
  unfold Policy.admits
  cases hread : Policy.recordTags d.2 with
  | error e => simp
  | ok tags => simp [passes_policy_iff hpolicy]

end ReplayRequest

end TagGovernance
