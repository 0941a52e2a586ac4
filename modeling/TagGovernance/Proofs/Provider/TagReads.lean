import TagGovernance.Proofs.Provider.Named

/-!
# Reads of tags

A read of tags does nothing to a resource, but it uses up the missing id that it is asked for, and
the resources of its kind with this id. That happens once: if no missing id stands in the way, a read
only shows in the log, and it answers from the first resource of its kind with its id. So a read that
is made again answers the same.
-/

namespace TagGovernance.Provider

/-- A provider after reads of the tags of some targets. A read is logged if its kind is known. -/
def asked (p : Provider) (targets : List ResourceRef) : Provider :=
  { p with calls := p.calls ++
      (targets.filter fun t => (p.catalog.get t.kind).isOk).map fun t =>
        ⟨.getTags, t.kind, t.id, p.sessions⟩ }

def tagsFor (p : Provider) (target : ResourceRef) : Except ProviderError TagSet :=
  match p.kindOf target.kind with
  | .error e => .error e
  | .ok kind =>
    match Keyed.find? target.id p.errors with
    | some e => .error (.ofCode e.code e.text)
    | none =>
      match p.named kind.typeName target.id with
      | [] => .error (notFoundText kind target.id)
      | e :: _ => do p.tagsOf (← shapeOf kind target) e

/-- No missing id stands in the way of calls on a target. -/
def Present (p : Provider) (target : ResourceRef) : Prop :=
  ∀ kind, p.kindOf target.kind = .ok kind → p.Passes target.id → target.id ∉ p.missing

variable {p q : Provider} {target : ResourceRef} {kind : ResourceKind} {e : Entry}
  {rest : List Entry} {tags : TagSet}

theorem tagsFor_failing (hk : p.kindOf target.kind = .ok kind) {error : RecordedError}
    (h : Keyed.find? target.id p.errors = some error) :
    p.tagsFor target = .error (.ofCode error.code error.text) := by
  simp only [tagsFor, hk, h]

theorem tagsFor_absent (hk : p.kindOf target.kind = .ok kind) (hpass : p.Passes target.id)
    (h : p.named kind.typeName target.id = []) :
    p.tagsFor target = .error (notFoundText kind target.id) := by
  rw [tagsFor, hk]
  dsimp only
  rw [hpass]
  dsimp only
  rw [h]

theorem tagsFor_found (hk : p.kindOf target.kind = .ok kind) (hpass : p.Passes target.id)
    (h : p.named kind.typeName target.id = e :: rest) :
    p.tagsFor target = shapeOf kind target >>= fun shape => p.tagsOf shape e := by
  rw [tagsFor, hk]
  dsimp only
  rw [hpass]
  dsimp only
  rw [h]

theorem tagsFor_eq_ok : p.tagsFor target = .ok tags ↔ ∃ kind shape e rest,
    p.kindOf target.kind = .ok kind ∧ p.Passes target.id ∧
      p.named kind.typeName target.id = e :: rest ∧ kind.tagShape = some shape ∧
      p.tagsOf shape e = .ok tags := by
  constructor
  · intro h
    cases hk : p.kindOf target.kind with
    | error error => simp [tagsFor, hk] at h
    | ok kind =>
      cases herror : Keyed.find? target.id p.errors with
      | some error => simp [tagsFor_failing hk herror] at h
      | none =>
        cases hnamed : p.named kind.typeName target.id with
        | nil => simp [tagsFor_absent hk herror hnamed] at h
        | cons e rest =>
          rw [tagsFor_found hk herror hnamed] at h
          cases hshape : kind.tagShape with
          | none => simp [shapeOf, hshape] at h
          | some shape =>
            rw [shapeOf, hshape] at h
            exact ⟨kind, shape, e, rest, rfl, herror, hnamed, hshape, h⟩
  · rintro ⟨kind, shape, e, rest, hk, hpass, hnamed, hshape, htags⟩
    rw [tagsFor_found hk hpass hnamed, shapeOf, hshape, Fallible.ok_bind, htags]

theorem tagsFor_congr (hcatalog : q.catalog = p.catalog) (hingest : q.ingest = p.ingest)
    (herrors : q.errors = p.errors) (hnamed : ∀ kind, p.kindOf target.kind = .ok kind →
      q.named kind.typeName target.id = p.named kind.typeName target.id) :
    q.tagsFor target = p.tagsFor target := by
  have hkind : q.kindOf target.kind = p.kindOf target.kind := by rw [kindOf, kindOf, hcatalog]
  have htags : q.tagsOf = p.tagsOf := by
    funext shape e
    rw [tagsOf, tagsOf, hingest]
  unfold tagsFor
  rw [hkind, herrors, htags]
  cases hk : p.kindOf target.kind with
  | error error => rfl
  | ok kind => simp only [hnamed kind hk]

theorem tagsFor_written (hk : p.kindOf target.kind = .ok kind) (hpass : p.Passes target.id)
    (hnamed : p.named kind.typeName target.id = e :: rest) {shape : TagShape}
    (hshape : kind.tagShape = some shape) (clean : tags.has "" = false) :
    ((p.log .putTags target).modify kind.typeName target.id (Entry.written shape tags)).tagsFor
      target = .ok tags := by
  refine tagsFor_eq_ok.2 ⟨kind, shape, e.written shape tags, rest, hk, hpass, ?_, hshape, ?_⟩
  · have htarget (e : Entry) : (e.written shape tags).target = e.target := rfl
    refine (named_modify htarget ..).trans ((if_pos ⟨rfl, rfl⟩).trans ?_)
    exact congrArg (List.modifyHead _) hnamed
  · rw [tagsOf, Entry.written, Option.getD_some, TagShape.decode_encode, clean]
    rfl

theorem asked_append (p : Provider) (targets others : List ResourceRef) :
    (p.asked targets).asked others = p.asked (targets ++ others) := by
  simp [asked]

theorem asked_known (hk : p.kindOf target.kind = .ok kind) :
    p.asked [target] = p.log .getTags target := by
  have hget : p.catalog.get target.kind = .ok kind := Fallible.mapError_eq_ok.1 hk
  simp [asked, log, hget, Except.isOk, Except.toBool]

theorem asked_unknown {error : ProviderError} (hk : p.kindOf target.kind = .error error) :
    p.asked [target] = p := by
  cases hget : p.catalog.get target.kind with
  | ok kind => simp [kindOf, hget] at hk
  | error e => simp [asked, hget, Except.isOk, Except.toBool]

/-- A read that no missing id stands in the way of answers from what is there, and is only logged. -/
theorem getTags_of_present (present : p.Present target) :
    p.getTags target = (p.tagsFor target, p.asked [target]) := by
  cases hk : p.kindOf target.kind with
  | error error => simp only [getTags, tagsFor, hk, asked_unknown hk]
  | ok kind =>
    rw [asked_known hk]
    cases herror : Keyed.find? target.id p.errors with
    | some error =>
      have hgate := gate_failing (p := p.log .getTags target) kind herror
      simp only [getTags, tagsFor_failing hk herror, hk, hgate]
    | none =>
      have hmissing := present kind hk herror
      cases hnamed : p.named kind.typeName target.id with
      | nil =>
        have hgate := gate_absent (p := p.log .getTags target) herror hmissing hnamed
        simp only [getTags, tagsFor_absent hk herror hnamed, hk, hgate]
      | cons e rest =>
        have hgate := gate_found (p := p.log .getTags target) herror hmissing hnamed
        simp only [getTags, tagsFor_found hk herror hnamed, hk, hgate]
        rfl

/-- After a read no missing id stands in the way of the next one, which answers the same. -/
theorem getTags_settles (p : Provider) (target : ResourceRef) :
    (p.getTags target).2.Present target ∧
      (p.getTags target).2.tagsFor target = (p.getTags target).1 := by
  by_cases present : p.Present target
  · rw [getTags_of_present present]
    exact ⟨present, rfl⟩
  · simp only [Present, not_forall, not_not] at present
    obtain ⟨kind, hk, hpass, hmissing⟩ := present
    have hgate := gate_missing (p := p.log .getTags target) kind hpass hmissing
    have hnone : ((p.log .getTags target).remove kind.typeName target.id).named kind.typeName
        target.id = [] := (named_remove ..).trans (if_pos ⟨rfl, rfl⟩)
    simp only [getTags, hk, hgate]
    refine ⟨fun _ _ _ hmem => ?_, tagsFor_absent hk hpass hnone⟩
    exact of_decide_eq_true (List.mem_filter.1 hmem).2 rfl

end TagGovernance.Provider
