import TagGovernance.Proofs.Batch.Work
import TagGovernance.Proofs.Provider.History
import TagGovernance.Proofs.Provider.TagReads

/-!
# A batch that is made again

Bringing tags to what is requested a second time does nothing but read them. What the first batch
brings about for a target is that a read of its tags finds no missing id any more, and finds tags as
they are requested if it finds any. This is not undone by the work for other targets, of whatever
kinds they are, and not by the work for the same resource under another name, as that finds nothing
to do. So at the end of the batch the request is met for all targets at once, and each one answers as
it did right after its own turn.
-/

namespace TagGovernance

def Outcome.repeated : Outcome → Outcome
  | applied => unchanged
  | outcome => outcome

theorem Outcome.repeated_of_error (error : ProviderError) :
    (ofResult (.error error)).repeated = ofResult (.error error) := by
  rw [ofResult]
  split <;> rfl

def BatchReport.repeated (report : BatchReport) : BatchReport :=
  { report with items := report.items.map fun item =>
      { item with outcome := item.outcome.repeated } }

namespace Batch

/-- The request for a target is met: no missing id stands in its way, and the tags that a read finds,
if it finds any, are as requested. -/
structure Met (add : TagSet) (remove : TagKeys) (p : Provider) (target : ResourceRef) : Prop where
  present : p.Present target
  wanted : ∀ tags, p.tagsFor target = .ok tags → reconcile tags add remove = tags

variable {p : Provider} {target other : ResourceRef} {targets : List ResourceRef} {add : TagSet}
  {remove : TagKeys}

theorem Met.of_same (h : Met add remove p other)
    (hkind : Catalog.bareName other.kind = Catalog.bareName target.kind)
    (hid : other.id = target.id) : Met add remove p target := by
  have hknown {kind : ResourceKind} (hk : p.kindOf target.kind = .ok kind) :
      p.kindOf other.kind = .ok kind :=
    Provider.kindOf_of_get (Catalog.get_of_bareName hkind (Fallible.mapError_eq_ok.1 hk))
  refine ⟨fun kind hk hpass => ?_, fun tags htags => ?_⟩
  · rw [← hid] at hpass ⊢
    exact h.present kind (hknown hk) hpass
  · obtain ⟨kind, shape, e, rest, hk, hpass, hnamed, hshape, hread⟩ :=
      Provider.tagsFor_eq_ok.1 htags
    rw [← hid] at hpass hnamed
    exact h.wanted tags
      (Provider.tagsFor_eq_ok.2 ⟨kind, shape, e, rest, hknown hk, hpass, hnamed, hshape, hread⟩)

theorem tagOne_of_met (h : Met add remove p target) :
    tagOne add remove p target = ((p.tagsFor target).map fun _ => .unchanged, p.asked [target]) := by
  have hget := Provider.getTags_of_present h.present
  cases htags : p.tagsFor target with
  | error error =>
    rw [htags] at hget
    rw [tagOne_of_error hget]
    rfl
  | ok tags =>
    rw [htags] at hget
    rw [tagOne_of_kept hget (h.wanted tags htags)]
    rfl

/-- The work for a target meets its request. What the target answers from then on is what the work
came to, but for tags that are applied already. -/
theorem tagOne_meets (clean : add.has "" = false) (remove : TagKeys) (p : Provider)
    (target : ResourceRef) : Met add remove (tagOne add remove p target).2 target ∧
      .ofResult (((tagOne add remove p target).2.tagsFor target).map fun _ => .unchanged) =
        (Outcome.ofResult (tagOne add remove p target).1).repeated := by
  obtain ⟨present, hagain⟩ := p.getTags_settles target
  rcases hget : p.getTags target with ⟨error | existing, q⟩ <;> rw [hget] at present hagain
  · rw [tagOne_of_error hget]
    refine ⟨⟨present, fun tags htags => ?_⟩, ?_⟩
    · cases hagain.symm.trans htags
    · exact hagain ▸ (Outcome.repeated_of_error error).symm
  · by_cases hkept : reconcile existing add remove = existing
    · rw [tagOne_of_kept hget hkept]
      refine ⟨⟨present, fun tags htags => ?_⟩, ?_⟩
      · obtain rfl := Except.ok.inj (hagain.symm.trans htags)
        exact hkept
      · exact hagain ▸ rfl
    · obtain ⟨kind, shape, e, rest, hk, hpass, hnamed, hshape, hread⟩ :=
        Provider.tagsFor_eq_ok.1 hagain
      have hlive : q.Live kind.typeName target.id := by
        rw [Provider.live_iff_named, hnamed]
        exact ⟨hpass, present kind hk hpass, List.cons_ne_nil e rest⟩
      have hput := Provider.putTags_of_live hk hshape hlive (reconcile existing add remove)
      have hempty : (reconcile existing add remove).has "" = false :=
        (has_reconcile (TagShape.decode_has_empty (Fallible.mapError_eq_ok.1 hread)) add remove).trans
          clean
      rw [tagOne_of_changed hget hkept hput]
      have hnew := Provider.tagsFor_written hk hpass hnamed hshape hempty
      refine ⟨⟨present, fun tags htags => ?_⟩, ?_⟩
      · obtain rfl := Except.ok.inj (hnew.symm.trans htags)
        exact reconcile_again existing add remove
      · exact hnew ▸ rfl

theorem tagOne_missing {id : String} (h : id ∈ (tagOne add remove p target).2.missing) :
    id ∈ p.missing := by
  have hread (hid : id ∈ (p.getTags target).2.missing) : id ∈ p.missing :=
    ((Provider.mem_missing_make p (.getTags target) id).1 hid).1
  unfold tagOne at h
  split at h <;> rename_i hget <;> rw [hget] at hread
  · exact hread h
  · rename_i q
    split at h
    · exact hread h
    · rename_i tags _
      have hwrite (hid : id ∈ (q.putTags target tags).2.missing) : id ∈ q.missing :=
        ((Provider.mem_missing_make q (.putTags target tags) id).1 hid).1
      split at h <;> rename_i hput <;> rw [hput] at hwrite <;> exact hread (hwrite h)

/-- A request that is met stays so under the work for any target, with the same answer. -/
theorem tagOne_keeps (h : Met add remove p other) (target : ResourceRef) :
    Met add remove (tagOne add remove p target).2 other ∧
      (tagOne add remove p target).2.tagsFor other = p.tagsFor other := by
  have hconfined := tagOne_confined add remove [] p target
  by_cases hsame : Catalog.bareName other.kind = Catalog.bareName target.kind ∧ other.id = target.id
  · -- The target names the same resource, so there is nothing to do for it.
    rw [tagOne_of_met (h.of_same hsame.1 hsame.2)]
    exact ⟨⟨h.present, h.wanted⟩, rfl⟩
  · have hkind : (tagOne add remove p target).2.kindOf other.kind = p.kindOf other.kind := by
      rw [Provider.kindOf, Provider.kindOf, hconfined.catalog]
    have hanswer : (tagOne add remove p target).2.tagsFor other = p.tagsFor other := by
      refine Provider.tagsFor_congr hconfined.catalog hconfined.ingest hconfined.errors ?_
      intro kind hk
      refine hconfined.named_eq ?_
      rw [Provider.typeName_of_kindOf hk, List.mem_singleton]
      exact not_and_or.1 hsame
    refine ⟨⟨fun kind hk hpass hmissing => ?_, fun tags htags => ?_⟩, hanswer⟩
    · have hpass : p.Passes other.id := by rwa [Provider.Passes, ← hconfined.errors]
      exact h.present kind (hkind ▸ hk) hpass (tagOne_missing hmissing)
    · exact h.wanted tags (hanswer ▸ htags)

def itemFor (p : Provider) (target : ResourceRef) : ReportItem :=
  ⟨target.id, .ofResult ((p.tagsFor target).map fun _ => .unchanged)⟩

theorem runItems_of_met (h : ∀ target ∈ targets, Met add remove p target) :
    runItems (tagOne add remove) p targets = (targets.map (itemFor p), p.asked targets) := by
  induction targets generalizing p with
  | nil => simp [runItems, Provider.asked]
  | cons target rest ih =>
    obtain ⟨hfirst, hrest⟩ := List.forall_mem_cons.1 h
    have hnext : ∀ t ∈ rest, Met add remove (p.asked [target]) t :=
      fun t ht => ⟨(hrest t ht).present, (hrest t ht).wanted⟩
    rw [runItems, tagOne_of_met hfirst]
    dsimp only
    rw [ih hnext, Provider.asked_append]
    rfl

/-- A batch meets the requests for all its targets. Each one answers in the end what it reported, but
for tags that are applied already. -/
theorem runItems_meets (clean : add.has "" = false) (remove : TagKeys) (p : Provider)
    (targets : List ResourceRef) :
    (∀ target ∈ targets, Met add remove (runItems (tagOne add remove) p targets).2 target) ∧
      targets.map (itemFor (runItems (tagOne add remove) p targets).2) =
        (runItems (tagOne add remove) p targets).1.map fun item =>
          { item with outcome := item.outcome.repeated } := by
  induction targets generalizing p with
  | nil => exact ⟨nofun, rfl⟩
  | cons target rest ih =>
    obtain ⟨hmet, houtcome⟩ := tagOne_meets clean remove p target
    let served := (tagOne add remove p target).2
    obtain ⟨hrest, hitems⟩ := ih served
    -- The rest of the batch keeps what the first target has come to.
    have hfirst : Met add remove (runItems (tagOne add remove) served rest).2 target ∧
        (runItems (tagOne add remove) served rest).2.tagsFor target = served.tagsFor target := by
      refine runItems_keeps (P := fun _ q => Met add remove q target ∧
        q.tagsFor target = served.tagsFor target) ⟨hmet, rfl⟩ ?_
      rintro _ q t - ⟨hq, hsame⟩
      obtain ⟨hkept, hstays⟩ := tagOne_keeps hq t
      exact ⟨hkept, hstays.trans hsame⟩
    refine ⟨List.forall_mem_cons.2 ⟨hfirst.1, hrest⟩, ?_⟩
    have hlast := congrArg (fun answer => Outcome.ofResult (answer.map fun _ => .unchanged)) hfirst.2
    exact congrArg₂ List.cons (congrArg (ReportItem.mk target.id) (hlast.trans houtcome)) hitems

/-- A batch that is made again reads the tags of each target of a known kind once and writes none: no
resource changes, and none is lost or found missing. It reports that tags are as they should be where
the first one applied them, and for every other target what the first one did. -/
theorem tagEach_again (clean : add.has "" = false) (remove : TagKeys) (p : Provider)
    (targets : List ResourceRef) :
    tagEach add remove (tagEach add remove p targets).2 targets =
      ((tagEach add remove p targets).1.repeated, (tagEach add remove p targets).2.asked targets) := by
  obtain ⟨hmet, hitems⟩ := runItems_meets clean remove p targets
  have hagain := runItems_of_met hmet
  rw [hitems] at hagain
  rw [tagEach, runEach, runEach, hagain]
  rfl

def mixedKinds : Flight where
  resources := [
    ("memorydb", [{
      listed := .obj [("ARN", .str "arn:a"), ("Name", .str "a")]
      tags := some (.arr [.obj [("Key", .str "owner"), ("Value", .str "policy")]]) }]),
    ("s3-access-point", [{
      listed := .obj [("Name", .str "p"), ("AccessPointArn", .str "arn:p")] }])]
  missing := ["b"]
  errors := [("c", ⟨"Throttling", "slow down"⟩)]

def mixedTargets : List ResourceRef :=
  [⟨"memorydb", "a", none⟩, ⟨"aws.memorydb", "a", none⟩, ⟨"memorydb", "b", none⟩,
    ⟨"memorydb", "c", none⟩, ⟨"s3-access-point", "p", none⟩, ⟨"nowhere", "a", none⟩]

theorem tagEach_again_mixedKinds : ∃ catalog start,
    Aws.catalog = .ok catalog ∧ Provider.ofFlight catalog mixedKinds .strict = .ok start ∧
    (TagSet.ofList [("env", "dev")]).has "" = false ∧
    (tagEach (.ofList [("env", "dev")]) ["owner"] start mixedTargets).1.items.map (·.outcome.name) =
      ["applied", "unchanged", "not-found", "failed", "failed", "failed"] ∧
    tagEach (.ofList [("env", "dev")]) ["owner"]
        (tagEach (.ofList [("env", "dev")]) ["owner"] start mixedTargets).2 mixedTargets =
      ((tagEach (.ofList [("env", "dev")]) ["owner"] start mixedTargets).1.repeated,
        (tagEach (.ofList [("env", "dev")]) ["owner"] start mixedTargets).2.asked mixedTargets) :=
  ⟨_, _, Aws.catalog_eq, rfl, rfl, rfl, tagEach_again rfl ["owner"] _ mixedTargets⟩

end Batch

end TagGovernance
