import TagGovernance.Proofs.Batch.Work
import TagGovernance.Proofs.Provider.History

/-!
# What a batch of deletions leaves

A batch reports for every target that it was deleted, that it was gone already, or that the call
failed. The resources of the first two are not enumerated any more, and no others are lost, with one
exception: an error that was recorded for an id ends every call on it, and leaves the resources where
they are even if it says that they are not found.
-/

namespace TagGovernance

def Outcome.isGone : Outcome → Bool
  | applied | notFound => true
  | _ => false

namespace Provider

variable {p q : Provider} {kind : ResourceKind} {name : String} {target : ResourceRef}

def ofKind (p : Provider) (kind : ResourceKind) : List Entry :=
  p.entries.filter fun e => e.target.kind = kind.typeName

/-- What an enumeration shows for an entry: its record, and the reference that is read from it. -/
def Displays (p : Provider) (kind : ResourceKind) (e : Entry) (d : ResourceRef × Json) : Prop :=
  p.recordOf kind e = .ok d.2 ∧ kind.refOf d.2 = .ok d.1

theorem resources_displays (hk : p.catalog.get name = .ok kind) {shown : List (ResourceRef × Json)} :
    p.resources name = .ok shown ↔ List.Forall₂ (p.Displays kind) (p.ofKind kind) shown := by
  have href (record : Json) (d : ResourceRef × Json) :
      ((kind.refOf record).mapError Failure.record >>= fun target => .ok (target, record)) = .ok d ↔
        record = d.2 ∧ kind.refOf d.2 = .ok d.1 := by
    rw [Fallible.bind_eq_ok]
    simp only [Fallible.mapError_eq_ok]
    constructor
    · rintro ⟨target, htarget, hd⟩
      obtain rfl := Except.ok.inj hd
      exact ⟨rfl, htarget⟩
    · rintro ⟨rfl, htarget⟩
      exact ⟨d.1, htarget, rfl⟩
  unfold resources list
  rw [hk, kindOf_of_get hk]
  simp only [Fallible.mapError_ok, Fallible.ok_bind, Fallible.mapError_mapError]
  rw [Fallible.bind_eq_ok]
  simp only [Fallible.mapError_eq_ok]
  rw [Fallible.mapM_then_eq_ok]
  simp only [href, ← and_assoc, exists_and_right, exists_eq_right]
  rfl

theorem Sound.ref_of_displays (hp : p.Sound) (hk : p.catalog.get name = .ok kind) {e : Entry}
    (he : e ∈ p.ofKind kind) {d : ResourceRef × Json} (h : p.Displays kind e d) :
    d.1 = e.target := by
  obtain ⟨hmem, hkind⟩ := List.mem_filter.1 he
  have hfound : p.catalog.get e.target.kind = .ok kind := by
    rw [of_decide_eq_true hkind]
    exact hp.steady.get_typeName hk
  obtain ⟨render, hrender, href⟩ := hp.recordOf hmem hfound
  obtain ⟨hrecord, hshown⟩ := h
  obtain ⟨tags, -, hd⟩ := Fallible.map_eq_ok.1 (hrender.symm.trans hrecord)
  rw [← hd, href tags] at hshown
  exact (Except.ok.inj hshown).symm

/-- An entry that a batch took away, by what it reported for its targets: one of them names the
entry and was reported as gone, and no error was recorded for its id. -/
def Takes (p : Provider) (served : List (ResourceRef × ReportItem)) (e : Entry) : Prop :=
  p.Passes e.target.id ∧ ∃ s ∈ served, s.2.outcome.isGone = true ∧
    e.isFor (Catalog.bareName s.1.kind) s.1.id = true

instance (p : Provider) (served : List (ResourceRef × ReportItem)) (e : Entry) :
    Decidable (p.Takes served e) := inferInstanceAs (Decidable (_ ∧ _))

theorem takes_cons {s : ResourceRef × ReportItem} {served : List (ResourceRef × ReportItem)}
    {e : Entry} : p.Takes (s :: served) e ↔ p.Takes [s] e ∨ p.Takes served e := by
  simp only [Takes, List.exists_mem_cons_iff, List.not_mem_nil, false_and, exists_false, or_false,
    ← and_or_left]

theorem takes_congr (h : q.errors = p.errors) (served : List (ResourceRef × ReportItem))
    (e : Entry) : q.Takes served e ↔ p.Takes served e := by
  rw [Takes, Takes, Passes, Passes, h]

theorem delete_unknown {error : ProviderError} (hk : p.kindOf target.kind = .error error) :
    p.delete target = (.error error, p.log .delete target) ∧ error.isNotFound = false := by
  have hlog : (p.log .delete target).kindOf target.kind = .error error := hk
  refine ⟨by simp only [delete, hlog], ?_⟩
  cases hget : p.catalog.get target.kind with
  | error e =>
    rw [kindOf, hget] at hk
    obtain rfl := Except.error.inj hk
    rfl
  | ok kind => simp [kindOf, hget] at hk

theorem delete_failing (hk : p.kindOf target.kind = .ok kind) {error : RecordedError}
    (h : Keyed.find? target.id p.errors = some error) :
    p.delete target = (.error (.ofCode error.code error.text), p.log .delete target) := by
  have hlog : (p.log .delete target).kindOf target.kind = .ok kind := hk
  simp only [delete, hlog, gate_failing (p := p.log .delete target) kind h]

/-- A deletion that no recorded error ends takes all resources of its kind with its id away, and
succeeds or finds nothing. -/
theorem delete_passing (hk : p.kindOf target.kind = .ok kind) (hpass : p.Passes target.id) :
    ((p.delete target).1 = .ok () ∨ ∃ text, (p.delete target).1 = .error (.notFound text)) ∧
      (p.delete target).2.entries = p.entries.filter fun e => !e.isFor kind.typeName target.id := by
  have hlog : (p.log .delete target).kindOf target.kind = .ok kind := hk
  simp only [delete, hlog]
  by_cases hmissing : target.id ∈ p.missing
  · rw [gate_missing (p := p.log .delete target) kind hpass hmissing]
    exact ⟨.inr ⟨_, rfl⟩, rfl⟩
  · cases hnamed : p.named kind.typeName target.id with
    | nil =>
      rw [gate_absent (p := p.log .delete target) hpass hmissing hnamed]
      refine ⟨.inr ⟨_, rfl⟩, ?_⟩
      have hnone := List.filter_eq_nil_iff.1 hnamed
      exact (List.filter_eq_self.2 fun e he => by simpa using hnone e he).symm
    | cons e rest =>
      rw [gate_found (p := p.log .delete target) hpass hmissing hnamed]
      exact ⟨.inl rfl, rfl⟩

end Provider

namespace Batch

variable {p : Provider} {target : ResourceRef} {targets : List ResourceRef}

theorem deleteOne_eq (p : Provider) (target : ResourceRef) :
    deleteOne p target = ((p.delete target).1.map fun _ => .applied, (p.delete target).2) := by
  unfold deleteOne
  split <;> rename_i h <;> rw [h] <;> rfl

def deletionItem (p : Provider) (target : ResourceRef) : ReportItem :=
  ⟨target.id, .ofResult (deleteOne p target).1⟩

/-- A target is reported as gone if its kind is in the catalog and no error was recorded for its id
but one that says so. -/
theorem isGone_deletionItem (p : Provider) (target : ResourceRef) :
    (deletionItem p target).outcome.isGone = true ↔ ∃ kind, p.kindOf target.kind = .ok kind ∧
      ∀ error, Keyed.find? target.id p.errors = some error →
        (ProviderError.ofCode error.code error.text).isNotFound = true := by
  rw [deletionItem, deleteOne_eq]
  cases hk : p.kindOf target.kind with
  | error error =>
    obtain ⟨hdelete, hother⟩ := Provider.delete_unknown hk
    rw [hdelete]
    simp [Except.map, Outcome.ofResult, hother, Outcome.isGone]
  | ok kind =>
    cases herror : Keyed.find? target.id p.errors with
    | some error =>
      rw [Provider.delete_failing hk herror]
      cases hfound : (ProviderError.ofCode error.code error.text).isNotFound <;>
        simp [Except.map, Outcome.ofResult, hfound, Outcome.isGone]
    | none =>
      obtain ⟨hresult | ⟨text, hresult⟩, -⟩ := Provider.delete_passing hk herror <;>
        simp [hresult, Except.map, Outcome.ofResult, ProviderError.isNotFound, Outcome.isGone]

/-- A deletion takes the entries away that its target names, if the target is reported as gone and no
error was recorded. -/
theorem deleteOne_entries (p : Provider) (target : ResourceRef) :
    (deleteOne p target).2.entries =
      p.entries.filter fun e => ¬p.Takes [(target, deletionItem p target)] e := by
  have hgone := isGone_deletionItem p target
  have hkept (h : ∀ e ∈ p.entries, ¬p.Takes [(target, deletionItem p target)] e) :
      p.entries = p.entries.filter fun e => ¬p.Takes [(target, deletionItem p target)] e :=
    (List.filter_eq_self.2 fun e he => decide_eq_true (h e he)).symm
  rw [deleteOne_eq]
  cases hk : p.kindOf target.kind with
  | error error =>
    rw [(Provider.delete_unknown hk).1]
    refine hkept fun e _ ⟨_, s, hs, hreported, _⟩ => ?_
    obtain rfl := List.mem_singleton.1 hs
    obtain ⟨kind, hkind, -⟩ := hgone.1 hreported
    cases hk.symm.trans hkind
  | ok kind =>
    cases herror : Keyed.find? target.id p.errors with
    | some error =>
      rw [Provider.delete_failing hk herror]
      refine hkept fun e _ ⟨hpass, s, hs, _, hfor⟩ => ?_
      obtain rfl := List.mem_singleton.1 hs
      rw [Provider.Passes, (Entry.isFor_iff.1 hfor).2, herror] at hpass
      cases hpass
    | none =>
      obtain ⟨-, hentries⟩ := Provider.delete_passing hk herror
      have hreported := hgone.2 ⟨kind, hk, by simp [herror]⟩
      rw [hentries, Provider.typeName_of_kindOf hk]
      refine List.filter_congr fun e _ => ?_
      cases hfor : e.isFor (Catalog.bareName target.kind) target.id with
      | false => simp [Provider.Takes, hfor]
      | true =>
        have hpass : p.Passes e.target.id := (Entry.isFor_iff.1 hfor).2 ▸ herror
        simp [Provider.Takes, hfor, hreported, hpass]

theorem deleteOne_kept (p : Provider) (target : ResourceRef) :
    (deleteOne p target).2.catalog = p.catalog ∧ (deleteOne p target).2.errors = p.errors :=
  ⟨(deleteOne_confined [] p target).catalog, (deleteOne_confined [] p target).errors⟩

def deletions (p : Provider) (targets : List ResourceRef) : List (ResourceRef × ReportItem) :=
  targets.zip (runItems deleteOne p targets).1

theorem deletions_cons (p : Provider) (target : ResourceRef) (rest : List ResourceRef) :
    deletions p (target :: rest) =
      (target, deletionItem p target) :: deletions (deleteOne p target).2 rest := rfl

theorem deletions_entries (p : Provider) (targets : List ResourceRef) :
    (runItems deleteOne p targets).2.entries =
      p.entries.filter fun e => ¬p.Takes (deletions p targets) e := by
  induction targets generalizing p with
  | nil => simp [deletions, runItems, Provider.Takes]
  | cons target rest ih =>
    have hrest := ih (deleteOne p target).2
    rw [deleteOne_entries, List.filter_filter] at hrest
    refine hrest.trans (List.filter_congr fun e _ => ?_)
    have hsame := Provider.takes_congr (deleteOne_kept p target).2
      (deletions (deleteOne p target).2 rest) e
    have hboth : p.Takes (deletions p (target :: rest)) e ↔
        p.Takes [(target, deletionItem p target)] e ∨
          p.Takes (deletions (deleteOne p target).2 rest) e := Provider.takes_cons
    simp only [hsame, hboth, not_or, Bool.decide_and, Bool.and_comm]

/-- Whether a target is reported as gone is decided by the catalog and the recorded errors. -/
theorem isGone_deletions {s : ResourceRef × ReportItem} (hs : s ∈ deletions p targets) :
    s.2.outcome.isGone = true ↔ ∃ kind, p.kindOf s.1.kind = .ok kind ∧
      ∀ error, Keyed.find? s.1.id p.errors = some error →
        (ProviderError.ofCode error.code error.text).isNotFound = true := by
  induction targets generalizing p with
  | nil => cases hs
  | cons target rest ih =>
    rw [deletions_cons] at hs
    rcases List.mem_cons.1 hs with rfl | hs
    · exact isGone_deletionItem p target
    · obtain ⟨hcatalog, herrors⟩ := deleteOne_kept p target
      rw [ih hs, Provider.kindOf, Provider.kindOf, hcatalog, herrors]

/-- What a target that is reported as gone names is there after the batch just if it was there before
it and a recorded error says that it is not found. -/
theorem named_after_deletions {s : ResourceRef × ReportItem} (hs : s ∈ deletions p targets)
    (hgone : s.2.outcome.isGone = true) :
    (∃ e ∈ (runItems deleteOne p targets).2.entries,
      e.isFor (Catalog.bareName s.1.kind) s.1.id = true) ↔
    (∃ e ∈ p.entries, e.isFor (Catalog.bareName s.1.kind) s.1.id = true) ∧
      ∃ error, Keyed.find? s.1.id p.errors = some error ∧
        (ProviderError.ofCode error.code error.text).isNotFound = true := by
  rw [deletions_entries]
  constructor
  · rintro ⟨e, he, hfor⟩
    obtain ⟨hmem, hleft⟩ := List.mem_filter.1 he
    refine ⟨⟨e, hmem, hfor⟩, ?_⟩
    obtain ⟨kind, -, hfound⟩ := (isGone_deletions hs).1 hgone
    cases herror : Keyed.find? s.1.id p.errors with
    | some error => exact ⟨error, rfl, hfound error herror⟩
    | none =>
      have hpass : p.Passes e.target.id := (Entry.isFor_iff.1 hfor).2 ▸ herror
      exact absurd ⟨hpass, s, hs, hgone, hfor⟩ (of_decide_eq_true hleft)
  · rintro ⟨⟨e, hmem, hfor⟩, error, herror, -⟩
    refine ⟨e, List.mem_filter.2 ⟨hmem, decide_eq_true fun ⟨hpass, _⟩ => ?_⟩, hfor⟩
    rw [Provider.Passes, (Entry.isFor_iff.1 hfor).2, herror] at hpass
    cases hpass

/-- After a batch of deletions a kind is enumerated without the entries that were taken away. -/
theorem resources_after_deletions {name : String} {kind : ResourceKind}
    (hk : p.catalog.get name = .ok kind) {shown : List (ResourceRef × Json)} :
    (runItems deleteOne p targets).2.resources name = .ok shown ↔
      List.Forall₂ (p.Displays kind)
        ((p.ofKind kind).filter fun e => ¬p.Takes (deletions p targets) e) shown := by
  have hkept : (runItems deleteOne p targets).2.catalog = p.catalog ∧
      (runItems deleteOne p targets).2.recordOf kind = p.recordOf kind := by
    refine runItems_keeps (P := fun _ q => q.catalog = p.catalog ∧ q.recordOf kind = p.recordOf kind)
      ⟨rfl, rfl⟩ fun _ q target _ ⟨hcatalog, hrecord⟩ => ?_
    have hstep := deleteOne_confined [] q target
    exact ⟨hstep.catalog.trans hcatalog, (hstep.recordOf kind).trans hrecord⟩
  have hentries : (runItems deleteOne p targets).2.ofKind kind =
      (p.ofKind kind).filter fun e => ¬p.Takes (deletions p targets) e := by
    rw [Provider.ofKind, Provider.ofKind, deletions_entries, List.filter_filter, List.filter_filter]
    simp only [Bool.and_comm]
  have hdisplays : (runItems deleteOne p targets).2.Displays kind = p.Displays kind := by
    funext e d
    rw [Provider.Displays, Provider.Displays, hkept.2]
  rw [Provider.resources_displays (hkept.1.symm ▸ hk), hentries, hdisplays]

/-- What a batch of deletions leaves of what was enumerated before it, after any calls on the
provider of a flight. If a target is reported as gone, the resources that it names are not there any
more, unless an error was recorded for the id that says that they are gone. Every other entry of every
kind is enumerated as before. In a steady catalog the references that an enumeration shows are those
that calls go by, as long as no call has set a field that they are read from. -/
theorem deleteEach_leaves {catalog : Catalog} {flight : Flight} {ingest : Ingest}
    {start q : Provider} {calls : List ClientCall} {report : BatchReport}
    (h : Provider.ofFlight catalog flight ingest = .ok start) (hp : start.Becomes calls p)
    (hrun : deleteEach p targets = (report, q)) :
    (report.items.map (·.resource) = targets.map (·.id)) ∧
    (∀ s ∈ targets.zip report.items, s.2.outcome.isGone = true →
      ((∃ e ∈ q.entries, e.isFor (Catalog.bareName s.1.kind) s.1.id = true) ↔
        (∃ e ∈ p.entries, e.isFor (Catalog.bareName s.1.kind) s.1.id = true) ∧
          ∃ error, Keyed.find? s.1.id flight.errors = some error ∧
            (ProviderError.ofCode error.code error.text).isNotFound = true)) ∧
    ∀ name kind, catalog.get name = .ok kind →
      (∀ shown, p.resources name = .ok shown ↔
        List.Forall₂ (p.Displays kind) (p.ofKind kind) shown) ∧
      (∀ shown, q.resources name = .ok shown ↔ List.Forall₂ (p.Displays kind)
        ((p.ofKind kind).filter fun e => ¬p.Takes (targets.zip report.items) e) shown) ∧
      (catalog.Steady → (∀ call ∈ calls, call.KeepsRefs catalog) →
        ∀ e ∈ p.ofKind kind, ∀ d, p.Displays kind e d → d.1 = e.target) := by
  obtain ⟨rfl, rfl⟩ := Prod.mk.inj hrun
  have hcatalog : p.catalog = catalog := hp.catalog.trans (Provider.ofFlight_catalog h)
  have herrors : p.errors = flight.errors := hp.errors.trans (Provider.ofFlight_recorded h).2
  refine ⟨runItems_resource .., fun s hs hgone => ?_, fun name kind hk => ⟨?_, ?_, ?_⟩⟩
  · rw [← herrors]
    exact named_after_deletions hs hgone
  · intro shown
    exact Provider.resources_displays (hcatalog ▸ hk)
  · intro shown
    exact resources_after_deletions (hcatalog ▸ hk)
  · intro hsteady keepsRefs e he d hd
    have hstart : start.Sound := Provider.ofFlight_sound hsteady h
    have hsound := hp.sound hstart ((Provider.ofFlight_catalog h).symm ▸ keepsRefs)
    exact hsound.ref_of_displays (hcatalog ▸ hk) he hd

/-- Three clusters, of which one is missing and for one it was recorded that it is not found. -/
def goneClusters : Flight where
  resources := [("memorydb", ["a", "b", "c"].map fun id => { listed := .obj [("Name", .str id)] })]
  missing := ["c"]
  errors := [("a", ⟨"ClusterNotFoundFault", "gone"⟩)]

def goneTargets : List ResourceRef :=
  [⟨"memorydb", "a", none⟩, ⟨"memorydb", "b", none⟩, ⟨"aws.memorydb", "c", none⟩,
    ⟨"memorydb", "b", none⟩]

theorem deleteEach_leaves_goneClusters : ∃ catalog start report q,
    Aws.catalog = .ok catalog ∧ Provider.ofFlight catalog goneClusters .strict = .ok start ∧
    start.Becomes [] start ∧ deleteEach start goneTargets = (report, q) ∧
    report.items = [⟨"a", .notFound⟩, ⟨"b", .applied⟩, ⟨"c", .notFound⟩, ⟨"b", .notFound⟩] ∧
    (∃ e ∈ q.entries, e.isFor "memorydb" "a" = true) ∧
    (¬∃ e ∈ q.entries, e.isFor "memorydb" "b" = true) ∧
    ¬∃ e ∈ q.entries, e.isFor "memorydb" "c" = true := by
  obtain ⟨order, hcatalog⟩ : ∃ order, Aws.catalog = .ok ⟨Aws.kinds, order⟩ := ⟨_, Aws.catalog_eq⟩
  have hstart : Provider.ofFlight ⟨Aws.kinds, order⟩ goneClusters .strict = .ok _ := rfl
  have hrun {p : Provider} : deleteEach p goneTargets = (_, _) := rfl
  obtain ⟨-, hnamed, -⟩ := deleteEach_leaves hstart .start hrun
  refine ⟨_, _, _, _, hcatalog, hstart, .start, hrun, rfl, ?_, ?_, ?_⟩
  · refine (hnamed (⟨"memorydb", "a", none⟩, ⟨"a", .notFound⟩) List.mem_cons_self rfl).2 ⟨?_, ?_⟩
    · exact ⟨_, List.mem_cons_self, rfl⟩
    · exact ⟨_, rfl, rfl⟩
  · intro hb
    obtain ⟨-, error, herror, -⟩ := (hnamed (⟨"memorydb", "b", none⟩, ⟨"b", .applied⟩)
      (List.mem_cons_of_mem _ List.mem_cons_self) rfl).1 hb
    cases herror
  · intro hc
    obtain ⟨-, error, herror, -⟩ := (hnamed (⟨"aws.memorydb", "c", none⟩, ⟨"c", .notFound⟩)
      (List.mem_cons_of_mem _ (List.mem_cons_of_mem _ List.mem_cons_self)) rfl).1 hc
    cases herror

/-- A cluster whose deletion is reported as not found is still enumerated. -/
theorem not_found_enumerated : ∃ catalog start report q shown,
    Aws.catalog = .ok catalog ∧ Provider.ofFlight catalog goneClusters .strict = .ok start ∧
    deleteEach start [⟨"memorydb", "a", none⟩] = (report, q) ∧
    report.items = [⟨"a", .notFound⟩] ∧ q.resources "memorydb" = .ok shown ∧
    ⟨"memorydb", "a", none⟩ ∈ shown.map (·.1) :=
  ⟨_, _, _, _, _, Aws.catalog_eq, rfl, rfl, rfl, rfl, List.mem_cons_self⟩

end Batch

end TagGovernance
