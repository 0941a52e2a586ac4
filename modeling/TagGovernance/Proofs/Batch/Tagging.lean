import TagGovernance.Proofs.Batch.Readable
import TagGovernance.Proofs.Provider.Named
import TagGovernance.Proofs.Provider.Reached
import TagGovernance.Proofs.Tag.Reconcile

/-!
# What a batch makes of tags

Bringing the tags of a resource to what is requested is done once and for all: tags that were
brought there stay, and what is not found the first time is not found later. So a batch does the
same to a provider whether or not ids come up again among its targets, and the outcome for a target
can be told from the provider at the beginning and the ids of the targets before it.
-/

namespace TagGovernance

/-- A request for the tags of resources of one kind. The kind has tags, and none with the empty key
is added. -/
structure Retagging where
  kind : ResourceKind
  shape : TagShape
  shaped : kind.tagShape = some shape
  add : TagSet
  clean : add.has "" = false
  remove : TagKeys

namespace Retagging

def wanted (w : Retagging) (existing : TagSet) : TagSet := reconcile existing w.add w.remove

/-- An entry with the requested tags. What is stored is left alone if the tags are so already. -/
def entry (w : Retagging) (ingest : Ingest) (e : Entry) : Entry :=
  match w.shape.decode (e.recording.tags.getD .null) ingest with
  | .error _ => e
  | .ok existing =>
    if w.wanted existing = existing then e else e.written w.shape (w.wanted existing)

/-- What becomes of a target with this id behind targets with some ids. -/
def outcome (w : Retagging) (p : Provider) (earlier : List String) (id : String) : Outcome :=
  match Keyed.find? id p.errors with
  | some e => .ofResult (.error (.ofCode e.code e.text))
  | none =>
    if id ∈ p.missing then .notFound
    else match p.named w.kind.typeName id with
      | [] => .notFound
      | e :: _ => match p.tagsOf w.shape e with
        | .error e => .failed e
        | .ok existing =>
          if id ∉ earlier ∧ w.wanted existing ≠ existing then .applied else .unchanged

def items (w : Retagging) (p : Provider) (earlier : List String) :
    List ResourceRef → List ReportItem
  | [] => []
  | target :: rest =>
    ⟨target.id, w.outcome p earlier target.id⟩ :: w.items p (earlier ++ [target.id]) rest

def callsFor (sessions : Nat) (target : ResourceRef) (outcome : Outcome) : List Call :=
  ⟨.getTags, target.kind, target.id, sessions⟩ ::
    if outcome = .applied then [⟨.putTags, target.kind, target.id, sessions⟩] else []

def calls (sessions : Nat) : List ResourceRef → List ReportItem → List Call
  | target :: targets, item :: items =>
    callsFor sessions target item.outcome ++ calls sessions targets items
  | _, _ => []

/-- A provider after the request for the resources with some ids. Those that are missing are gone,
of the others the first one with each id has the requested tags, and nothing else is new. -/
structure Done (w : Retagging) (p : Provider) (ids : List String) (q : Provider) : Prop where
  rest : q = { p with entries := q.entries, missing := q.missing, calls := q.calls }
  missing : q.missing = p.missing.filter fun id => ¬(p.Passes id ∧ id ∈ ids)
  /-- The resources stand in the same order. -/
  refs : q.refs = p.refs.filter fun r =>
    ¬(r.kind = w.kind.typeName ∧ p.Passes r.id ∧ r.id ∈ ids ∧ r.id ∈ p.missing)
  named : ∀ name id, q.named name id =
    if name = w.kind.typeName ∧ p.Passes id ∧ id ∈ ids then
      if id ∈ p.missing then [] else (p.named name id).modifyHead (w.entry p.ingest)
    else p.named name id

variable {w : Retagging} {p q r : Provider} {ids : List String} {id : String} {e : Entry}
  {ingest : Ingest} {existing : TagSet} {target : ResourceRef}

theorem entry_target (w : Retagging) (ingest : Ingest) (e : Entry) :
    (w.entry ingest e).target = e.target := by
  unfold entry
  split
  · rfl
  · split <;> rfl

theorem entry_rest (w : Retagging) (ingest : Ingest) (e : Entry) : w.entry ingest e =
    { e with recording := { e.recording with tags := (w.entry ingest e).recording.tags } } := by
  unfold entry
  split
  · rfl
  · split <;> rfl

theorem wanted_wanted (w : Retagging) (existing : TagSet) :
    w.wanted (w.wanted existing) = w.wanted existing := reconcile_again existing w.add w.remove

theorem entry_of_unreadable {error : IngestError}
    (h : w.shape.decode (e.recording.tags.getD .null) ingest = .error error) :
    w.entry ingest e = e := by
  rw [entry, h]

theorem entry_of_wanted (h : w.shape.decode (e.recording.tags.getD .null) ingest = .ok existing)
    (hwanted : w.wanted existing = existing) : w.entry ingest e = e := by
  rw [entry, h]
  exact if_pos hwanted

theorem entry_of_changed (h : w.shape.decode (e.recording.tags.getD .null) ingest = .ok existing)
    (hchanged : w.wanted existing ≠ existing) :
    w.entry ingest e = e.written w.shape (w.wanted existing) := by
  rw [entry, h]
  exact if_neg hchanged

theorem decode_entry (h : w.shape.decode (e.recording.tags.getD .null) ingest = .ok existing) :
    w.shape.decode ((w.entry ingest e).recording.tags.getD .null) ingest =
      .ok (w.wanted existing) := by
  by_cases hwanted : w.wanted existing = existing
  · rw [entry_of_wanted h hwanted, h, hwanted]
  · have hclean : (w.wanted existing).has "" = false :=
      (has_reconcile (TagShape.decode_has_empty h) w.add w.remove).trans w.clean
    rw [entry_of_changed h hwanted, Entry.written, Option.getD_some, TagShape.decode_encode, hclean]
    rfl

/-- Requesting tags again does nothing. -/
theorem entry_entry (w : Retagging) (ingest : Ingest) (e : Entry) :
    w.entry ingest (w.entry ingest e) = w.entry ingest e := by
  cases h : w.shape.decode (e.recording.tags.getD .null) ingest with
  | error error => rw [entry_of_unreadable h, entry_of_unreadable h]
  | ok existing => exact entry_of_wanted (decode_entry h) (w.wanted_wanted existing)

section Outcome

variable {rest : List Entry}

theorem outcome_failing {error : RecordedError} (h : Keyed.find? id p.errors = some error) :
    w.outcome p ids id = .ofResult (.error (.ofCode error.code error.text)) := by
  rw [outcome, h]

variable (hpass : p.Passes id)

include hpass

theorem outcome_missing (h : id ∈ p.missing) : w.outcome p ids id = .notFound := by
  rw [outcome, hpass]
  exact if_pos h

variable (hmissing : id ∉ p.missing)

include hmissing

theorem outcome_absent (h : p.named w.kind.typeName id = []) :
    w.outcome p ids id = .notFound := by
  rw [outcome, hpass]
  dsimp only
  rw [if_neg hmissing, h]

theorem outcome_unreadable (h : p.named w.kind.typeName id = e :: rest) {error : ProviderError}
    (htags : p.tagsOf w.shape e = .error error) : w.outcome p ids id = .failed error := by
  rw [outcome, hpass]
  dsimp only
  rw [if_neg hmissing, h]
  dsimp only
  rw [htags]

theorem outcome_read (ids : List String) (h : p.named w.kind.typeName id = e :: rest)
    (htags : p.tagsOf w.shape e = .ok existing) : w.outcome p ids id =
      if id ∉ ids ∧ w.wanted existing ≠ existing then .applied else .unchanged := by
  rw [outcome, hpass]
  dsimp only
  rw [if_neg hmissing, h]
  dsimp only
  rw [htags]

end Outcome

namespace Done

theorem refl (w : Retagging) (p : Provider) : w.Done p [] p where
  rest := rfl
  missing := by simp
  refs := by simp
  named _ _ := by simp

private theorem of_kept (entries : List Entry) {calls : List Call}
    (hmissing : p.Passes id → id ∉ p.missing)
    (hrefs : Provider.refs { p with entries } = p.refs)
    (hnamed : ∀ name i, Provider.named { p with entries } name i =
      if name = w.kind.typeName ∧ p.Passes i ∧ i = id then
        (p.named name i).modifyHead (w.entry p.ingest)
      else p.named name i) :
    w.Done p [id] { p with entries, calls } where
  rest := rfl
  missing := by
    refine (List.filter_eq_self.2 fun i hi => decide_eq_true ?_).symm
    rintro ⟨hpass, hid⟩
    obtain rfl := List.mem_singleton.1 hid
    exact hmissing hpass hi
  refs := by
    refine hrefs.trans (List.filter_eq_self.2 fun r _ => decide_eq_true ?_).symm
    rintro ⟨-, hpass, hid, hgone⟩
    obtain rfl := List.mem_singleton.1 hid
    exact hmissing hpass hgone
  named name i := by
    refine (hnamed name i).trans ?_
    simp only [List.mem_singleton]
    split
    · rename_i htouched
      obtain ⟨-, hpass, rfl⟩ := htouched
      rw [if_neg (hmissing hpass)]
    · rfl

/-- Nothing is done for a resource with a recorded error, or if the first one has the requested tags
already. -/
theorem of_still {calls : List Call}
    (h : p.Passes id → id ∉ p.missing ∧
      (p.named w.kind.typeName id).modifyHead (w.entry p.ingest) = p.named w.kind.typeName id) :
    w.Done p [id] { p with calls } := by
  refine of_kept p.entries (fun hpass => (h hpass).1) rfl fun name i => ?_
  split
  · rename_i htouched
    obtain ⟨rfl, hpass, rfl⟩ := htouched
    exact (h hpass).2.symm
  · rfl

theorem of_modified {calls : List Call} (hpass : p.Passes id) (hmissing : id ∉ p.missing)
    {change : Entry → Entry} (htarget : ∀ e, (change e).target = e.target)
    (h : (p.named w.kind.typeName id).modifyHead change =
      (p.named w.kind.typeName id).modifyHead (w.entry p.ingest)) :
    w.Done p [id] { p.modify w.kind.typeName id change with calls } := by
  have hrefs := Provider.refs_modify htarget p w.kind.typeName id
  refine of_kept _ (fun _ => hmissing) hrefs fun name i => ?_
  refine (Provider.named_modify htarget p w.kind.typeName id name i).trans ?_
  by_cases hi : name = w.kind.typeName ∧ i = id
  · obtain ⟨rfl, rfl⟩ := hi
    rw [if_pos ⟨rfl, rfl⟩, if_pos ⟨rfl, hpass, rfl⟩, h]
  · rw [if_neg hi, if_neg fun htouched => hi ⟨htouched.1, htouched.2.2⟩]

theorem of_missing {calls : List Call} (hpass : p.Passes id) (h : id ∈ p.missing) :
    w.Done p [id]
      { p.remove w.kind.typeName id with missing := p.missing.filter (· ≠ id), calls } where
  rest := rfl
  missing := by
    refine List.filter_congr fun i _ => ?_
    by_cases hi : i = id
    · simp [hi, hpass]
    · simp [hi]
  refs := by
    refine (Provider.refs_remove p w.kind.typeName id).trans (List.filter_congr fun r _ => ?_)
    by_cases hr : r.id = id
    · simp [hr, hpass, h]
    · simp [hr]
  named name i := by
    refine (Provider.named_remove p w.kind.typeName id name i).trans ?_
    by_cases hi : name = w.kind.typeName ∧ i = id
    · obtain ⟨rfl, rfl⟩ := hi
      simp [hpass, h]
    · rw [if_neg hi, if_neg fun htouched => hi ⟨htouched.1, List.mem_singleton.1 htouched.2.2⟩]

theorem passes_iff (h : w.Done p ids q) (id : String) : q.Passes id ↔ p.Passes id := by
  rw [h.rest]
  rfl

theorem tagsOf_eq (h : w.Done p ids q) : q.tagsOf = p.tagsOf := by
  rw [h.rest]
  rfl

theorem mem_missing (h : w.Done p ids q) (id : String) :
    id ∈ q.missing ↔ id ∈ p.missing ∧ (p.Passes id → id ∉ ids) := by
  rw [h.missing, List.mem_filter, decide_eq_true_eq, not_and]

theorem trans (h : w.Done p ids q) (h' : w.Done q [id] r) :
    w.Done p (ids ++ [id]) r := by
  constructor
  · rw [h'.rest, h.rest]
  · rw [h'.missing, h.missing, List.filter_filter]
    refine List.filter_congr fun i _ => ?_
    simp only [h.passes_iff, List.mem_append]
    grind
  · rw [h'.refs, h.refs, List.filter_filter]
    refine List.filter_congr fun r _ => ?_
    simp only [h.passes_iff, h.mem_missing, List.mem_append]
    grind
  · have hingest : q.ingest = p.ingest := by rw [h.rest]
    have hagain (entries : List Entry) :
        (entries.modifyHead (w.entry p.ingest)).modifyHead (w.entry p.ingest) =
          entries.modifyHead (w.entry p.ingest) := by
      cases entries <;> simp [entry_entry]
    intro name i
    rw [h'.named, h.named, hingest]
    simp only [h.passes_iff, h.mem_missing, List.mem_append, List.mem_singleton]
    by_cases htouched : name = w.kind.typeName ∧ p.Passes i
    · obtain ⟨rfl, hpass⟩ := htouched
      by_cases hi : i = id
      · subst hi
        by_cases hids : i ∈ ids
        · by_cases hmissing : i ∈ p.missing <;> simp [hpass, hids, hmissing, hagain]
        · simp [hpass, hids]
      · simp [hi]
    · simp only [← and_assoc, htouched, false_and, if_false]

end Done

private theorem outcome_first (h : w.Done p ids q) (hids : id ∉ ids) :
    w.outcome q [] id = w.outcome p ids id := by
  have herrors : q.errors = p.errors := by rw [h.rest]
  have htags := h.tagsOf_eq
  have hmissing : id ∈ q.missing ↔ id ∈ p.missing :=
    (h.mem_missing id).trans (and_iff_left fun _ => hids)
  have hnamed := h.named w.kind.typeName id
  rw [if_neg fun htouched => hids htouched.2.2] at hnamed
  unfold outcome
  simp only [herrors, htags, hmissing, hnamed, hids, List.not_mem_nil]

/-- A resource that calls get through to is not written to again, and is not missing any more. -/
private theorem outcome_again (h : w.Done p ids q) (hids : id ∈ ids) (hpass : p.Passes id) :
    w.outcome q [] id = w.outcome p ids id := by
  have htags := h.tagsOf_eq
  have hpass' : q.Passes id := (h.passes_iff id).2 hpass
  have hmissing' : id ∉ q.missing := fun hmissing => ((h.mem_missing id).1 hmissing).2 hpass hids
  have hnamed := h.named w.kind.typeName id
  rw [if_pos ⟨rfl, hpass, hids⟩] at hnamed
  by_cases hmissing : id ∈ p.missing
  · rw [if_pos hmissing] at hnamed
    rw [outcome_missing hpass hmissing, outcome_absent hpass' hmissing' hnamed]
  · rw [if_neg hmissing] at hnamed
    cases hp : p.named w.kind.typeName id with
    | nil =>
      rw [hp] at hnamed
      rw [outcome_absent hpass hmissing hp, outcome_absent hpass' hmissing' hnamed]
    | cons e rest =>
      rw [hp, List.modifyHead_cons] at hnamed
      cases hread : w.shape.decode (e.recording.tags.getD .null) p.ingest with
      | error error =>
        have hold : p.tagsOf w.shape e = .error (.validation error.message) := by
          rw [Provider.tagsOf, hread, Fallible.mapError_error]
        rw [entry_of_unreadable hread] at hnamed
        rw [outcome_unreadable hpass hmissing hp hold,
          outcome_unreadable hpass' hmissing' hnamed (htags ▸ hold)]
      | ok existing =>
        have hold : p.tagsOf w.shape e = .ok existing := by
          rw [Provider.tagsOf, hread, Fallible.mapError_ok]
        have hnew : q.tagsOf w.shape (w.entry p.ingest e) = .ok (w.wanted existing) := by
          rw [htags, Provider.tagsOf, decode_entry hread, Fallible.mapError_ok]
        rw [outcome_read hpass hmissing ids hp hold, outcome_read hpass' hmissing' [] hnamed hnew,
          if_neg fun hchanged => hchanged.2 (w.wanted_wanted existing),
          if_neg fun hchanged => hchanged.1 hids]

/-- The outcome for a target can be told from the provider at the beginning. -/
theorem outcome_of_done (h : w.Done p ids q) (id : String) :
    w.outcome q [] id = w.outcome p ids id := by
  by_cases hids : id ∈ ids
  · cases herror : Keyed.find? id p.errors with
    | some error =>
      have herrors : q.errors = p.errors := by rw [h.rest]
      rw [outcome_failing herror, outcome_failing (herrors ▸ herror)]
    | none => exact outcome_again h hids herror
  · exact outcome_first h hids

/-- What the work for one target makes of a provider, with the calls that it logs. -/
structure Served (w : Retagging) (p : Provider) (target : ResourceRef)
    (reply : Provider.Reply Outcome) : Prop where
  outcome : .ofResult reply.1 = w.outcome p [] target.id
  done : w.Done p [target.id] reply.2
  calls : reply.2.calls = p.calls ++ callsFor p.sessions target (w.outcome p [] target.id)

theorem ofResult_error_ne (error : ProviderError) :
    Outcome.ofResult (.error error) ≠ .applied := by
  dsimp only [Outcome.ofResult]
  split <;> nofun

private theorem served_of_error {error : ProviderError}
    (hget : p.getTags target = (.error error, q))
    (houtcome : .ofResult (.error error) = w.outcome p [] target.id)
    (hdone : w.Done p [target.id] q)
    (hcalls : q.calls = p.calls ++ [⟨.getTags, target.kind, target.id, p.sessions⟩]) :
    w.Served p target (Batch.tagOne w.add w.remove p target) := by
  rw [Batch.tagOne_of_error hget]
  refine ⟨houtcome, hdone, ?_⟩
  rw [hcalls, callsFor, if_neg (houtcome ▸ ofResult_error_ne error)]

section Work

variable (hk : p.kindOf target.kind = .ok w.kind)

include hk

theorem getTags_of_gate_error {error : ProviderError}
    (hgate : (p.log .getTags target).gate w.kind target.id = (.error error, q)) :
    p.getTags target = (.error error, q) := by
  simp only [Provider.getTags, hk, hgate]

theorem getTags_of_gate_ok (hgate : (p.log .getTags target).gate w.kind target.id = (.ok e, q)) :
    p.getTags target = (q.tagsOf w.shape e, q) := by
  simp only [Provider.getTags, hk, hgate, Provider.shapeOf, w.shaped, Fallible.ok_bind]

private theorem served_failing {error : RecordedError}
    (h : Keyed.find? target.id p.errors = some error) :
    w.Served p target (Batch.tagOne w.add w.remove p target) := by
  have hgate := Provider.gate_failing (p := p.log .getTags target) w.kind h
  refine served_of_error (getTags_of_gate_error hk hgate) (outcome_failing h).symm
    (.of_still fun hpass => ?_) rfl
  rw [Provider.Passes, h] at hpass
  cases hpass

variable (hpass : p.Passes target.id)

include hpass

private theorem served_missing (h : target.id ∈ p.missing) :
    w.Served p target (Batch.tagOne w.add w.remove p target) := by
  have hgate := Provider.gate_missing (p := p.log .getTags target) w.kind hpass h
  exact served_of_error (getTags_of_gate_error hk hgate) (outcome_missing hpass h).symm
    (.of_missing hpass h) rfl

variable (hmissing : target.id ∉ p.missing)

include hmissing

private theorem served_absent (h : p.named w.kind.typeName target.id = []) :
    w.Served p target (Batch.tagOne w.add w.remove p target) := by
  have hgate := Provider.gate_absent (p := p.log .getTags target) hpass hmissing h
  refine served_of_error (getTags_of_gate_error hk hgate) (outcome_absent hpass hmissing h).symm
    (.of_still fun _ => ⟨hmissing, ?_⟩) rfl
  rw [h]
  rfl

private theorem served_found {rest : List Entry}
    (h : p.named w.kind.typeName target.id = e :: rest) :
    w.Served p target (Batch.tagOne w.add w.remove p target) := by
  have hgate := Provider.gate_found (p := p.log .getTags target) hpass hmissing h
  have hget := getTags_of_gate_ok hk hgate
  have htags : (p.log .getTags target).tagsOf w.shape e =
      (w.shape.decode (e.recording.tags.getD .null) p.ingest).mapError fun e =>
        .validation e.message := rfl
  rw [htags] at hget
  cases hread : w.shape.decode (e.recording.tags.getD .null) p.ingest with
  | error error =>
    rw [hread, Fallible.mapError_error] at hget htags
    refine served_of_error hget ?_ (.of_still fun _ => ⟨hmissing, ?_⟩) rfl
    · rw [outcome_unreadable hpass hmissing h htags]
      rfl
    · rw [h, List.modifyHead_cons, entry_of_unreadable hread]
  | ok existing =>
    rw [hread, Fallible.mapError_ok] at hget htags
    have houtcome := outcome_read hpass hmissing [] h htags
    by_cases hwanted : w.wanted existing = existing
    · rw [if_neg fun hnew => hnew.2 hwanted] at houtcome
      rw [Batch.tagOne_of_kept hget hwanted]
      refine ⟨houtcome.symm, .of_still fun _ => ⟨hmissing, ?_⟩, ?_⟩
      · rw [h, List.modifyHead_cons, entry_of_wanted hread hwanted]
      · rw [houtcome]
        rfl
    · rw [if_pos ⟨List.not_mem_nil, hwanted⟩] at houtcome
      have hlive : (p.log .getTags target).Live w.kind.typeName target.id := by
        rw [Provider.live_iff_named]
        exact ⟨hpass, hmissing, fun hnil => List.cons_ne_nil e rest (h.symm.trans hnil)⟩
      have hput := Provider.putTags_of_live (p := p.log .getTags target) hk w.shaped hlive
        (w.wanted existing)
      rw [Batch.tagOne_of_changed hget hwanted hput]
      refine ⟨houtcome.symm, .of_modified hpass hmissing (fun _ => rfl) ?_, ?_⟩
      · rw [h, List.modifyHead_cons, List.modifyHead_cons, entry_of_changed hread hwanted]
      · rw [houtcome]
        exact List.append_assoc ..

end Work

theorem tagOne_served (w : Retagging) (hk : p.kindOf target.kind = .ok w.kind) :
    w.Served p target (Batch.tagOne w.add w.remove p target) := by
  cases herror : Keyed.find? target.id p.errors with
  | some error => exact served_failing hk herror
  | none =>
    by_cases hmissing : target.id ∈ p.missing
    · exact served_missing hk herror hmissing
    · cases hnamed : p.named w.kind.typeName target.id with
      | nil => exact served_absent hk herror hmissing hnamed
      | cons e rest => exact served_found hk herror hmissing hnamed

/-- Target after target, everything can be told from the provider at the beginning. -/
theorem runItems_done (w : Retagging) {targets : List ResourceRef}
    (hk : ∀ target ∈ targets, p.kindOf target.kind = .ok w.kind) (h : w.Done p ids q) :
    (Batch.runItems (Batch.tagOne w.add w.remove) q targets).1 = w.items p ids targets ∧
      w.Done p (ids ++ targets.map (·.id))
        (Batch.runItems (Batch.tagOne w.add w.remove) q targets).2 ∧
      (Batch.runItems (Batch.tagOne w.add w.remove) q targets).2.calls =
        q.calls ++ calls p.sessions targets (w.items p ids targets) := by
  induction targets generalizing ids q with
  | nil => exact ⟨rfl, (List.append_nil ids).symm ▸ h, (List.append_nil _).symm⟩
  | cons target rest ih =>
    obtain ⟨hkind, hrest⟩ := List.forall_mem_cons.1 hk
    have hkind' : q.kindOf target.kind = .ok w.kind := by
      rw [← hkind, h.rest]
      rfl
    have hserved := w.tagOne_served hkind'
    obtain ⟨hitems, hdone, hcalls⟩ := ih hrest (h.trans hserved.done)
    have houtcome := outcome_of_done h target.id
    have hsessions : q.sessions = p.sessions := by rw [h.rest]
    refine ⟨?_, ?_, ?_⟩
    · have hfirst := hserved.outcome.trans houtcome
      exact congrArg₂ List.cons (congrArg (ReportItem.mk target.id) hfirst) hitems
    · rwa [List.append_assoc] at hdone
    · refine hcalls.trans ?_
      rw [hserved.calls, houtcome, hsessions, List.append_assoc]
      rfl

/-- A batch on a provider that clean calls on a flight lead to. Its outcomes, the provider that it
leaves and the calls that it logs can be told from the provider that it is started on: each resource
that calls get through to has the requested tags in the end, and is written to for the first target
with its id, and only if its tags change. -/
theorem tagEach_done (catalog : Catalog) (flight : Flight) (ingest : Ingest) {start : Provider}
    (hstart : Provider.ofFlight catalog flight ingest = .ok start) (hp : start.Reaches p)
    (w : Retagging) {name : String} (hname : p.catalog.get name = .ok w.kind)
    {targets : List ResourceRef}
    (hk : ∀ target ∈ targets, Catalog.bareName target.kind = Catalog.bareName name) :
    (Batch.tagEach w.add w.remove p targets).1 =
        ⟨Batch.tagAction w.add, w.items p [] targets⟩ ∧
      w.Done p (targets.map (·.id)) (Batch.tagEach w.add w.remove p targets).2 ∧
      (Batch.tagEach w.add w.remove p targets).2.calls =
        p.calls ++ calls p.sessions targets (w.items p [] targets) ∧
      ∀ e ∈ p.entries, e.target.kind = w.kind.typeName →
        ∃ existing, p.tagsOf w.shape e = .ok existing ∧
          p.tagsOf w.shape (w.entry p.ingest e) = .ok (reconcile existing w.add w.remove) ∧
          (reconcile existing w.add w.remove = existing → w.entry p.ingest e = e) ∧
          w.entry p.ingest e = { e with
            recording := { e.recording with tags := (w.entry p.ingest e).recording.tags } } := by
  have hkind : ∀ target ∈ targets, p.kindOf target.kind = .ok w.kind := by
    intro target htarget
    rw [Provider.kindOf, Catalog.get_of_bareName (hk target htarget) hname, Fallible.mapError_ok]
  obtain ⟨hitems, hdone, hcalls⟩ := w.runItems_done hkind (.refl w p)
  refine ⟨congrArg (BatchReport.mk _) hitems, hdone, hcalls, fun e he hkind => ?_⟩
  have hshape : p.catalog.shapeOf e.target.kind = some w.shape := by
    rw [hkind, Catalog.shapeOf_typeName hname, w.shaped]
  obtain ⟨existing, hread⟩ := hp.readable (Provider.ofFlight_readable hstart) e he _ hshape
  refine ⟨existing, ?_, ?_, entry_of_wanted hread, w.entry_rest p.ingest e⟩
  · rw [Provider.tagsOf, hread, Fallible.mapError_ok]
  · rw [Provider.tagsOf, decode_entry hread, Fallible.mapError_ok]
    rfl

def someClusters : Flight where
  resources := [("memorydb", [
    { listed := .obj [("ARN", .str "arn:a"), ("Name", .str "a")]
      tags := some (.arr [.obj [("Key", .str "owner"), ("Value", .str "policy")]]) },
    { listed := .obj [("ARN", .str "arn:b"), ("Name", .str "b")] }])]
  missing := ["b"]
  errors := [("c", ⟨"Throttling", "slow down"⟩)]

def toDevelopment : Retagging where
  kind := Aws.memorydb
  shape := .pascal
  shaped := rfl
  add := TagSet.ofList [("env", "dev")]
  clean := rfl
  remove := []

def severalTargets : List ResourceRef :=
  [⟨"memorydb", "a", none⟩, ⟨"aws.memorydb", "a", none⟩, ⟨"memorydb", "b", none⟩,
    ⟨"memorydb", "c", none⟩]

theorem tagEach_done_someClusters : ∃ catalog start,
    Aws.catalog = .ok catalog ∧ Provider.ofFlight catalog someClusters .strict = .ok start ∧
    ∃ p, start.Reaches p ∧ p.catalog.get "memorydb" = .ok toDevelopment.kind ∧
    (∀ target ∈ severalTargets, Catalog.bareName target.kind = Catalog.bareName "memorydb") ∧
    toDevelopment.items p [] severalTargets = [⟨"a", .applied⟩, ⟨"a", .unchanged⟩, ⟨"b", .notFound⟩,
      ⟨"c", .failed (.throttled "slow down")⟩] ∧
    (Batch.tagEach toDevelopment.add toDevelopment.remove p severalTargets).1 =
      ⟨"tag", toDevelopment.items p [] severalTargets⟩ := by
  have hreaches (start : Provider) :
      start.Reaches (ClientCall.make start (.putTags ⟨"memorydb", "a", none⟩ .empty)).2 :=
    .call .refl _ rfl
  have hkinds : ∀ target ∈ severalTargets,
      Catalog.bareName target.kind = Catalog.bareName "memorydb" := by decide
  refine ⟨_, _, Aws.catalog_eq, rfl, _, hreaches _, rfl, hkinds, rfl, ?_⟩
  exact (tagEach_done ⟨Aws.kinds, _⟩ someClusters .strict rfl (hreaches _) toDevelopment rfl
    hkinds).1

def goneNamesakes : Flight where
  resources := [("memorydb", [
    { listed := .obj [("ARN", .str "arn:x"), ("Name", .str "a")] },
    { listed := .obj [("ARN", .str "arn:y"), ("Name", .str "a")]
      tags := some (.arr [.obj [("Key", .str "owner"), ("Value", .str "policy")]]) }])]
  missing := ["a"]

/-- A target that is missing takes every other resource of its kind with its id along. -/
theorem namesake_gone : ∃ catalog start,
    Aws.catalog = .ok catalog ∧ Provider.ofFlight catalog goneNamesakes .strict = .ok start ∧
    start.refs = [⟨"memorydb", "a", some "arn:x"⟩, ⟨"memorydb", "a", some "arn:y"⟩] ∧
    (Batch.tagEach toDevelopment.add toDevelopment.remove start
      [⟨"memorydb", "a", some "arn:x"⟩]).1.items = [⟨"a", .notFound⟩] ∧
    (Batch.tagEach toDevelopment.add toDevelopment.remove start
      [⟨"memorydb", "a", some "arn:x"⟩]).2.refs = [] :=
  ⟨_, _, Aws.catalog_eq, rfl, rfl, rfl, rfl⟩

end Retagging

end TagGovernance
