import TagGovernance.Proofs.Provider.Faithful

/-!
# What earlier calls decide

Calls are made on a provider, with sessions opened and closed between them. Which resources a later
call finds depends on the earlier ones only through the resources that they looked for. The set of
missing ids is one for all kinds: the first call that looks for such an id takes it out, and takes
away the resources of its own kind that have the id. Those of other kinds are found again from then
on, so a missing id is gone for the kind that is asked for it first, and for no other one.
-/

namespace TagGovernance

namespace Answer

def succeeds : Answer → Bool
  | records (.ok _) | tags (.ok _) | done (.ok _) => true
  | _ => false

end Answer

namespace ClientCall

def sought (catalog : Catalog) (call : ClientCall) : Option (String × String) :=
  call.target?.bind fun target =>
    (catalog.get target.kind).toOption.map fun kind => (kind.typeName, target.id)

/-- The kind for which the first of some calls looks that look for an id. -/
def firstFor (catalog : Catalog) (calls : List ClientCall) (id : String) : Option String :=
  ((calls.filterMap (sought catalog)).find? fun s => s.2 = id).map (·.1)

variable {catalog : Catalog} {call : ClientCall} {target : ResourceRef} {kind : ResourceKind}

theorem sought_of_get (ht : call.target? = some target) (hk : catalog.get target.kind = .ok kind) :
    call.sought catalog = some (kind.typeName, target.id) := by
  rw [sought, ht, Option.bind_some, hk]
  rfl

theorem sought_of_unknown
    (h : ∀ target, call.target? = some target → ∃ error, catalog.get target.kind = .error error) :
    call.sought catalog = none := by
  rw [sought, Option.bind_eq_none_iff]
  intro target ht
  obtain ⟨error, hk⟩ := h target ht
  rw [hk]
  rfl

theorem target?_cases (catalog : Catalog) (call : ClientCall) :
    (∃ target kind, call.target? = some target ∧ catalog.get target.kind = .ok kind) ∨
      ∀ target, call.target? = some target → ∃ error, catalog.get target.kind = .error error := by
  cases ht : call.target? with
  | none => exact .inr nofun
  | some target =>
    cases hk : catalog.get target.kind with
    | ok kind => exact .inl ⟨target, kind, rfl, hk⟩
    | error error =>
      refine .inr fun other hother => ⟨error, ?_⟩
      obtain rfl := Option.some.inj hother
      exact hk

theorem firstFor_of_sought {name id : String} (calls : List ClientCall)
    (h : call.sought catalog = some (name, id)) :
    firstFor catalog (calls ++ [call]) id = (firstFor catalog calls id).or (some name) := by
  rw [firstFor, firstFor, List.filterMap_append, List.find?_append, Option.map_or]
  simp only [List.filterMap_cons, h, List.filterMap_nil, List.find?_cons, decide_true,
    Option.map_some]

theorem firstFor_of_apart {id : String} (calls : List ClientCall)
    (h : ∀ name, call.sought catalog ≠ some (name, id)) :
    firstFor catalog (calls ++ [call]) id = firstFor catalog calls id := by
  rw [firstFor, firstFor, List.filterMap_append, List.find?_append]
  have hnone : ([call].filterMap (sought catalog)).find? (fun s => s.2 = id) = none := by
    refine List.find?_eq_none.2 fun s hs hid => ?_
    obtain ⟨other, hother, hsought⟩ := List.mem_filterMap.1 hs
    obtain rfl := List.mem_singleton.1 hother
    exact h s.1 (hsought.trans (congrArg some (Prod.ext rfl (of_decide_eq_true hid))))
  rw [hnone, Option.or_none]

end ClientCall

namespace Provider

variable {start p : Provider} {calls : List ClientCall} {call : ClientCall} {target : ResourceRef}
  {kind : ResourceKind} {name id : String}

/-- What a provider becomes by some calls, with sessions opened and closed between them. -/
inductive Becomes (start : Provider) : List ClientCall → Provider → Prop
  | start : Becomes start [] start
  | call {calls : List ClientCall} {p : Provider} (h : Becomes start calls p) (call : ClientCall) :
    Becomes start (calls ++ [call]) (call.make p).2
  | openSession {calls : List ClientCall} {p : Provider} (h : Becomes start calls p)
    (service : String) : Becomes start calls (p.openSession service).2
  | closeSession {calls : List ClientCall} {p : Provider} (h : Becomes start calls p) :
    Becomes start calls p.closeSession

theorem openSession_eq (p : Provider) (service : String) :
    ∃ sessions, (p.openSession service).2 = { p with sessions } := by
  unfold openSession
  split <;> exact ⟨_, rfl⟩

theorem kindOf_of_get (hk : p.catalog.get name = .ok kind) : p.kindOf name = .ok kind := by
  rw [kindOf, hk, Fallible.mapError_ok]

theorem kindOf_of_unknown (h : ∃ error, p.catalog.get name = .error error) :
    ∃ error, p.kindOf name = .error error := by
  obtain ⟨error, hk⟩ := h
  exact ⟨_, by rw [kindOf, hk, Fallible.mapError_error]⟩

theorem gate_missing_ids (p : Provider) (kind : ResourceKind) (id : String) :
    (p.gate kind id).2.missing =
      if p.Passes id then p.missing.filter (· ≠ id) else p.missing := by
  cases herror : Keyed.find? id p.errors with
  | some error =>
    have hshut : ¬p.Passes id := by simp [Passes, herror]
    rw [gate_failing kind herror, if_neg hshut]
  | none =>
    have hpass : p.Passes id := herror
    rw [if_pos hpass]
    by_cases hmissing : id ∈ p.missing
    · rw [gate_missing kind herror hmissing]
    · have hsame : p.missing.filter (· ≠ id) = p.missing :=
        List.filter_eq_self.2 fun i hi => decide_eq_true fun h => hmissing (h ▸ hi)
      rw [hsame]
      cases hnamed : p.named kind.typeName id with
      | nil => rw [gate_absent herror hmissing hnamed]
      | cons e rest => rw [gate_found herror hmissing hnamed]

theorem missing_make_known (ht : call.target? = some target) (hk : p.kindOf target.kind = .ok kind) :
    (call.make p).2.missing =
      if p.Passes target.id then p.missing.filter (· ≠ target.id) else p.missing := by
  have hgate (verb : Verb) := gate_missing_ids (p.log verb target) kind target.id
  cases call with
  | list name => cases ht
  | getTags t =>
    obtain rfl := Option.some.inj ht
    refine Eq.trans ?_ (hgate .getTags)
    simp only [ClientCall.make, getTags, hk]
    split <;> rename_i hreply <;> rw [hreply]
  | putTags t tags =>
    obtain rfl := Option.some.inj ht
    refine Eq.trans ?_ (hgate .putTags)
    simp only [ClientCall.make, putTags, hk]
    split <;> rename_i hreply <;> rw [hreply]
    split <;> rfl
  | delete t =>
    obtain rfl := Option.some.inj ht
    have hk : (p.log .delete t).kindOf t.kind = .ok kind := hk
    refine Eq.trans ?_ (hgate .delete)
    simp only [ClientCall.make, delete, hk]
    split <;> rename_i hreply <;> rw [hreply]
    rfl
  | update t change =>
    obtain ⟨fields, hfields, rfl⟩ := Option.map_eq_some_iff.1 ht
    have hk : (p.log .update t).kindOf t.kind = .ok kind := hk
    refine Eq.trans ?_ (hgate .update)
    simp only [ClientCall.make, update, hfields, hk]
    split <;> rename_i hreply <;> rw [hreply]
    rfl

/-- An id stays missing unless a call looks for it that no error ends. -/
theorem mem_missing_make (p : Provider) (call : ClientCall) (id : String) :
    id ∈ (call.make p).2.missing ↔
      id ∈ p.missing ∧ (p.Passes id → ∀ name, call.sought p.catalog ≠ some (name, id)) := by
  rcases call.target?_cases p.catalog with ⟨target, kind, ht, hk⟩ | hunknown
  · rw [missing_make_known ht (kindOf_of_get hk), ClientCall.sought_of_get ht hk]
    by_cases hid : target.id = id
    · subst hid
      by_cases hpass : p.Passes target.id <;> simp [hpass]
    · by_cases hpass : p.Passes target.id <;> simp [hpass, hid, Ne.symm hid]
  · obtain ⟨calls, hmake⟩ := make_unknown fun target ht => kindOf_of_unknown (hunknown target ht)
    rw [hmake, ClientCall.sought_of_unknown hunknown]
    simp

theorem mem_taken : (name, id) ∈ call.taken p ↔ call.sought p.catalog = some (name, id) ∧
    p.Passes id ∧ (call.deletes = true ∨ id ∈ p.missing) := by
  rcases call.target?_cases p.catalog with ⟨target, kind, ht, hk⟩ | hunknown
  · simp only [ClientCall.taken, ht, kindOf_of_get hk, ClientCall.sought_of_get ht hk]
    split <;> rename_i htakes
    · simp only [List.mem_singleton, Prod.mk.injEq, Option.some.injEq]
      constructor
      · rintro ⟨rfl, rfl⟩
        exact ⟨⟨rfl, rfl⟩, htakes⟩
      · rintro ⟨⟨rfl, rfl⟩, -⟩
        exact ⟨rfl, rfl⟩
    · simp only [List.not_mem_nil, false_iff, not_and]
      rintro hsame hpass hwhy
      obtain ⟨rfl, rfl⟩ := Prod.mk.inj (Option.some.inj hsame)
      exact htakes ⟨hpass, hwhy⟩
  · rw [ClientCall.sought_of_unknown hunknown, ClientCall.taken]
    cases ht : call.target? with
    | none => simp
    | some target =>
      obtain ⟨error, hk⟩ := kindOf_of_unknown (hunknown target ht)
      simp [hk]

theorem named_ne_nil_iff : p.named name id ≠ [] ↔ ∃ r ∈ p.refs, r.kind = name ∧ r.id = id := by
  simp [named, refs, Entry.isFor, List.filter_eq_nil_iff]

theorem named_make (p : Provider) (call : ClientCall) (name id : String) :
    (call.make p).2.named name id ≠ [] ↔ p.named name id ≠ [] ∧ (name, id) ∉ call.taken p := by
  simp only [named_ne_nil_iff, refs_make, List.mem_filter, decide_eq_true_eq]
  constructor
  · rintro ⟨r, ⟨hr, hkept⟩, rfl, rfl⟩
    exact ⟨⟨r, hr, rfl, rfl⟩, hkept⟩
  · rintro ⟨⟨r, hr, rfl, rfl⟩, hkept⟩
    exact ⟨r, ⟨hr, hkept⟩, rfl, rfl⟩

theorem fails_of_unknown {error : ProviderError} (ht : call.about? = some target)
    (hk : p.kindOf target.kind = .error error) : (call.make p).1.succeeds = false := by
  cases call with
  | list name => cases ht
  | getTags t =>
    obtain rfl := Option.some.inj ht
    simp only [ClientCall.make, getTags, hk]
    rfl
  | putTags t tags =>
    obtain rfl := Option.some.inj ht
    simp only [ClientCall.make, putTags, hk]
    rfl
  | delete t =>
    obtain rfl := Option.some.inj ht
    have hk : (p.log .delete t).kindOf t.kind = .error error := hk
    simp only [ClientCall.make, delete, hk]
    rfl
  | update t change =>
    obtain rfl := Option.some.inj ht
    have hk : (p.log .update t).kindOf t.kind = .error error := hk
    cases hfields : change.asObject? <;> simp only [ClientCall.make, update, hfields, hk] <;> rfl

/-- A call on a resource that is not live fails. -/
theorem fails_of_not_live (ht : call.about? = some target) (hk : p.kindOf target.kind = .ok kind)
    (hlive : ¬p.Live kind.typeName target.id) : (call.make p).1.succeeds = false := by
  cases call with
  | list name => cases ht
  | getTags t =>
    obtain rfl := Option.some.inj ht
    obtain ⟨error, q, hget, -⟩ := getTags_of_not_live hk hlive
    rw [ClientCall.make, hget]
    rfl
  | putTags t tags =>
    obtain rfl := Option.some.inj ht
    obtain ⟨error, q, hput, -⟩ := putTags_of_not_live hk hlive tags
    rw [ClientCall.make, hput]
    rfl
  | delete t =>
    obtain rfl := Option.some.inj ht
    obtain ⟨error, q, hdelete, -⟩ := delete_of_not_live hk hlive
    rw [ClientCall.make, hdelete]
    rfl
  | update t change =>
    obtain rfl := Option.some.inj ht
    cases hfields : change.asObject? with
    | none =>
      simp only [ClientCall.make, update, hfields]
      rfl
    | some fields =>
      obtain ⟨error, q, hupdate, -⟩ := update_of_not_live hk hfields hlive
      rw [ClientCall.make, hupdate]
      rfl

/-- Some call on a resource succeeds just if it is one of a kind of the catalog and live. -/
theorem succeeds_iff (p : Provider) (target : ResourceRef) :
    (∃ call : ClientCall, call.about? = some target ∧ (call.make p).1.succeeds = true) ↔
      ∃ kind, p.catalog.get target.kind = .ok kind ∧ p.Live kind.typeName target.id := by
  constructor
  · rintro ⟨call, ht, hdone⟩
    cases hk : p.catalog.get target.kind with
    | error error =>
      obtain ⟨error, hk⟩ := kindOf_of_unknown ⟨error, hk⟩
      exact absurd ((fails_of_unknown ht hk).symm.trans hdone) Bool.false_ne_true
    | ok kind =>
      refine ⟨kind, rfl, ?_⟩
      by_contra hlive
      have hfails := fails_of_not_live ht (kindOf_of_get hk) hlive
      exact absurd (hfails.symm.trans hdone) Bool.false_ne_true
  · rintro ⟨kind, hk, hlive⟩
    refine ⟨.delete target, rfl, ?_⟩
    rw [ClientCall.make, delete_of_live (kindOf_of_get hk) hlive]
    rfl

/-- What calls have made of the resources of a kind with a missing id so that they are found: no
error ends calls on the id, the resources were there at the beginning, the first call for the id was
for another kind, and no call was made to delete them. -/
structure Resurfaces (start : Provider) (calls : List ClientCall) (kind id : String) : Prop where
  passes : start.Passes id
  recorded : start.named kind id ≠ []
  elsewhere : ∃ other, ClientCall.firstFor start.catalog calls id = some other ∧ other ≠ kind
  kept : ∀ call ∈ calls, call.deletes = true → call.sought start.catalog ≠ some (kind, id)

namespace Becomes

/-- What calls keep, and what does not look at the number of sessions, holds in the end. -/
theorem keeps {P : List ClientCall → Provider → Prop} (h : start.Becomes calls p)
    (first : P [] start)
    (call : ∀ calls p call, start.Becomes calls p → P calls p → P (calls ++ [call]) (call.make p).2)
    (session : ∀ calls p sessions, P calls p → P calls { p with sessions }) : P calls p := by
  induction h with
  | start => exact first
  | call h c ih => exact call _ _ c h ih
  | @openSession calls p _ service ih =>
    obtain ⟨sessions, hopen⟩ := p.openSession_eq service
    exact hopen ▸ session calls p sessions ih
  | @closeSession calls p _ ih => exact session calls p (p.sessions - 1) ih

theorem catalog (h : start.Becomes calls p) : p.catalog = start.catalog :=
  h.keeps (P := fun _ p => p.catalog = start.catalog) rfl
    (fun _ p call _ ih => (make_catalog p call).trans ih) fun _ _ _ ih => ih

theorem errors (h : start.Becomes calls p) : p.errors = start.errors :=
  h.keeps (P := fun _ p => p.errors = start.errors) rfl
    (fun _ p call _ ih => (make_errors p call).trans ih) fun _ _ _ ih => ih

theorem passes_iff (h : start.Becomes calls p) : p.Passes id ↔ start.Passes id := by
  rw [Passes, Passes, h.errors]

/-- Calls that set no field that references are read from keep entries sound. -/
theorem sound (h : start.Becomes calls p) (hstart : start.Sound)
    (keepsRefs : ∀ call ∈ calls, call.KeepsRefs start.catalog) : p.Sound := by
  refine h.keeps (P := fun calls p =>
    (∀ call ∈ calls, call.KeepsRefs start.catalog) → p.Sound) (fun _ => hstart) ?_
    (fun _ _ _ ih hcalls => ⟨(ih hcalls).steady, (ih hcalls).entries⟩) keepsRefs
  intro calls p call hp ih hcalls
  rw [List.forall_mem_append, List.forall_mem_singleton, ← hp.catalog] at hcalls
  exact (ih (hp.catalog ▸ hcalls.1)).make hcalls.2

/-- A missing id is missing until a call looks for it, unless a recorded error ends the calls. -/
theorem mem_missing_iff (h : start.Becomes calls p) (hpass : start.Passes id)
    (hmissing : id ∈ start.missing) :
    id ∈ p.missing ↔ ClientCall.firstFor start.catalog calls id = none := by
  refine h.keeps (P := fun calls p =>
    id ∈ p.missing ↔ ClientCall.firstFor start.catalog calls id = none)
    (iff_of_true hmissing rfl) ?_ fun _ _ _ ih => ih
  intro calls p call hp ih
  rw [mem_missing_make, hp.catalog, ih]
  by_cases hsought : ∃ other, call.sought start.catalog = some (other, id)
  · obtain ⟨other, hother⟩ := hsought
    rw [ClientCall.firstFor_of_sought calls hother]
    simp [hp.passes_iff.2 hpass, hother]
  · have hapart := not_exists.1 hsought
    rw [ClientCall.firstFor_of_apart calls hapart]
    simp [hapart]

/-- Once calls have looked for a missing id, the resources with it are gone that have the kind of the
first of these calls, and those that calls were made to delete. -/
theorem named_iff (h : start.Becomes calls p) (hpass : start.Passes id)
    (hmissing : id ∈ start.missing) : p.named name id ≠ [] ↔ start.named name id ≠ [] ∧
      ClientCall.firstFor start.catalog calls id ≠ some name ∧
      ∀ call ∈ calls, call.deletes = true → call.sought start.catalog ≠ some (name, id) := by
  refine h.keeps (P := fun calls p => p.named name id ≠ [] ↔ start.named name id ≠ [] ∧
      ClientCall.firstFor start.catalog calls id ≠ some name ∧
      ∀ call ∈ calls, call.deletes = true → call.sought start.catalog ≠ some (name, id))
    (by simp [ClientCall.firstFor]) ?_ fun _ _ _ ih => ih
  intro calls p call hp ih
  rw [named_make, ih, mem_taken, hp.catalog, hp.mem_missing_iff hpass hmissing,
    List.forall_mem_append, List.forall_mem_singleton]
  have hpass := hp.passes_iff.2 hpass
  by_cases hsought : ∃ other, call.sought start.catalog = some (other, id)
  · obtain ⟨other, hother⟩ := hsought
    rw [ClientCall.firstFor_of_sought calls hother]
    -- The call takes its resources away if it deletes them or is the first to look for them.
    cases ClientCall.firstFor start.catalog calls id <;> by_cases hname : other = name <;>
      simp [hpass, hother, hname, and_assoc]
  · rw [ClientCall.firstFor_of_apart calls (not_exists.1 hsought)]
    simp [not_exists.1 hsought]

/-- A call on the resources of a kind with a missing id gets through just if they resurface. -/
theorem live_iff (h : start.Becomes calls p) (hmissing : id ∈ start.missing) :
    p.Live name id ↔ start.Resurfaces calls name id := by
  rw [live_iff_named, h.passes_iff]
  constructor
  · rintro ⟨hpass, hsought, hnamed⟩
    rw [h.mem_missing_iff hpass hmissing] at hsought
    obtain ⟨other, hother⟩ := Option.ne_none_iff_exists'.1 hsought
    obtain ⟨hrecorded, hfirst, hkept⟩ := (h.named_iff hpass hmissing).1 hnamed
    exact ⟨hpass, hrecorded, ⟨other, hother, fun heq => hfirst (heq ▸ hother)⟩, hkept⟩
  · rintro ⟨hpass, hrecorded, ⟨other, hother, hne⟩, hkept⟩
    refine ⟨hpass, ?_, ?_⟩
    · rw [h.mem_missing_iff hpass hmissing, hother]
      exact Option.some_ne_none other
    · refine (h.named_iff hpass hmissing).2 ⟨hrecorded, ?_, hkept⟩
      rw [hother]
      exact fun hsame => hne (Option.some.inj hsame)

end Becomes

theorem ofFlight_recorded {catalog : Catalog} {flight : Flight} {ingest : Ingest}
    (h : ofFlight catalog flight ingest = .ok p) :
    p.missing = flight.missing ∧ p.errors = flight.errors := by
  obtain ⟨lists, -, h⟩ := Fallible.bind_eq_ok.1 h
  obtain rfl := Except.ok.inj h
  exact ⟨rfl, rfl⟩

/-- After any calls on the provider of a flight, some call on a resource with a missing id succeeds
just if the resource resurfaces: an earlier call for the id was for another kind, and used up that
the id is missing. -/
theorem missing_succeeds_iff {catalog : Catalog} {flight : Flight} {ingest : Ingest}
    (h : ofFlight catalog flight ingest = .ok start) (hp : start.Becomes calls p)
    (hmissing : target.id ∈ flight.missing) :
    (∃ call : ClientCall, call.about? = some target ∧ (call.make p).1.succeeds = true) ↔
      ∃ kind, catalog.get target.kind = .ok kind ∧
        start.Resurfaces calls kind.typeName target.id := by
  rw [succeeds_iff, hp.catalog, ofFlight_catalog h]
  rw [← (ofFlight_recorded h).1] at hmissing
  simp only [hp.live_iff hmissing]

def sharedName : Flight where
  resources := [("memorydb", [{ listed := .obj [("Name", .str "x")] }]),
    ("memorydb-acl", [{ listed := .obj [("Name", .str "x")] }])]
  missing := ["x"]

theorem missing_succeeds_iff_sharedName : ∃ catalog start p,
    Aws.catalog = .ok catalog ∧ ofFlight catalog sharedName .strict = .ok start ∧
    start.Becomes [.delete ⟨"aws.memorydb", "x", none⟩] p ∧ "x" ∈ sharedName.missing ∧
    (∃ call : ClientCall, call.about? = some ⟨"memorydb-acl", "x", none⟩ ∧
      (call.make p).1.succeeds = true) ∧
    ¬∃ call : ClientCall, call.about? = some ⟨"memorydb", "x", none⟩ ∧
      (call.make p).1.succeeds = true := by
  obtain ⟨order, hcatalog⟩ : ∃ order, Aws.catalog = .ok ⟨Aws.kinds, order⟩ := ⟨_, Aws.catalog_eq⟩
  have hstart : ofFlight ⟨Aws.kinds, order⟩ sharedName .strict = .ok _ := rfl
  have hp {start : Provider} : start.Becomes [.delete ⟨"aws.memorydb", "x", none⟩] _ :=
    Becomes.start.call (.delete ⟨"aws.memorydb", "x", none⟩)
  have hmissing : "x" ∈ sharedName.missing := List.mem_singleton_self "x"
  refine ⟨_, _, _, hcatalog, hstart, hp, hmissing, ?_, ?_⟩
  · refine (missing_succeeds_iff hstart hp hmissing).2 ⟨Aws.memorydbAcl, rfl, rfl, ?_, ?_, ?_⟩
    · exact List.cons_ne_nil _ _
    · exact ⟨"memorydb", rfl, by decide⟩
    · intro call hcall _ hsought
      obtain rfl := List.mem_singleton.1 hcall
      exact absurd (Prod.mk.inj (Option.some.inj hsought)).1 (by decide)
  · rw [missing_succeeds_iff hstart hp hmissing]
    rintro ⟨kind, hk, -, -, ⟨other, hother, hne⟩, -⟩
    obtain rfl := Except.ok.inj hk
    exact hne (Option.some.inj hother).symm

/-- The missing id is reported for one kind only. -/
theorem missing_id_resurfaces : ∃ catalog start,
    Aws.catalog = .ok catalog ∧ ofFlight catalog sharedName .strict = .ok start ∧
    "x" ∈ sharedName.missing ∧
    (ClientCall.makeAll start
      [.delete ⟨"memorydb", "x", none⟩, .delete ⟨"memorydb-acl", "x", none⟩]).1 =
      [.done (.error (.notFound "memorydb x")), .done (.ok ())] :=
  ⟨_, _, Aws.catalog_eq, rfl, List.mem_singleton_self "x", rfl⟩

end Provider

end TagGovernance
