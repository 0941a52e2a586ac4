import TagGovernance.Proofs.Provider.Answered
import TagGovernance.Proofs.Replay.EmptyMark

/-!
# The tags that policies see

Policies read tags from the records of resources, and actions read them from where they are stored.
A record shows what is stored if anything is: the stored tags are set in the field that policies read
from, neither the side responses nor the updates that runs make reach this field, and what was
written for a tag set is read back as it. If nothing is stored, the field is not set at all, and what
stands there in the responses themselves is taken for the tags of the resource.
-/

namespace TagGovernance

namespace Policy

theorem recordTags_congr {fields others : List (String × Json)}
    (h : Keyed.find? "Tags" fields = Keyed.find? "Tags" others) :
    recordTags (.obj fields) = recordTags (.obj others) := by
  rw [recordTags, recordTags, Json.field?_obj, Json.field?_obj, h]

theorem recordTags_of_encoded {fields : List (String × Json)} {tags : TagSet}
    (h : Keyed.find? "Tags" fields = some (TagShape.pascal.encode tags))
    (clean : tags.has "" = false) : recordTags (.obj fields) = .ok tags := by
  rw [recordTags, Json.field?_obj, h, Option.getD_some, TagShape.decode_encode, clean]
  rfl

end Policy

namespace Provider

variable {p q : Provider} {kind : ResourceKind} {e : Entry} {record : Json} {tags : TagSet}
  {d : Described} {resources : List Described}

def TagsUnset (p : Provider) : Prop := ∀ e ∈ p.entries, "Tags" ∉ Keyed.keys e.overlay

/-- A policy sees the tags on a resource that calls read. -/
def SeenAsRead (p : Provider) (d : Described) : Prop :=
  ∃ tags, (p.getTags d.1).1 = .ok tags ∧ Policy.recordTags d.2 = .ok tags

theorem Confined.tagsUnset {name : String} {ids fields : List String}
    (h : Confined name ids fields p q) (hfields : "Tags" ∉ fields) (hp : p.TagsUnset) :
    q.TagsUnset := by
  intro f hf hkey
  obtain ⟨e, he, hef⟩ := h.kept f hf
  exact (hef.overlay "Tags" hkey).elim (hp e he) hfields

theorem ofFlight_tagsUnset {catalog : Catalog} {flight : Flight} {ingest : Ingest}
    (h : ofFlight catalog flight ingest = .ok p) : p.TagsUnset := by
  intro e he
  obtain ⟨-, -, -, -, -, -, hoverlay⟩ := mem_ofFlight h he
  rw [hoverlay]
  exact List.not_mem_nil

namespace Sound

variable {shape : TagShape}

/-- The tags in the record of an entry are those that are stored for it, or if none are, those that
its responses show. -/
theorem recordTags_eq (hp : p.Sound) (hunset : p.TagsUnset) (he : e ∈ p.entries)
    (hk : p.catalog.get e.target.kind = .ok kind) (hrecord : p.recordOf kind e = .ok record)
    (hshape : kind.tagShape = some shape)
    (hread : shape.decode (e.recording.tags.getD .null) p.ingest = .ok tags) :
    ∃ base, baseOf p.source kind e.recording = .ok base ∧ Policy.recordTags record =
      if e.recording.tags.isSome then .ok tags else Policy.recordTags base := by
  obtain ⟨found, fields, hfound, hbase, -, -⟩ := hp.entries e he
  obtain rfl : found = kind := Except.ok.inj (hfound.symm.trans hk)
  refine ⟨.obj fields, hbase, ?_⟩
  rw [Provider.recordOf, describe_of_base hbase] at hrecord
  have hshown (attached : Option TagSet) : Keyed.find? "Tags"
      (Keyed.putAll (Keyed.putAll fields (found.attached e.recording attached)) e.overlay) =
        (attached.map TagShape.pascal.encode).or (Keyed.find? "Tags" fields) := by
    rw [Keyed.find?_putAll (hunset e he), ResourceKind.find?_attached]
  cases hstored : e.recording.tags with
  | none =>
    simp only [ResourceKind.readTags, hshape, hstored, Except.map, Fallible.ok_bind] at hrecord
    obtain rfl := Except.ok.inj hrecord
    exact Policy.recordTags_congr (hshown none)
  | some raw =>
    rw [hstored, Option.getD_some] at hread
    simp only [ResourceKind.readTags, hshape, hstored, hread, during, Fallible.mapError_ok,
      Except.map, Fallible.ok_bind] at hrecord
    obtain rfl := Except.ok.inj hrecord
    exact Policy.recordTags_of_encoded (hshown (some tags)) (TagShape.decode_has_empty hread)

theorem named_of_unique (hp : p.Sound) (hk : p.catalog.get kind.typeName = .ok kind)
    (h : p.resources kind.typeName = .ok resources) (hd : d ∈ resources)
    (unique : (resources.map (·.1.id)).count d.1.id = 1) :
    ∃ e, p.named kind.typeName d.1.id = [e] ∧ e.target = d.1 ∧ p.recordOf kind e = .ok d.2 := by
  have hone : (resources.filter fun c => c.1.id = d.1.id) = [d] := by
    rw [List.count_eq_countP, List.countP_map, List.countP_eq_length_filter,
      List.length_eq_one_iff] at unique
    obtain ⟨c, hc⟩ := unique
    have hmem : d ∈ [c] := hc ▸ List.mem_filter.2 ⟨hd, by simp⟩
    obtain rfl := List.mem_singleton.1 hmem
    exact hc
  have hshown : List.Forall₂ (fun e d => d.1 = e.target ∧ p.recordOf kind e = .ok d.2)
      ((p.entries.filter fun e => e.target.kind = kind.typeName).filter
        fun e => e.target.id = d.1.id) (resources.filter fun c => c.1.id = d.1.id) :=
    List.rel_filter (fun _ _ hpair => by simp [hpair.1]) ((hp.resources_eq_ok hk).1 h)
  rw [hone, List.forall₂_cons_right_iff] at hshown
  obtain ⟨e, rest, ⟨htarget, hrecord⟩, hnone, hentries⟩ := hshown
  obtain rfl := List.forall₂_nil_right_iff.1 hnone
  refine ⟨e, ?_, htarget.symm, hrecord⟩
  rw [← hentries, List.filter_filter]
  exact List.filter_congr fun f _ => Bool.and_comm ..

/-- Where no update has set the field for tags, a policy sees what calls read just if tags are stored
or the responses show none. -/
theorem seenAsRead_iff (hp : p.Sound) (hunset : p.TagsUnset)
    (hk : p.catalog.get kind.typeName = .ok kind) (hshape : kind.tagShape = some shape)
    (h : p.resources kind.typeName = .ok resources) (hd : d ∈ resources)
    (unique : (resources.map (·.1.id)).count d.1.id = 1) (passes : p.Passes d.1.id)
    (present : d.1.id ∉ p.missing) :
    ∃ e base, p.named kind.typeName d.1.id = [e] ∧ e.target = d.1 ∧
      baseOf p.source kind e.recording = .ok base ∧ (∃ tags, (p.getTags d.1).1 = .ok tags) ∧
      (p.SeenAsRead d ↔
        e.recording.tags.isSome = true ∨ Policy.recordTags base = .ok .empty) := by
  obtain ⟨e, hnamed, htarget, hrecord⟩ := hp.named_of_unique hk h hd unique
  obtain ⟨he, hfor⟩ := mem_named.1 (hnamed ▸ List.mem_singleton_self e)
  have hkind : e.target.kind = kind.typeName := (Entry.isFor_iff.1 hfor).1
  have hfound : p.catalog.get e.target.kind = .ok kind := hkind ▸ hk
  obtain ⟨tags, hread⟩ := (hp.reads_iff he hfound).2 ⟨d.2, hrecord⟩ shape (by
    rw [hkind, Catalog.shapeOf_typeName hk, hshape])
  obtain ⟨base, hbase, hrecorded⟩ := hp.recordTags_eq hunset he hfound hrecord hshape hread
  have hget : (p.getTags d.1).1 = .ok tags := by
    have hkindOf : p.kindOf d.1.kind = .ok kind := by
      rw [← htarget, kindOf, hfound, Fallible.mapError_ok]
    obtain ⟨before, after, hfound⟩ := Finds.of_named hnamed
    rw [hfound.getTags hkindOf hshape passes present hread]
  have hseen : p.SeenAsRead d ↔ Policy.recordTags d.2 = .ok tags := by
    constructor
    · rintro ⟨others, hothers, hsame⟩
      obtain rfl := Except.ok.inj (hget.symm.trans hothers)
      exact hsame
    · exact fun hsame => ⟨tags, hget, hsame⟩
  refine ⟨e, base, hnamed, htarget, hbase, ⟨tags, hget⟩, ?_⟩
  rw [hseen, hrecorded]
  cases hstored : e.recording.tags with
  | none =>
    -- Nothing is stored, so calls read no tags.
    rw [hstored] at hread
    obtain rfl : TagSet.empty = tags := Except.ok.inj hread
    simp
  | some raw => simp

end Sound

end Provider

namespace ReplayCall

theorem afterAll_tagsUnset {p : Provider} (hp : p.Sound) (hunset : p.TagsUnset)
    (calls : List ReplayCall) : (afterAll p calls).TagsUnset := by
  induction calls generalizing p with
  | nil => exact hunset
  | cons call rest ih =>
    obtain ⟨name, ids, hconfined⟩ := after_confined hp call
    exact ih (after_sound hp call) (hconfined.tagsUnset (by decide) hunset)

/-- Runs that do not mark with the empty key leave every kind so that it can be enumerated. -/
theorem afterAll_enumerable {p : Provider} (hc : Aws.catalog = .ok p.catalog) (hp : p.Sound)
    (henum : p.Enumerable) {calls : List ReplayCall}
    (keyed : ∀ call ∈ calls, call.request.markTag ≠ some "") : (afterAll p calls).Enumerable := by
  refine (afterAll_enumerable_iff_of_sound hc hp calls).2 ⟨henum, ?_⟩
  rintro before call rest rfl ⟨kind, selected, -, htaints, -⟩
  exact keyed call (by simp) htaints.1

/-- After runs that do not mark with the empty key, every kind with tags can be enumerated, and a
policy sees the tags that calls read on a resource that they find, with one exception: if no tags are
stored for it, what the responses show as tags is seen and not read. -/
theorem afterAll_seenAsRead_iff (flight : Flight) (ingest : Ingest) (calls : List ReplayCall)
    {catalog : Catalog} {start : Provider} (hc : Aws.catalog = .ok catalog)
    (hstart : Provider.ofFlight catalog flight ingest = .ok start)
    (keyed : ∀ call ∈ calls, call.request.markTag ≠ some "") {name : String} {kind : ResourceKind}
    {shape : TagShape} (hk : catalog.get name = .ok kind) (hshape : kind.tagShape = some shape) :
    ∃ resources, (afterAll start calls).resources name = .ok resources ∧ ∀ d ∈ resources,
      (resources.map (·.1.id)).count d.1.id = 1 → (afterAll start calls).Passes d.1.id →
      d.1.id ∉ (afterAll start calls).missing →
      ∃ e base, (afterAll start calls).named kind.typeName d.1.id = [e] ∧ e.target = d.1 ∧
        Provider.baseOf flight.source kind e.recording = .ok base ∧
        (∃ tags, ((afterAll start calls).getTags d.1).1 = .ok tags) ∧
        ((afterAll start calls).SeenAsRead d ↔
          e.recording.tags.isSome = true ∨ Policy.recordTags base = .ok .empty) := by
  have hsteady := Aws.steady hc
  have hp := Provider.ofFlight_sound hsteady hstart
  obtain rfl := Provider.ofFlight_catalog hstart
  have hsound := afterAll_sound hp calls
  have hfound : (afterAll start calls).catalog.get name = .ok kind := by
    rw [afterAll_catalog hp, hk]
  have hkind := hsound.steady.get_typeName hfound
  obtain ⟨resources, hresources⟩ :=
    afterAll_enumerable hc hp (Provider.ofFlight_enumerable hsteady hstart) keyed kind
      (Catalog.get_eq_ok hfound).1
  refine ⟨resources, (Provider.resources_of_get hsound.steady hfound).trans hresources, ?_⟩
  intro d hd unique passes present
  have hunset := afterAll_tagsUnset hp (Provider.ofFlight_tagsUnset hstart) calls
  rw [← Provider.ofFlight_source hstart, ← afterAll_source hp calls]
  exact hsound.seenAsRead_iff hunset hkind hshape hresources hd unique passes present

/-- A cluster that is listed with its tags. Nothing is stored for it. -/
def listedTags : Flight where
  resources := [("memorydb", [{
    listed := .obj [("ARN", .str "arn:a"), ("Name", .str "a"),
      ("Tags", .arr [.obj [("Key", .str "owner"), ("Value", .str "policy")]])] }])]

def setOwner : ReplayCall where
  request := { kind := "memorydb", add := [("owner", "nobody")] }
  settings := {}
  now := ⟨0⟩

theorem afterAll_seenAsRead_iff_listedTags : ∃ catalog start record,
    Aws.catalog = .ok catalog ∧ Provider.ofFlight catalog listedTags .strict = .ok start ∧
    (∀ call ∈ [setOwner], call.request.markTag ≠ some "") ∧
    catalog.get "memorydb" = .ok Aws.memorydb ∧ Aws.memorydb.tagShape = some .pascal ∧
    (afterAll start [setOwner]).resources "memorydb" =
      .ok [(⟨"memorydb", "a", some "arn:a"⟩, record)] ∧
    (afterAll start [setOwner]).Passes "a" ∧ "a" ∉ (afterAll start [setOwner]).missing ∧
    (afterAll start [setOwner]).SeenAsRead (⟨"memorydb", "a", some "arn:a"⟩, record) := by
  have keyed : ∀ call ∈ [setOwner], call.request.markTag ≠ some "" := by
    simp [setOwner]
  refine ⟨_, _, _, Aws.catalog_eq, rfl, keyed, rfl, rfl, rfl, rfl, List.not_mem_nil, ?_⟩
  have hk (order : List String) :
      Catalog.get ⟨Aws.kinds, order⟩ "memorydb" = .ok Aws.memorydb := rfl
  obtain ⟨resources, hresources, hseen⟩ :=
    afterAll_seenAsRead_iff listedTags .strict [setOwner] Aws.catalog_eq rfl keyed (hk _) rfl
  obtain rfl := Except.ok.inj hresources
  obtain ⟨e, base, hnamed, -, -, -, hiff⟩ :=
    hseen _ List.mem_cons_self rfl rfl List.not_mem_nil
  obtain rfl := (List.cons.inj hnamed).1
  exact hiff.2 (.inl rfl)

/-- A cluster for which nothing is stored has a tag in its record that calls do not read. -/
theorem listed_tags_unread : ∃ catalog start record,
    Aws.catalog = .ok catalog ∧ Provider.ofFlight catalog listedTags .strict = .ok start ∧
    start.resources "memorydb" = .ok [(⟨"memorydb", "a", some "arn:a"⟩, record)] ∧
    Policy.recordTags record = .ok (.ofList [("owner", "policy")]) ∧
    (start.getTags ⟨"memorydb", "a", some "arn:a"⟩).1 = .ok .empty :=
  ⟨_, _, _, Aws.catalog_eq, rfl, rfl, rfl, rfl⟩

end ReplayCall

end TagGovernance
