import TagGovernance.Proofs.Provider.Effect

/-!
# Enumerating resources

What a provider enumerates are its entries. An entry of a provider that was made from a flight is
sound: its responses give an object that its reference is read from, and the fields that were set
since do not hide that. Calls keep entries sound. So the resources of a kind are its entries with
their records, in order, and their enumeration can fail only for tags that cannot be read.
-/

namespace TagGovernance

namespace Provider

variable {source : Source} {kind : ResourceKind} {rec : Recording} {ingest : Ingest}

def viewed (source : Source) (kind : ResourceKind) (rec : Recording) : Except Failure Recording :=
  match source with
  | .describe => .ok rec
  | .config => do
    let listed ← (kind.loadSnapshot rec.listed).mapError .record
    .ok { rec with listed, detail := none }

def baseOf (source : Source) (kind : ResourceKind) (rec : Recording) : Except Failure Json := do
  let view ← viewed source kind rec
  (kind.baseRecord view).mapError .record

theorem baseOf_congr {rec' : Recording} (h : rec' = { rec with tags := rec'.tags }) :
    baseOf source kind rec' = baseOf source kind rec := by
  rw [h]
  cases source with
  | describe => rfl
  | config =>
    unfold baseOf viewed
    cases kind.loadSnapshot rec.listed <;> rfl

private theorem describe_viewed : describe source ingest kind rec =
    viewed source kind rec >>= fun view => kind.describe view ingest := by
  cases source with
  | describe => rfl
  | config =>
    unfold describe viewed
    cases kind.loadSnapshot rec.listed <;> rfl

theorem describe_of_base {fields : List (String × Json)}
    (h : baseOf source kind rec = .ok (.obj fields)) :
    describe source ingest kind rec = (kind.readTags ingest rec).map fun tags =>
      .obj (Keyed.putAll fields (kind.attached rec tags)) := by
  obtain ⟨view, hview, hbase⟩ := Fallible.bind_eq_ok.1 h
  rw [describe_viewed, hview, Fallible.ok_bind,
    ResourceKind.describe_obj (Fallible.mapError_eq_ok.1 hbase)]
  -- A view has the tags and the side responses of its recording.
  cases source with
  | describe =>
    obtain rfl := Except.ok.inj hview
    rfl
  | config =>
    obtain ⟨listed, -, hview⟩ := Fallible.bind_eq_ok.1 hview
    obtain rfl := Except.ok.inj hview
    rfl

theorem base_of_describe {record : Json} {target : ResourceRef}
    (hrecord : describe source ingest kind rec = .ok record) (href : kind.refOf record = .ok target) :
    ∃ fields, baseOf source kind rec = .ok (.obj fields) := by
  rw [describe_viewed] at hrecord
  obtain ⟨view, hview, hrecord⟩ := Fallible.bind_eq_ok.1 hrecord
  obtain ⟨fields, hbase⟩ := ResourceKind.baseRecord_obj hrecord href
  refine ⟨fields, Fallible.bind_eq_ok.2 ⟨view, hview, ?_⟩⟩
  rw [hbase, Fallible.mapError_ok]

end Provider

/-- An entry whose responses show its reference, which no field set since hides. -/
def Entry.Sound (catalog : Catalog) (source : Source) (e : Entry) : Prop :=
  ∃ kind fields, catalog.get e.target.kind = .ok kind ∧
    Provider.baseOf source kind e.recording = .ok (.obj fields) ∧
    kind.refOf (.obj fields) = .ok e.target ∧
    ∀ key ∈ Keyed.keys e.overlay, key ∉ kind.refKeys

/-- Changes keep an entry sound if they set no field that references of its kind are read from. -/
theorem Entry.Sound.updates {catalog : Catalog} {source : Source} {e f : Entry}
    {fields : List String} (h : e.Sound catalog source) (hef : e.Updates fields f)
    (apart : ∀ kind, catalog.get e.target.kind = .ok kind → ∀ key ∈ fields, key ∉ kind.refKeys) :
    f.Sound catalog source := by
  obtain ⟨kind, shown, hk, hbase, href, hoverlay⟩ := h
  refine ⟨kind, shown, ?_, ?_, ?_, ?_⟩
  · rw [hef.target, hk]
  · rw [Provider.baseOf_congr hef.recording, hbase]
  · rw [hef.target, href]
  · intro key hkey
    exact (hef.overlay key hkey).elim (hoverlay key) (apart kind hk key)

namespace Provider

structure Sound (p : Provider) : Prop where
  steady : p.catalog.Steady
  entries : ∀ e ∈ p.entries, e.Sound p.catalog p.source

/-- What is done to some resources keeps all entries sound if it sets no field that references of
their kinds are read from. -/
theorem Confined.sound_of_apart {p q : Provider} {name : String} {ids fields : List String}
    (h : Confined name ids fields p q) (hp : p.Sound)
    (apart : ∀ e ∈ p.entries, e.isOneOf name ids = true → ∀ kind,
      p.catalog.get e.target.kind = .ok kind → ∀ key ∈ fields, key ∉ kind.refKeys) : q.Sound := by
  refine ⟨h.catalog ▸ hp.steady, fun f hf => ?_⟩
  rw [h.catalog, h.source]
  cases hone : f.isOneOf name ids with
  | false =>
    have hmem : f ∈ q.entries.filter fun e => !e.isOneOf name ids :=
      List.mem_filter.2 ⟨hf, by rw [hone]; rfl⟩
    rw [h.others] at hmem
    exact hp.entries f (List.mem_filter.1 hmem).1
  | true =>
    obtain ⟨e, he, hef⟩ := h.kept f hf
    rw [Entry.isOneOf_congr hef.target] at hone
    exact (hp.entries e he).updates hef (apart e he hone)

theorem Confined.sound {p q : Provider} {kind : String} {ids : List String}
    (h : Confined kind ids ["DeleteProtection"] p q) (hp : p.Sound) : q.Sound := by
  refine h.sound_of_apart hp fun e _ _ kind hk key hkey => ?_
  obtain rfl := List.mem_singleton.1 hkey
  exact fun hmem => hp.steady.visible kind (Catalog.get_eq_ok hk).1 _ hmem (by decide)

theorem ofFlight_catalog {catalog : Catalog} {flight : Flight} {ingest : Ingest} {p : Provider}
    (h : ofFlight catalog flight ingest = .ok p) : p.catalog = catalog := by
  obtain ⟨lists, -, h⟩ := Fallible.bind_eq_ok.1 h
  obtain rfl := Except.ok.inj h
  rfl

theorem ofFlight_source {catalog : Catalog} {flight : Flight} {ingest : Ingest} {p : Provider}
    (h : ofFlight catalog flight ingest = .ok p) : p.source = flight.source := by
  obtain ⟨lists, -, h⟩ := Fallible.bind_eq_ok.1 h
  obtain rfl := Except.ok.inj h
  rfl

/-- An entry of a provider that was made from a flight has the reference that its record shows, and
no field of it was updated. -/
theorem mem_ofFlight {catalog : Catalog} {flight : Flight} {ingest : Ingest} {p : Provider}
    (h : ofFlight catalog flight ingest = .ok p) {e : Entry} (he : e ∈ p.entries) :
    ∃ name kind record, p.catalog.get name = .ok kind ∧
      describe p.source p.ingest kind e.recording = .ok record ∧
      kind.refOf record = .ok e.target ∧ e.overlay = [] := by
  obtain ⟨lists, hlists, h⟩ := Fallible.bind_eq_ok.1 h
  obtain rfl := Except.ok.inj h
  obtain ⟨list, hlist, he⟩ := List.mem_flatten.1 he
  obtain ⟨group, -, hgroup⟩ := Fallible.mem_of_mapM hlists hlist
  obtain ⟨kind, hk, hgroup⟩ := Fallible.bind_eq_ok.1 hgroup
  obtain ⟨rec, -, hrec⟩ := Fallible.mem_of_mapM hgroup he
  obtain ⟨-, -, hrec⟩ := Fallible.bind_eq_ok.1 hrec
  obtain ⟨record, hrecord, hrec⟩ := Fallible.bind_eq_ok.1 hrec
  obtain ⟨target, href, hrec⟩ := Fallible.bind_eq_ok.1 hrec
  obtain rfl := Except.ok.inj hrec
  exact ⟨group.1, kind, record, Fallible.mapError_eq_ok.1 hk, Fallible.mapError_eq_ok.1 hrecord,
    Fallible.mapError_eq_ok.1 href, rfl⟩

theorem ofFlight_entry {catalog : Catalog} {flight : Flight} {ingest : Ingest} {p : Provider}
    (hc : catalog.Steady) (h : ofFlight catalog flight ingest = .ok p) {e : Entry}
    (he : e ∈ p.entries) : e.Sound p.catalog p.source ∧
      ∃ kind record, p.catalog.get e.target.kind = .ok kind ∧ p.recordOf kind e = .ok record := by
  obtain rfl := ofFlight_catalog h
  obtain ⟨name, kind, record, hk, hrecord, href, hoverlay⟩ := mem_ofFlight h he
  have hk := hc.get_typeName hk
  obtain ⟨fields, hbase⟩ := base_of_describe hrecord href
  have hshown := (describe_of_base hbase).symm.trans hrecord
  obtain ⟨tags, -, rfl⟩ := Fallible.map_eq_ok.1 hshown
  rw [← ResourceKind.refOf_kind href] at hk
  refine ⟨⟨kind, fields, hk, hbase, ?_, hoverlay ▸ nofun⟩,
    kind, .obj (Keyed.putAll fields (kind.attached e.recording tags)), hk, ?_⟩
  · rw [← href, ResourceKind.refOf_putAll (ResourceKind.attached_apart hc (Catalog.get_eq_ok hk).1)]
  · rw [recordOf, hrecord, hoverlay]
    rfl

namespace Sound

variable {p : Provider} {e : Entry}

/-- The record of a sound entry can be made if its tags can be read, and shows its reference. -/
theorem recordOf (hp : p.Sound) (he : e ∈ p.entries) (hk : p.catalog.get e.target.kind = .ok kind) :
    ∃ render, p.recordOf kind e = (kind.readTags p.ingest e.recording).map render ∧
      ∀ tags, kind.refOf (render tags) = .ok e.target := by
  obtain ⟨found, fields, hfound, hbase, href, hoverlay⟩ := hp.entries e he
  obtain rfl : found = kind := Except.ok.inj (hfound.symm.trans hk)
  refine ⟨fun tags => .obj (Keyed.putAll
    (Keyed.putAll fields (found.attached e.recording tags)) e.overlay), ?_, fun tags => ?_⟩
  · rw [Provider.recordOf, describe_of_base hbase]
    cases found.readTags p.ingest e.recording <;> rfl
  · rw [ResourceKind.refOf_putAll hoverlay,
      ResourceKind.refOf_putAll (ResourceKind.attached_apart hp.steady (Catalog.get_eq_ok hk).1), href]

theorem resources_eq (hp : p.Sound) (hk : p.catalog.get kind.typeName = .ok kind) :
    p.resources kind.typeName =
      ((p.entries.filter fun e => e.target.kind = kind.typeName).mapM fun e =>
        (p.recordOf kind e).map (e.target, ·)).mapError fun e => .provider (.other e.line) := by
  have hentries : ∀ e ∈ p.entries.filter (fun e => e.target.kind = kind.typeName),
      e ∈ p.entries ∧ p.catalog.get e.target.kind = .ok kind := by
    intro e he
    obtain ⟨hmem, hkind⟩ := List.mem_filter.1 he
    rw [of_decide_eq_true hkind]
    exact ⟨hmem, hk⟩
  unfold resources list kindOf
  simp only [hk, Fallible.mapError_ok, Fallible.ok_bind, Fallible.mapError_mapError]
  refine Fallible.mapM_mapM _ fun e he record hrecord => ?_
  obtain ⟨hmem, hkind⟩ := hentries e he
  obtain ⟨render, hrender, href⟩ := hp.recordOf hmem hkind
  obtain ⟨tags, -, rfl⟩ := Fallible.map_eq_ok.1 (hrender.symm.trans hrecord)
  rw [href, Fallible.mapError_ok, Fallible.ok_bind]

/-- The resources of a kind are its entries with their records. -/
theorem resources_eq_ok (hp : p.Sound) (hk : p.catalog.get kind.typeName = .ok kind)
    {resources : List (ResourceRef × Json)} : p.resources kind.typeName = .ok resources ↔
      List.Forall₂ (fun e d => d.1 = e.target ∧ p.recordOf kind e = .ok d.2)
        (p.entries.filter fun e => e.target.kind = kind.typeName) resources := by
  rw [hp.resources_eq hk, Fallible.mapError_eq_ok, Fallible.mapM_eq_ok]
  have hpair : ∀ (e : Entry) (d : ResourceRef × Json),
      (p.recordOf kind e).map (e.target, ·) = .ok d ↔
        d.1 = e.target ∧ p.recordOf kind e = .ok d.2 := by
    intro e d
    rw [Fallible.map_eq_ok]
    constructor
    · rintro ⟨record, hrecord, rfl⟩
      exact ⟨rfl, hrecord⟩
    · rintro ⟨htarget, hrecord⟩
      exact ⟨d.2, hrecord, Prod.ext htarget.symm rfl⟩
  simp only [hpair]

/-- What was enumerated has an entry. -/
theorem entry_of_resources (hp : p.Sound) (hk : p.catalog.get kind.typeName = .ok kind)
    {resources : List (ResourceRef × Json)} (h : p.resources kind.typeName = .ok resources)
    {d : ResourceRef × Json} (hd : d ∈ resources) :
    ∃ e ∈ p.entries, e.isFor kind.typeName d.1.id = true := by
  rw [hp.resources_eq hk, Fallible.mapError_eq_ok] at h
  obtain ⟨e, he, hrecord⟩ := Fallible.mem_of_mapM h hd
  obtain ⟨he, hkind⟩ := List.mem_filter.1 he
  obtain ⟨record, -, rfl⟩ := Fallible.map_eq_ok.1 hrecord
  exact ⟨e, he, Entry.isFor_iff.2 ⟨of_decide_eq_true hkind, rfl⟩⟩

theorem mem_resources (hp : p.Sound) (hk : p.catalog.get kind.typeName = .ok kind)
    {resources : List (ResourceRef × Json)} (h : p.resources kind.typeName = .ok resources)
    (he : e ∈ p.entries) (hkind : e.target.kind = kind.typeName) :
    ∃ record, (e.target, record) ∈ resources ∧ p.recordOf kind e = .ok record := by
  rw [hp.resources_eq hk, Fallible.mapError_eq_ok] at h
  obtain ⟨d, hd, hrecord⟩ :=
    Fallible.exists_of_mapM h (List.mem_filter.2 ⟨he, decide_eq_true hkind⟩)
  obtain ⟨record, hmade, rfl⟩ := Fallible.map_eq_ok.1 hrecord
  exact ⟨record, hd, hmade⟩

end Sound

theorem ofFlight_sound {catalog : Catalog} {flight : Flight} {ingest : Ingest} {p : Provider}
    (hc : catalog.Steady) (h : ofFlight catalog flight ingest = .ok p) : p.Sound :=
  ⟨ofFlight_catalog h ▸ hc, fun _ he => (ofFlight_entry hc h he).1⟩

/-- A kind may be enumerated under any name that it is found by. -/
theorem resources_of_get {p : Provider} {name : String} (hc : p.catalog.Steady)
    (h : p.catalog.get name = .ok kind) : p.resources name = p.resources kind.typeName := by
  unfold resources list kindOf
  rw [h, hc.get_typeName h]

namespace Confined

variable {p q : Provider} {name : String} {ids fields : List String}

theorem recordOf (h : Confined name ids fields p q) (kind : ResourceKind) :
    q.recordOf kind = p.recordOf kind := by
  funext e
  rw [Provider.recordOf, Provider.recordOf, h.source, h.ingest]

theorem resources_other (h : Confined name ids fields p q) {other : String}
    (hother : Catalog.bareName other ≠ name) : q.resources other = p.resources other := by
  unfold resources list kindOf
  rw [h.catalog]
  cases hk : p.catalog.get other with
  | error e => rfl
  | ok kind =>
    have hentries : (q.entries.filter fun e => e.target.kind = kind.typeName) =
        p.entries.filter fun e => e.target.kind = kind.typeName := by
      refine h.filter_eq fun e he => Bool.eq_false_iff.2 fun hone => hother ?_
      rw [← (Catalog.get_eq_ok hk).2, ← of_decide_eq_true he, (Entry.isOneOf_iff.1 hone).1]
    simp only [Fallible.mapError_ok, Fallible.ok_bind, hentries, h.recordOf]

/-- Resources of the kind with other ids keep their records and their order. -/
theorem resources_kept (h : Confined kind.typeName ids ["DeleteProtection"] p q) (hp : p.Sound)
    (hk : p.catalog.get kind.typeName = .ok kind) {before after : List (ResourceRef × Json)}
    (hbefore : p.resources kind.typeName = .ok before)
    (hafter : q.resources kind.typeName = .ok after) :
    (after.filter fun d => d.1.id ∉ ids) = before.filter fun d => d.1.id ∉ ids := by
  have hsame : ∀ (entries : List Entry) (resources : List (ResourceRef × Json)),
      List.Forall₂ (fun e d => d.1 = e.target ∧ p.recordOf kind e = .ok d.2) entries resources →
      List.Forall₂ (fun e d => d.1 = e.target ∧ p.recordOf kind e = .ok d.2)
        (entries.filter fun e => e.target.id ∉ ids) (resources.filter fun d => d.1.id ∉ ids) :=
    fun _ _ h => List.rel_filter (fun _ _ hd => by simp [hd.1]) h
  have hentries : ((q.entries.filter fun e => e.target.kind = kind.typeName).filter
      fun e => e.target.id ∉ ids) = (p.entries.filter fun e => e.target.kind = kind.typeName).filter
      fun e => e.target.id ∉ ids := by
    simp only [List.filter_filter]
    refine h.filter_eq fun e he => Bool.eq_false_iff.2 fun hone => ?_
    simp [(Entry.isOneOf_iff.1 hone).2] at he
  have hbefore := hsame _ _ ((hp.resources_eq_ok hk).1 hbefore)
  have hafter := ((h.sound hp).resources_eq_ok (h.catalog ▸ hk)).1 hafter
  rw [h.recordOf] at hafter
  have hafter := hsame _ _ hafter
  rw [hentries] at hafter
  refine List.right_unique_forall₂' (fun e d d' hd hd' => ?_) hafter hbefore
  exact Prod.ext (hd.1.trans hd'.1.symm) (Except.ok.inj (hd.2.symm.trans hd'.2))

end Confined

end Provider

end TagGovernance
