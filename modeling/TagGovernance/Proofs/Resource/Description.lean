import TagGovernance.Proofs.Resource.Record
import TagGovernance.Proofs.Tag.Payload

/-!
# What a description holds

A description is a base in which a few fields are set. The base is the listed item, or what becomes of
the response of the detail call: it stays as it is, loses its metadata, gets fields from around it, or
is one of its own fields. Then the recorded tags are set in the field `Tags`, and of each recorded side
response the log destinations or the policy in the field of its annotation. Whatever else the base
holds, under whatever names, is there as before, and a base in which nothing is set need not even be an
object.

That nothing is lost is shown on look-ups, key by key; the order of the fields and repeated fields in
the responses make no difference.
-/

namespace TagGovernance

namespace Annotation

/-- What of the response of a side call is attached. -/
inductive Extracts (response : Json) : Annotation → Json → Prop
  | destinations {logging destinations : Json}
      (configured : response.field? "LoggingConfiguration" = some logging)
      (listed : logging.field? "LogDestinationConfigs" = some destinations) :
      Extracts response .logging destinations
  | noDestinations (unlisted : ∀ logging, response.field? "LoggingConfiguration" = some logging →
        logging.field? "LogDestinationConfigs" = none) :
      Extracts response .logging (.arr [])
  | document {document : Json} (attached : response.field? "Policy" = some document) :
      Extracts response .policy document
  | noDocument (missing : response.field? "Policy" = none) : Extracts response .policy .null

variable {a : Annotation} {response value : Json}

theorem path?_destinations (response : Json) :
    response.path? "LoggingConfiguration.LogDestinationConfigs" =
      (response.field? "LoggingConfiguration").bind (·.field? "LogDestinationConfigs") := by
  have hpath : Text.pieces '.' "LoggingConfiguration.LogDestinationConfigs" =
      ["LoggingConfiguration", "LogDestinationConfigs"] := by decide
  rw [Json.path?, hpath, Json.follow?]
  exact congrArg _ (funext fun _ => Option.bind_fun_some _)

/-- Each response has one part that is attached, and it is the extracted one. -/
theorem extracts_iff : a.Extracts response value ↔ a.extract response = value := by
  constructor
  · rintro (⟨configured, listed⟩ | unlisted | attached | missing)
    · rw [extract, path?_destinations, configured, Option.bind_some, listed, Option.getD_some]
    · have hnone : (response.field? "LoggingConfiguration").bind
          (·.field? "LogDestinationConfigs") = none := Option.bind_eq_none_iff.2 unlisted
      rw [extract, path?_destinations, hnone, Option.getD_none]
    · rw [extract, attached, Option.getD_some]
    · rw [extract, missing, Option.getD_none]
  · rintro rfl
    cases a with
    | logging =>
      rw [extract, path?_destinations]
      cases hlisted : (response.field? "LoggingConfiguration").bind
          (·.field? "LogDestinationConfigs") with
      | none => exact .noDestinations (Option.bind_eq_none_iff.1 hlisted)
      | some destinations =>
        obtain ⟨logging, hlogging, hlisted⟩ := Option.bind_eq_some_iff.1 hlisted
        exact .destinations hlogging hlisted
    | policy =>
      rw [extract]
      cases hpolicy : response.field? "Policy" with
      | none => exact .noDocument hpolicy
      | some document => exact .document hpolicy

end Annotation

namespace Reshape

/-- What the response of a detail call comes to, next to what was listed. -/
inductive Makes (listed : Json) : Augment → Json → Json → Prop
  | plain (response : Json) : Makes listed .plain response response
  | firewall {response inner fields : List (String × Json)}
      (wrapped : Keyed.find? "Firewall" response = some (.obj inner))
      (status : Keyed.find? "FirewallStatus" fields =
        some ((Keyed.find? "FirewallStatus" response).getD (.obj [])))
      (token : Keyed.find? "UpdateToken" fields =
        (Keyed.find? "UpdateToken" response).or (Keyed.find? "UpdateToken" inner))
      (others : Keyed.AgreeOff ["FirewallStatus", "UpdateToken"] fields inner) :
      Makes listed .firewall (.obj response) (.obj fields)
  | accessPoint {response fields : List (String × Json)} {arn : String}
      (known : listed.field? "AccessPointArn" = some (.str arn))
      (named : Keyed.find? "AccessPointArn" fields = some (.str arn))
      (metadata : Keyed.find? "ResponseMetadata" fields = none)
      (others : Keyed.AgreeOff ["AccessPointArn", "ResponseMetadata"] fields response) :
      Makes listed .accessPoint (.obj response) (.obj fields)
  | storageLens {response fields : List (String × Json)}
      (metadata : Keyed.find? "ResponseMetadata" fields = none)
      (others : Keyed.AgreeOff ["ResponseMetadata"] fields response) :
      Makes listed .storageLens (.obj response) (.obj fields)
  /-- Only an object has metadata to lose. -/
  | bareLens {response : Json} (bare : response.asObject? = none) :
      Makes listed .storageLens response response
  | hoist {key : String} {response : List (String × Json)} {lifted : Json}
      (data : key ≠ "ResponseMetadata") (wrapped : Keyed.find? key response = some lifted) :
      Makes listed (.hoist key) (.obj response) lifted

variable {listed detail base : Json} {fields : List (String × Json)} {key : String}
  {error : RecordError}

theorem fieldsOf_eq_ok : fieldsOf error base = .ok fields ↔ base = .obj fields := by
  cases base <;> simp [fieldsOf]

theorem fieldOf_eq_ok : fieldOf error key fields = .ok base ↔ Keyed.find? key fields = some base := by
  rw [fieldOf]
  cases Keyed.find? key fields <;> simp

theorem withoutMetadata_eq_obj : withoutMetadata detail = .obj fields ↔
    ∃ response, detail = .obj response ∧ Keyed.erase "ResponseMetadata" response = fields := by
  cases detail <;> simp [withoutMetadata]

theorem find?_erase_metadata (h : key ≠ "ResponseMetadata") (response : List (String × Json)) :
    Keyed.find? key (Keyed.erase "ResponseMetadata" response) = Keyed.find? key response := by
  rw [Keyed.find?_erase, if_neg h]

theorem makes_firewall (h : firewall detail = .ok base) : Makes listed .firewall detail base := by
  obtain ⟨stripped, hstripped, h⟩ := Fallible.bind_eq_ok.1 h
  obtain ⟨response, rfl, rfl⟩ := withoutMetadata_eq_obj.1 (fieldsOf_eq_ok.1 hstripped)
  obtain ⟨wrapped, hwrapped, h⟩ := Fallible.bind_eq_ok.1 h
  obtain ⟨inner, hinner, h⟩ := Fallible.bind_eq_ok.1 h
  obtain rfl := fieldsOf_eq_ok.1 hinner
  have hwrapped := fieldOf_eq_ok.1 hwrapped
  rw [find?_erase_metadata (by decide)] at hwrapped
  rw [find?_erase_metadata (by decide), find?_erase_metadata (by decide)] at h
  obtain rfl := Except.ok.inj h
  have htoken : "UpdateToken" ∈ ["FirewallStatus", "UpdateToken"] := by decide
  refine .firewall hwrapped (Keyed.find?_put_self ..) ?_ ?_
  · rw [Keyed.find?_put_of_ne (by decide)]
    cases Keyed.find? "UpdateToken" response with
    | none => rfl
    | some token => exact Keyed.find?_put_self ..
  · refine (Keyed.AgreeOff.put_self List.mem_cons_self _ _).trans ?_
    cases Keyed.find? "UpdateToken" response with
    | none => exact .refl _ _
    | some token => exact .put_self htoken token inner

theorem makes_accessPoint (h : accessPoint listed detail = .ok base) :
    Makes listed .accessPoint detail base := by
  unfold accessPoint at h
  split at h
  · cases h
  · rename_i arn harn
    obtain ⟨stripped, hstripped, h⟩ := Fallible.bind_eq_ok.1 h
    obtain ⟨response, rfl, rfl⟩ := withoutMetadata_eq_obj.1 (fieldsOf_eq_ok.1 hstripped)
    obtain rfl := Except.ok.inj h
    obtain ⟨named, hnamed, htext⟩ := Option.bind_eq_some_iff.1 harn
    obtain rfl : named = .str arn := by cases named <;> simp_all [Json.asString?]
    refine .accessPoint hnamed (Keyed.find?_put_self ..) ?_ fun key hkey => ?_
    · rw [Keyed.find?_put_of_ne (by decide), Keyed.find?_erase, if_pos rfl]
    · obtain ⟨harn, hmetadata⟩ : key ≠ "AccessPointArn" ∧ key ≠ "ResponseMetadata" := by
        simpa using hkey
      rw [Keyed.find?_put_of_ne (Ne.symm harn), find?_erase_metadata hmetadata]

theorem makes_storageLens (detail : Json) :
    Makes listed .storageLens detail (storageLens detail) := by
  cases detail with
  | obj response =>
    refine .storageLens ?_ fun key hkey => ?_
    · rw [Keyed.find?_erase, if_pos rfl]
    · exact find?_erase_metadata (by simpa using hkey) response
  | _ => exact .bareLens rfl

theorem makes_hoist (h : hoist key detail = .ok base) : Makes listed (.hoist key) detail base := by
  unfold hoist at h
  split at h
  · rename_i lifted hlifted
    obtain rfl := Except.ok.inj h
    cases detail with
    | obj response =>
      rw [withoutMetadata, Json.field?_obj, Keyed.find?_erase] at hlifted
      split at hlifted
      · cases hlifted
      · exact .hoist ‹_› hlifted
    | _ => cases hlifted
  · cases h

end Reshape

namespace ResourceKind

variable {kind : ResourceKind} {rec : Recording} {ingest : Ingest} {base record : Json}

/-- What the responses of a resource come to before anything is set in it. -/
inductive HasBase (kind : ResourceKind) (rec : Recording) : Json → Prop
  | listed (undetailed : rec.detail = none) : HasBase kind rec rec.listed
  | reshaped {detail base : Json} (detailed : rec.detail = some detail)
      (makes : Reshape.Makes rec.listed kind.augment detail base) : HasBase kind rec base

theorem hasBase_of_baseRecord (h : kind.baseRecord rec = .ok base) : kind.HasBase rec base := by
  unfold baseRecord at h
  split at h
  · rename_i hdetail
    obtain rfl := Except.ok.inj h
    exact .listed hdetail
  · rename_i detail hdetail
    refine .reshaped hdetail ?_
    cases haugment : kind.augment with
    | plain =>
      rw [haugment] at h
      obtain rfl := Except.ok.inj h
      exact .plain detail
    | firewall =>
      rw [haugment] at h
      exact Reshape.makes_firewall h
    | accessPoint =>
      rw [haugment] at h
      exact Reshape.makes_accessPoint h
    | storageLens =>
      rw [haugment] at h
      obtain rfl := Except.ok.inj h
      exact Reshape.makes_storageLens detail
    | hoist key =>
      rw [haugment] at h
      exact Reshape.makes_hoist h

def Untagged (kind : ResourceKind) (rec : Recording) : Prop :=
  kind.tagShape = none ∨ rec.tags = none

def Unnoted (kind : ResourceKind) (rec : Recording) : Prop :=
  ∀ a ∈ kind.annotations, Keyed.find? a.call rec.responses = none

theorem readTags_of_untagged (h : kind.Untagged rec) : kind.readTags ingest rec = .ok none := by
  unfold readTags
  rcases h with h | h
  · rw [h]
  · rw [h]
    cases kind.tagShape <;> rfl

theorem readTags_of_tagged {shape : TagShape} {raw : Json} {tags : Option TagSet}
    (hshape : kind.tagShape = some shape) (htags : rec.tags = some raw)
    (h : kind.readTags ingest rec = .ok tags) :
    ∃ read, shape.decode raw ingest = .ok read ∧ tags = some read := by
  simp only [readTags, hshape, htags] at h
  obtain ⟨read, hread, rfl⟩ := Fallible.map_eq_ok.1 h
  exact ⟨read, Fallible.mapError_eq_ok.1 (Fallible.mapError_eq_ok.1 hread), rfl⟩

theorem mem_notes {a : Annotation} {value : Json} : (a.key, value) ∈ kind.notes rec ↔
    a ∈ kind.annotations ∧ (Keyed.find? a.call rec.responses).map a.extract = some value := by
  have hkey : Function.Injective Annotation.key := by
    intro a b
    cases a <;> cases b <;> decide
  simp only [notes, List.mem_filterMap, Option.map_eq_some_iff, Prod.mk.injEq]
  constructor
  · rintro ⟨b, hb, response, hresponse, hsame, rfl⟩
    obtain rfl := hkey hsame
    exact ⟨hb, response, hresponse, rfl⟩
  · rintro ⟨ha, response, hresponse, rfl⟩
    exact ⟨a, ha, response, hresponse, rfl, rfl⟩

/-- A side response is found in the field of its annotation, which is left alone if there is none. -/
theorem find?_attached_key {a : Annotation} (ha : a ∈ kind.annotations) (tags : Option TagSet)
    (fields : List (String × Json)) :
    Keyed.find? a.key (Keyed.putAll fields (kind.attached rec tags)) =
      ((Keyed.find? a.call rec.responses).map a.extract).or (Keyed.find? a.key fields) := by
  have hother : a.key ≠ "Tags" := by cases a <;> decide
  have hkept : Keyed.find? a.key (Keyed.putAll fields
      (tags.map fun tags => ("Tags", TagShape.pascal.encode tags)).toList) =
        Keyed.find? a.key fields := by
    refine Keyed.find?_putAll fun hmem => hother ?_
    obtain ⟨p, hp, hkey⟩ := List.mem_map.1 hmem
    obtain ⟨_, -, rfl⟩ := Option.map_eq_some_iff.1 (Option.mem_toList.1 hp)
    exact hkey.symm
  rw [attached, Keyed.putAll_append]
  cases hnote : (Keyed.find? a.call rec.responses).map a.extract with
  | none =>
    rw [Option.none_or, ← hkept]
    refine Keyed.find?_putAll fun hmem => ?_
    obtain ⟨⟨_, value⟩, hvalue, rfl⟩ := List.mem_map.1 hmem
    cases hnote.symm.trans (mem_notes.1 hvalue).2
  | some value =>
    rw [Option.some_or]
    refine Keyed.find?_putAll_of_unique (mem_notes.2 ⟨ha, hnote⟩) fun v hv => ?_
    exact Option.some.inj ((mem_notes.1 hv).2.symm.trans hnote)

theorem attached_eq_nil (h : kind.Unnoted rec) : kind.attached rec none = [] := by
  rw [attached, Option.map_none, Option.toList_none, List.nil_append, notes,
    List.filterMap_eq_nil_iff]
  intro a ha
  rw [h a ha, Option.map_none]

theorem attach_bare (bare : base.asObject? = none) (key : String) (value : Json) :
    kind.attach key value base = .error (.notAnObject kind.typeName) := by
  cases base with
  | obj fields => cases bare
  | _ => rfl

private theorem unnoted_of_bare {annotations : List Annotation} (bare : base.asObject? = none)
    (h : annotations.foldlM (kind.attachAnnotation rec) base = .ok record) :
    record = base ∧ ∀ a ∈ annotations, Keyed.find? a.call rec.responses = none := by
  induction annotations with
  | nil => exact ⟨(Except.ok.inj h).symm, nofun⟩
  | cons a rest ih =>
    rw [List.foldlM_cons, attachAnnotation] at h
    cases hnote : Keyed.find? a.call rec.responses with
    | some response =>
      simp only [hnote, attach_bare bare] at h
      cases h
    | none =>
      rw [hnote, Fallible.ok_bind] at h
      obtain ⟨hsame, hrest⟩ := ih h
      exact ⟨hsame, List.forall_mem_cons.2 ⟨hnote, hrest⟩⟩

/-- Nothing can be set in a base that is no object. -/
theorem describe_bare (hbase : kind.baseRecord rec = .ok base) (bare : base.asObject? = none)
    (h : kind.describe rec ingest = .ok record) :
    record = base ∧ kind.Untagged rec ∧ kind.Unnoted rec := by
  rw [describe, hbase, Fallible.mapError_ok, Fallible.ok_bind] at h
  obtain ⟨tagged, htagged, hnoted⟩ := Fallible.bind_eq_ok.1 h
  have huntagged : tagged = base ∧ kind.Untagged rec := by
    unfold attachTags at htagged
    cases hshape : kind.tagShape with
    | none =>
      rw [hshape] at htagged
      exact ⟨(Except.ok.inj htagged).symm, .inl hshape⟩
    | some shape =>
      cases htags : rec.tags with
      | none =>
        rw [hshape, htags] at htagged
        exact ⟨(Except.ok.inj htagged).symm, .inr htags⟩
      | some raw =>
        rw [hshape, htags] at htagged
        obtain ⟨tags, -, hset⟩ := Fallible.bind_eq_ok.1 htagged
        rw [attach_bare bare] at hset
        cases hset
  obtain ⟨rfl, huntagged⟩ := huntagged
  obtain ⟨hsame, hunnoted⟩ := unnoted_of_bare bare (Fallible.mapError_eq_ok.1 hnoted)
  exact ⟨hsame, huntagged, hunnoted⟩

def pascalList (tags : List (String × String)) : Json :=
  .arr (tags.map fun tag => .obj [("Key", .str tag.1), ("Value", .str tag.2)])

/-- A record is a base in which tags and side responses of a recording are set. -/
structure Completes (kind : ResourceKind) (rec : Recording) (ingest : Ingest) (base record : Json) :
    Prop where
  others : ∀ key, key ≠ "Tags" → (∀ a ∈ kind.annotations, a.key ≠ key) →
    record.field? key = base.field? key
  /-- Recorded tags are shown in key order, and what is shown is read as what was recorded. -/
  tags : ∀ shape raw, kind.tagShape = some shape → rec.tags = some raw → ∃ read entries,
    shape.decode raw ingest = .ok read ∧ record.field? "Tags" = some (pascalList entries) ∧
      Keyed.Ascending entries ∧ ∀ mode, TagShape.pascal.decode (pascalList entries) mode = .ok read
  untagged : kind.Untagged rec → record.field? "Tags" = base.field? "Tags"
  noted : ∀ a ∈ kind.annotations, ∀ response, Keyed.find? a.call rec.responses = some response →
    ∃ value, a.Extracts response value ∧ record.field? a.key = some value
  unnoted : ∀ a ∈ kind.annotations, Keyed.find? a.call rec.responses = none →
    record.field? a.key = base.field? a.key
  bare : kind.Untagged rec → kind.Unnoted rec → record = base

theorem completes_obj {fields : List (String × Json)} {tags : Option TagSet}
    (htags : kind.readTags ingest rec = .ok tags) : kind.Completes rec ingest (.obj fields)
      (.obj (Keyed.putAll fields (kind.attached rec tags))) where
  others key hkey hnotes := by
    refine Keyed.find?_putAll fun hmem => ?_
    rw [Keyed.keys, attached, List.map_append, List.mem_append] at hmem
    rcases hmem with hmem | hmem
    · obtain ⟨p, hp, rfl⟩ := List.mem_map.1 hmem
      obtain ⟨_, -, rfl⟩ := Option.map_eq_some_iff.1 (Option.mem_toList.1 hp)
      exact hkey rfl
    · obtain ⟨p, hp, rfl⟩ := List.mem_map.1 hmem
      obtain ⟨a, ha, hnote⟩ := List.mem_filterMap.1 hp
      obtain ⟨_, -, rfl⟩ := Option.map_eq_some_iff.1 hnote
      exact hnotes a ha rfl
  tags shape raw hshape hraw := by
    obtain ⟨read, hread, rfl⟩ := readTags_of_tagged hshape hraw htags
    refine ⟨read, read.entries, hread, find?_attached (some read) fields, read.ascending,
      fun mode => ?_⟩
    have hback := TagShape.decode_encode .pascal read mode
    rwa [TagShape.decode_has_empty hread] at hback
  untagged h := by
    obtain rfl := Except.ok.inj (htags.symm.trans (readTags_of_untagged h))
    exact find?_attached none fields
  noted a ha response hresponse := by
    refine ⟨a.extract response, Annotation.extracts_iff.2 rfl, ?_⟩
    exact (find?_attached_key ha tags fields).trans (by rw [hresponse]; rfl)
  unnoted a ha hresponse := (find?_attached_key ha tags fields).trans (by rw [hresponse]; rfl)
  bare h hnotes := by
    obtain rfl := Except.ok.inj (htags.symm.trans (readTags_of_untagged h))
    rw [attached_eq_nil hnotes]
    rfl

theorem completes_bare (huntagged : kind.Untagged rec) (hunnoted : kind.Unnoted rec) :
    kind.Completes rec ingest base base where
  others _ _ _ := rfl
  tags shape raw hshape hraw := by
    rcases huntagged with h | h
    · cases h.symm.trans hshape
    · cases h.symm.trans hraw
  untagged _ := rfl
  noted a ha response hresponse := by cases (hunnoted a ha).symm.trans hresponse
  unnoted _ _ _ := rfl
  bare _ _ := rfl

/-- The record that any kind describes completes the base that the responses give: the listed item, or
what the kind makes of the response of the detail call. Nothing but the tags and the recorded side
responses is set in it, each in its own field, whatever stood there before. -/
theorem describe_completes (h : kind.describe rec ingest = .ok record) : ∃ base,
    kind.baseRecord rec = .ok base ∧ kind.HasBase rec base ∧ kind.Completes rec ingest base record := by
  obtain ⟨base, hbase, -⟩ := Fallible.bind_eq_ok.1 h
  have hbase := Fallible.mapError_eq_ok.1 hbase
  refine ⟨base, hbase, hasBase_of_baseRecord hbase, ?_⟩
  cases hobject : base.asObject? with
  | some fields =>
    obtain rfl : base = .obj fields := by cases base <;> simp_all [Json.asObject?]
    rw [describe_obj hbase] at h
    obtain ⟨tags, htags, rfl⟩ := Fallible.map_eq_ok.1 h
    exact completes_obj htags
  | none =>
    obtain ⟨rfl, huntagged, hunnoted⟩ := describe_bare hbase hobject h
    exact completes_bare huntagged hunnoted

/-- A firewall whose own fields have the names of those that are set in it. A key is recorded twice,
and the logging configuration has fields around the destinations. -/
def crowdedFirewall : Recording where
  detail := some (.obj [
    ("Firewall", .obj [("FirewallName", .str "a"), ("Tags", .str "none"),
      ("govtag:Logging", .null), ("govtag:Policy", .str "own")]),
    ("ResponseMetadata", .obj []),
    ("UpdateToken", .str "t")])
  tags := some (.arr [
    .obj [("Key", .str "zone"), ("Value", .str "b")],
    .obj [("Key", .str "app"), ("Value", .str "web")],
    .obj [("Key", .str "zone"), ("Value", .str "c")]])
  responses := [("describe_logging_configuration", .obj [
    ("FirewallName", .str "a"),
    ("LoggingConfiguration", .obj [
      ("LogDestinationConfigs", .arr [.obj [("LogType", .str "ALERT")]]),
      ("Version", .int 2)])])]

/-- An access point with a policy and with recorded tags, for which its kind has no use. -/
def sharedPoint : Recording where
  listed := .obj [("AccessPointArn", .str "arn:p"), ("Name", .str "p")]
  detail := some (.obj [("Name", .str "p"), ("Tags", .null), ("ResponseMetadata", .obj [])])
  tags := some (.arr [])
  responses := [("get_access_point_policy", .obj [
    ("Policy", .str "any"), ("ResponseMetadata", .obj [])])]

theorem describe_completes_recorded :
    (∃ record base, Aws.firewall.describe crowdedFirewall .lastWins = .ok record ∧
      record = .obj [("FirewallName", .str "a"), ("FirewallStatus", .obj []),
        ("Tags", pascalList [("app", "web"), ("zone", "c")]), ("UpdateToken", .str "t"),
        ("govtag:Logging", .arr [.obj [("LogType", .str "ALERT")]]),
        ("govtag:Policy", .str "own")] ∧
      Aws.firewall.baseRecord crowdedFirewall = .ok base ∧
      Aws.firewall.HasBase crowdedFirewall base ∧
      Aws.firewall.Completes crowdedFirewall .lastWins base record) ∧
    ∃ record base, Aws.accessPoint.describe sharedPoint .strict = .ok record ∧
      record = .obj [("AccessPointArn", .str "arn:p"), ("Name", .str "p"), ("Tags", .null),
        ("govtag:Policy", .str "any")] ∧
      Aws.accessPoint.baseRecord sharedPoint = .ok base ∧
      Aws.accessPoint.HasBase sharedPoint base ∧
      Aws.accessPoint.Completes sharedPoint .strict base record := by
  constructor
  · obtain ⟨base, hbase⟩ := @describe_completes Aws.firewall crowdedFirewall .lastWins _ rfl
    exact ⟨_, base, rfl, rfl, hbase⟩
  · obtain ⟨base, hbase⟩ := @describe_completes Aws.accessPoint sharedPoint .strict _ rfl
    exact ⟨_, base, rfl, rfl, hbase⟩

/-- A firewall without a logging configuration has no destinations. -/
example :
    let unconfigured : Recording :=
      { listed := .obj [], responses := [("describe_logging_configuration", .obj [])] }
    Aws.firewall.describe unconfigured .strict = .ok (.obj [("govtag:Logging", .arr [])]) := rfl

/-- A listed text is described as it is, by a kind that has no use for the recorded tags. -/
example : Aws.multiRegionAccessPoint.describe { listed := .str "a", tags := some (.arr []) } .strict =
    .ok (.str "a") := rfl

end ResourceKind

end TagGovernance
