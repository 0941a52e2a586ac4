import TagGovernance.Proofs.Provider.Enumeration

/-!
# Firewalls from two sources

A firewall can be described by the response of a call or taken from a configuration snapshot. The
response has the firewall next to its status and its update token, the snapshot wraps it in a field;
apart from these two fields both come to the fields of the firewall, whatever else the response
holds and whatever names the firewall's own fields have. What is attached afterwards is the same, so
the two sources give the same reference and the same record but for the two fields, or both fail
alike.
-/

namespace TagGovernance

theorem ResourceKind.checkRecording_eq_ok {kind : ResourceKind} {rec : Recording} :
    kind.checkRecording rec = .ok () ↔
      (rec.detail.isSome = true → kind.detailOp.isSome = true) ∧
        ∀ r ∈ rec.responses, ∃ a ∈ kind.annotations, a.call = r.1 := by
  have hcalls : (rec.responses.find? fun r => kind.annotations.all fun a => a.call ≠ r.1) = none ↔
      ∀ r ∈ rec.responses, ∃ a ∈ kind.annotations, a.call = r.1 := by
    simp
  rw [← hcalls, checkRecording]
  cases rec.responses.find? fun r => kind.annotations.all fun a => a.call ≠ r.1 with
  | none => cases rec.detail <;> cases kind.detailOp <;> simp
  | some r => cases rec.detail <;> cases kind.detailOp <;> simp

namespace Reshape

/-- The fields of a firewall that only the response of a call tells of. -/
def liveFields : List String := ["FirewallStatus", "UpdateToken"]

variable {response inner : List (String × Json)}

theorem firewall_agrees (h : Keyed.find? "Firewall" response = some (.obj inner)) :
    ∃ fields, firewall (.obj response) = .ok (.obj fields) ∧
      Keyed.AgreeOff liveFields fields inner := by
  have hfirewall : Keyed.find? "Firewall" (Keyed.erase "ResponseMetadata" response) =
      some (.obj inner) := by
    rw [Keyed.find?_erase, if_neg (by decide), h]
  have htoken : "UpdateToken" ∈ liveFields := by decide
  have hstatus : "FirewallStatus" ∈ liveFields := by decide
  simp only [firewall, withoutMetadata, fieldsOf, fieldOf, hfirewall, Fallible.ok_bind]
  refine ⟨_, rfl, (Keyed.AgreeOff.put_self hstatus _ _).trans ?_⟩
  cases Keyed.find? "UpdateToken" (Keyed.erase "ResponseMetadata" response) with
  | none => exact .refl _ _
  | some token => exact .put_self htoken token inner

theorem firewallSnapshot_agrees (hnames : (Keyed.keys inner).Nodup) :
    ∃ fields, firewallSnapshot (.obj [("Firewall", .obj inner)]) = .ok (.obj fields) ∧
      Keyed.AgreeOff liveFields fields inner := by
  refine ⟨Keyed.putAll [] inner, rfl, fun key _ => ?_⟩
  simp [Keyed.find?_putAll_of_nodup hnames]

end Reshape

namespace Provider

variable {catalog : Catalog} {source : Source} {ingest : Ingest} {name : String}
  {kind : ResourceKind} {rec : Recording}

/-- The record of a recording with its reference. -/
def shown (source : Source) (ingest : Ingest) (name : String) (kind : ResourceKind)
    (rec : Recording) : Except Failure (ResourceRef × Json) := do
  (kind.checkRecording rec).mapError .record
  let record ← during (.describing name) (describe source ingest kind rec)
  let target ← (kind.refOf record).mapError .record
  .ok (target, record)

def sole (flight : Flight) (source : Source) (name : String) (rec : Recording) : Flight :=
  { flight with source, resources := [(name, [rec])] }

theorem entryOf_eq (source : Source) (ingest : Ingest) (name : String) (kind : ResourceKind)
    (rec : Recording) : entryOf source ingest name kind rec =
      (shown source ingest name kind rec).map fun d => ⟨d.1, rec, []⟩ := by
  rw [entryOf, shown]
  cases (kind.checkRecording rec).mapError Failure.record with
  | error e => rfl
  | ok u =>
    cases during (.describing name) (describe source ingest kind rec) with
    | error e => rfl
    | ok record => cases h : kind.refOf record <;> simp [h, Except.map]

theorem ofFlight_sole (hk : catalog.get name = .ok kind) (flight : Flight) :
    ofFlight catalog (sole flight source name rec) ingest =
      (shown source ingest name kind rec).map fun d =>
        { catalog, source, ingest, entries := [⟨d.1, rec, []⟩], missing := flight.missing,
          errors := flight.errors, calls := [], sessions := 0 } := by
  simp only [ofFlight, sole, Fallible.mapM_cons_eq, List.mapM_nil, entriesOf, hk,
    Fallible.mapError_ok, Fallible.ok_bind, entryOf_eq]
  cases shown source ingest name kind rec <;> rfl

theorem recordOf_recorded (p : Provider) (kind : ResourceKind) (target : ResourceRef)
    (rec : Recording) :
    p.recordOf kind ⟨target, rec, []⟩ = describe p.source p.ingest kind rec := by
  rw [recordOf]
  cases describe p.source p.ingest kind rec with
  | error e => rfl
  | ok record => cases record <;> rfl

theorem shown_eq_ok {d : ResourceRef × Json} : shown source ingest name kind rec = .ok d ↔
    kind.checkRecording rec = .ok () ∧ describe source ingest kind rec = .ok d.2 ∧
      kind.refOf d.2 = .ok d.1 := by
  obtain ⟨target, record⟩ := d
  simp [shown, during, Fallible.bind_eq_ok, Fallible.mapError_eq_ok, Unique.exists_iff]

theorem ofFlight_sole_error (hk : catalog.get name = .ok kind) (flight : Flight) {e : Failure}
    (h : shown source ingest name kind rec = .error e) :
    ofFlight catalog (sole flight source name rec) ingest = .error e := by
  rw [ofFlight_sole hk, h]
  rfl

theorem ofFlight_sole_ok (hk : catalog.get name = .ok kind) (flight : Flight)
    {d : ResourceRef × Json} (h : shown source ingest name kind rec = .ok d) :
    ∃ p, ofFlight catalog (sole flight source name rec) ingest = .ok p ∧
      p.resources name = .ok [d] := by
  obtain ⟨-, hrecord, href⟩ := shown_eq_ok.1 h
  rw [ofFlight_sole hk, h]
  refine ⟨_, rfl, ?_⟩
  simp [resources, list, kindOf, hk, kind.refOf_kind href, recordOf_recorded, hrecord, href]

def attachment (ingest : Ingest) (name : String) (kind : ResourceKind) (rec : Recording) :
    Except Failure (List (String × Json)) := do
  (kind.checkRecording rec).mapError .record
  let tags ← during (.describing name) (kind.readTags ingest rec)
  .ok (kind.attached rec tags)

theorem attachment_congr {rec' : Recording} (hcall : kind.detailOp.isSome = true)
    (htags : rec'.tags = rec.tags) (hresponses : rec'.responses = rec.responses) :
    attachment ingest name kind rec' = attachment ingest name kind rec := by
  obtain ⟨call, hcall⟩ := Option.isSome_iff_exists.1 hcall
  simp [attachment, ResourceKind.checkRecording, ResourceKind.readTags, ResourceKind.attached,
    ResourceKind.notes, hcall, htags, hresponses]

/-- Responses that show a reference still show it when the fields are set. -/
theorem shown_of_base {fields : List (String × Json)} {target : ResourceRef}
    (hbase : baseOf source kind rec = .ok (.obj fields))
    (href : kind.refOf (.obj fields) = .ok target)
    (hvisible : ∀ key ∈ kind.refKeys, key ∉ Catalog.attachedKeys) :
    shown source ingest name kind rec =
      (attachment ingest name kind rec).map fun news =>
        (target, .obj (Keyed.putAll fields news)) := by
  have hkept (tags : Option TagSet) :
      kind.refOf (.obj (Keyed.putAll fields (kind.attached rec tags))) = .ok target := by
    rw [ResourceKind.refOf_putAll, href]
    exact fun key hkey hmem => hvisible key hmem (ResourceKind.mem_attachedKeys hkey)
  rw [shown, attachment, describe_of_base hbase]
  cases (kind.checkRecording rec).mapError Failure.record with
  | error e => rfl
  | ok u => cases kind.readTags ingest rec <;> simp [during, Except.map, hkept]

end Provider

namespace Aws

variable {fields inner response : List (String × Json)} {rec : Recording} {source : Source}
  {ingest : Ingest} {name id : String} {news : List (String × Json)} {target : ResourceRef}

theorem refKeys_firewall : firewall.refKeys = ["FirewallName", "FirewallArn"] := by decide +kernel

theorem refOf_firewall (h : Keyed.find? "FirewallName" fields = some (.str id)) :
    ∃ arn, firewall.refOf (.obj fields) = .ok ⟨"firewall", id, arn⟩ := by
  have hpath : Text.pieces '.' firewall.idPath = ["FirewallName"] := by decide +kernel
  have hid : ((Json.obj fields).path? firewall.idPath).bind Json.asString? = some id := by
    simp [Json.path?, hpath, Json.follow?, h, Json.asString?]
  rw [ResourceKind.refOf, hid]
  exact ⟨_, rfl⟩

theorem checkRecording_firewall : firewall.checkRecording rec = .ok () ↔
    ∀ r ∈ rec.responses, r.1 = Annotation.logging.call := by
  have hdetail : firewall.detailOp.isSome = true := rfl
  have hannotations : firewall.annotations = [.logging] := rfl
  simp only [ResourceKind.checkRecording_eq_ok, hdetail, hannotations, implies_true, true_and,
    List.mem_singleton, exists_eq_left]
  exact forall₂_congr fun r _ => eq_comm

theorem attachment_firewall (ingest : Ingest) (name : String) (rec : Recording) :
    (∃ news, Provider.attachment ingest name firewall rec = .ok news) ↔
    (∀ r ∈ rec.responses, r.1 = Annotation.logging.call) ∧
      ∀ raw, rec.tags = some raw → ∃ tags, TagShape.pascal.decode raw ingest = .ok tags := by
  have hshape : firewall.tagShape = some .pascal := rfl
  simp only [← checkRecording_firewall, Provider.attachment, during, ResourceKind.readTags, hshape,
    Fallible.bind_eq_ok, Fallible.mapError_eq_ok]
  cases rec.tags with
  | none => simp [Unique.exists_iff]
  | some raw => simp [Unique.exists_iff, Fallible.map_eq_ok, Fallible.mapError_eq_ok]

theorem mem_attachment_firewall (h : Provider.attachment ingest name firewall rec = .ok news)
    {key : String} (hkey : key ∈ Keyed.keys news) :
    key = "Tags" ∨ key = Annotation.logging.key := by
  obtain ⟨-, -, h⟩ := Fallible.bind_eq_ok.1 h
  obtain ⟨tags, -, h⟩ := Fallible.bind_eq_ok.1 h
  obtain rfl := Except.ok.inj h
  have hannotations : firewall.annotations = [.logging] := rfl
  simp only [Keyed.keys, ResourceKind.attached, ResourceKind.notes, hannotations, List.map_append,
    List.mem_append] at hkey
  rcases hkey with hkey | hkey
  · left
    cases tags <;> simp_all
  · right
    cases hlog : Keyed.find? Annotation.logging.call rec.responses <;> simp_all

/-- The response of a call comes to the fields of the firewall in it. -/
theorem baseOf_described (hdetail : rec.detail = some (.obj response))
    (h : Keyed.find? "Firewall" response = some (.obj inner)) :
    ∃ fields, Provider.baseOf .describe firewall rec = .ok (.obj fields) ∧
      Keyed.AgreeOff Reshape.liveFields fields inner := by
  obtain ⟨fields, hfields, hagree⟩ := Reshape.firewall_agrees h
  have haugment : firewall.augment = .firewall := rfl
  refine ⟨fields, ?_, hagree⟩
  simp [Provider.baseOf, Provider.viewed, ResourceKind.baseRecord, hdetail, haugment, hfields]

/-- A snapshot that wraps a firewall comes to its fields. -/
theorem baseOf_configured (hlisted : rec.listed = .obj [("Firewall", .obj inner)])
    (hnames : (Keyed.keys inner).Nodup) :
    ∃ fields, Provider.baseOf .config firewall rec = .ok (.obj fields) ∧
      Keyed.AgreeOff Reshape.liveFields fields inner := by
  obtain ⟨fields, hfields, hagree⟩ := Reshape.firewallSnapshot_agrees hnames
  have hconfig : firewall.configSource = true := rfl
  refine ⟨fields, ?_, hagree⟩
  simp [Provider.baseOf, Provider.viewed, ResourceKind.loadSnapshot, ResourceKind.baseRecord,
    hconfig, hlisted, hfields]

theorem shown_firewall (ingest : Ingest) (name : String)
    (hbase : Provider.baseOf source firewall rec = .ok (.obj fields))
    (hagree : Keyed.AgreeOff Reshape.liveFields fields inner)
    (href : firewall.refOf (.obj inner) = .ok target) :
    Provider.shown source ingest name firewall rec =
      (Provider.attachment ingest name firewall rec).map fun news =>
        (target, .obj (Keyed.putAll fields news)) := by
  refine Provider.shown_of_base hbase ?_ ?_
  · rw [firewall.refOf_congr fun key hkey => hagree key ?_, href]
    rw [refKeys_firewall] at hkey
    revert key
    decide
  · rw [refKeys_firewall]
    decide

end Aws

namespace Provider

variable {catalog : Catalog} {name id : String} {response firewall : List (String × Json)}

/-- A firewall is the same from either source. The one recording has a response with the firewall in
it, the other one a snapshot that wraps it; their tags and side responses are the same. Both flights
fail with one error, or both enumerate one resource with the same reference, and its two records
agree on all fields but those that only the response tells of. Tags and log destinations aside, they
have the fields of the firewall. The flights succeed if the tags can be read and no response was
recorded but the one for the log destinations. -/
theorem sources_agree (rec rec' : Recording) (flight : Flight) (ingest : Ingest)
    (hk : catalog.get name = .ok Aws.firewall)
    (hdetail : rec.detail = some (.obj response))
    (hresponse : Keyed.find? "Firewall" response = some (.obj firewall))
    (hlisted : rec'.listed = .obj [("Firewall", .obj firewall)])
    (htags : rec'.tags = rec.tags) (hresponses : rec'.responses = rec.responses)
    (hnames : (Keyed.keys firewall).Nodup)
    (hid : Keyed.find? "FirewallName" firewall = some (.str id)) :
    ((∃ e, ofFlight catalog (sole flight .describe name rec) ingest = .error e ∧
        ofFlight catalog (sole flight .config name rec') ingest = .error e) ∨
      ∃ p q arn fields fields', ofFlight catalog (sole flight .describe name rec) ingest = .ok p ∧
        ofFlight catalog (sole flight .config name rec') ingest = .ok q ∧
        p.resources name = .ok [(⟨"firewall", id, arn⟩, .obj fields)] ∧
        q.resources name = .ok [(⟨"firewall", id, arn⟩, .obj fields')] ∧
        ∀ key, key ≠ "FirewallStatus" → key ≠ "UpdateToken" →
          Keyed.find? key fields = Keyed.find? key fields' ∧
          (key ≠ "Tags" → key ≠ "govtag:Logging" →
            Keyed.find? key fields = Keyed.find? key firewall)) ∧
    ((∃ p, ofFlight catalog (sole flight .describe name rec) ingest = .ok p) ↔
      (∀ r ∈ rec.responses, r.1 = "describe_logging_configuration") ∧
        ∀ raw, rec.tags = some raw → ∃ tags, TagShape.pascal.decode raw ingest = .ok tags) := by
  obtain ⟨f, hf, hagree⟩ := Aws.baseOf_described hdetail hresponse
  obtain ⟨g, hg, hagree'⟩ := Aws.baseOf_configured hlisted hnames
  obtain ⟨arn, href⟩ := Aws.refOf_firewall hid
  have hshown := Aws.shown_firewall ingest name hf hagree href
  have hshown' := Aws.shown_firewall ingest name hg hagree' href
  rw [attachment_congr rfl htags hresponses] at hshown'
  have hreadable := Aws.attachment_firewall ingest name rec
  cases hnews : attachment ingest name Aws.firewall rec with
  | error e =>
    rw [hnews] at hshown hshown' hreadable
    have hfails := ofFlight_sole_error hk flight hshown
    have hfails' := ofFlight_sole_error hk flight hshown'
    refine ⟨.inl ⟨e, hfails, hfails'⟩, iff_of_false ?_ fun hgood => ?_⟩
    · simp [hfails]
    · obtain ⟨news, hnews⟩ := hreadable.2 hgood
      cases hnews
  | ok news =>
    rw [hnews] at hshown hshown' hreadable
    obtain ⟨p, hp, hresources⟩ := ofFlight_sole_ok hk flight hshown
    obtain ⟨q, hq, hresources'⟩ := ofFlight_sole_ok hk flight hshown'
    refine ⟨.inr ⟨p, q, arn, _, _, hp, hq, hresources, hresources', fun key hstatus htoken => ?_⟩,
      iff_of_true ⟨p, hp⟩ (hreadable.1 ⟨news, rfl⟩)⟩
    have hkey : key ∉ Reshape.liveFields := by simp [Reshape.liveFields, hstatus, htoken]
    refine ⟨((hagree.trans hagree'.symm).putAll news) key hkey, fun htags hlogging => ?_⟩
    rw [Keyed.find?_putAll, hagree key hkey]
    exact fun hmem => (Aws.mem_attachment_firewall hnews hmem).elim htags hlogging

/-- A firewall whose own fields have the names of fields around it. -/
def nestedFirewall : List (String × Json) := [
  ("Firewall", .obj [("FirewallName", .str "inner")]),
  ("FirewallArn", .str "arn:fw/outer"),
  ("FirewallName", .str "outer"),
  ("ResponseMetadata", .obj [("RequestId", .str "x")]),
  ("Tags", .arr [.str "none"]),
  ("UpdateToken", .str "old")]

def loggingResponse : Json := .obj [("LoggingConfiguration", .obj [("LogDestinationConfigs",
  .arr [.obj [("LogType", .str "ALERT")]])])]

def nestedCall : Recording where
  detail := some (.obj [("Firewall", .obj nestedFirewall),
    ("FirewallStatus", .obj [("Status", .str "READY")]),
    ("ResponseMetadata", .obj [("RequestId", .str "y")]),
    ("UpdateToken", .str "new")])
  tags := some (.arr [.obj [("Key", .str "owner"), ("Value", .str "policy")]])
  responses := [("describe_logging_configuration", loggingResponse)]

def nestedSnapshot : Recording :=
  { nestedCall with listed := .obj [("Firewall", .obj nestedFirewall)], detail := none }

theorem sources_agree_nestedFirewall : ∃ catalog, Aws.catalog = .ok catalog ∧
    catalog.get "aws.firewall" = .ok Aws.firewall ∧ (Keyed.keys nestedFirewall).Nodup ∧
    Keyed.find? "FirewallName" nestedFirewall = some (.str "outer") ∧
    ∃ p q arn fields fields',
      ofFlight catalog (sole {} .describe "aws.firewall" nestedCall) .strict = .ok p ∧
      ofFlight catalog (sole {} .config "aws.firewall" nestedSnapshot) .strict = .ok q ∧
      p.resources "aws.firewall" = .ok [(⟨"firewall", "outer", arn⟩, .obj fields)] ∧
      q.resources "aws.firewall" = .ok [(⟨"firewall", "outer", arn⟩, .obj fields')] ∧
      Keyed.find? "Tags" fields = Keyed.find? "Tags" fields' ∧
      Keyed.find? "govtag:Logging" fields = Keyed.find? "govtag:Logging" fields' ∧
      Keyed.find? "ResponseMetadata" fields = some (.obj [("RequestId", .str "x")]) := by
  obtain ⟨catalog, hcatalog⟩ : ∃ catalog, Aws.catalog = .ok catalog := ⟨_, Aws.catalog_eq⟩
  have hk : catalog.get "aws.firewall" = .ok Aws.firewall := by
    rw [Catalog.get, Aws.kinds_of_catalog hcatalog]
    rfl
  have hnames : (Keyed.keys nestedFirewall).Nodup := by decide
  obtain ⟨hsources, hsucceeds⟩ := sources_agree nestedCall nestedSnapshot {} .strict hk rfl rfl rfl
    rfl rfl hnames rfl
  have hresponses : ∀ r ∈ nestedCall.responses, r.1 = "describe_logging_configuration" := by
    simp [nestedCall]
  have htags : ∀ raw, nestedCall.tags = some raw →
      ∃ tags, TagShape.pascal.decode raw .strict = .ok tags := by
    intro raw hraw
    obtain rfl := Option.some.inj hraw
    exact ⟨_, rfl⟩
  obtain ⟨start, hstart⟩ := hsucceeds.2 ⟨hresponses, htags⟩
  refine ⟨catalog, hcatalog, hk, hnames, rfl, ?_⟩
  rcases hsources with ⟨e, hfails, -⟩ | ⟨p, q, arn, fields, fields', hp, hq, hpr, hqr, hagree⟩
  · cases hfails.symm.trans hstart
  · refine ⟨p, q, arn, fields, fields', hp, hq, hpr, hqr, (hagree _ ?_ ?_).1, (hagree _ ?_ ?_).1,
      (hagree _ ?_ ?_).2 ?_ ?_⟩ <;> decide

end Provider

end TagGovernance
