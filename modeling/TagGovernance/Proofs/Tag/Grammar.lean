import TagGovernance.Proofs.Tag.Payload

/-!
# The grammar of payloads

What a payload may look like is said here without the reading of it: a list of objects and of lists
with one or two parts, or an object of texts, with the pairs that each one stands for. Reading accepts
exactly these, and null. Their form comes first: a payload with one bad item is malformed, whatever
the keys of the others are. Only then are the pairs taken in.
-/

namespace TagGovernance

inductive KeyText : Option Json → Option String → Prop
  | absent : KeyText none none
  | null : KeyText (some .null) none
  | text (key : String) : KeyText (some (.str key)) (some key)

/-- The text of a value, which may be left out, but not be null. -/
inductive ValueText : Option Json → String → Prop
  | absent : ValueText none ""
  | text (value : String) : ValueText (some (.str value)) value

namespace TagShape

/-- The items of a list, and the pairs that they stand for. Other fields of an object do not count. -/
inductive Item (shape : TagShape) : Json → TagPair → Prop
  | object {fields : List (String × Json)} {key : Option String} {value : String}
      (named : KeyText (Keyed.find? shape.keyField fields) key)
      (valued : ValueText (Keyed.find? shape.valueField fields) value) :
      Item shape (.obj fields) (key, value)
  | lone {k : Json} {key : Option String} (named : KeyText (some k) key) :
      Item shape (.arr [k]) (key, "")
  | both {k v : Json} {key : Option String} {value : String} (named : KeyText (some k) key)
      (valued : ValueText (some v) value) : Item shape (.arr [k, v]) (key, value)

inductive Field : String × Json → TagPair → Prop
  | text (key value : String) : Field (key, .str value) (some key, value)

/-- The payloads of a shape other than null, and their pairs in order. -/
inductive Payload : TagShape → Json → List TagPair → Prop
  | list {shape : TagShape} {items : List Json} {pairs : List TagPair} (listed : shape ≠ map)
      (each : List.Forall₂ shape.Item items pairs) : Payload shape (.arr items) pairs
  | object {fields : List (String × Json)} {pairs : List TagPair}
      (each : List.Forall₂ Field fields pairs) : Payload map (.obj fields) pairs

variable {shape : TagShape} {ingest : Ingest} {raw item : Json} {items : List Json}
  {fields : List (String × Json)} {pair : TagPair} {pairs : List TagPair}

theorem keyText_iff {field : Option Json} {key : Option String} :
    field.elim (.ok none) keyText? = .ok key ↔ KeyText field key := by
  constructor
  · intro h
    rcases field with _ | v
    · obtain rfl := Except.ok.inj h
      exact .absent
    · cases v <;> cases h
      · exact .null
      · exact .text _
  · rintro (_ | _ | key) <;> rfl

theorem valueText_iff {field : Option Json} {value : String} :
    field.elim (.ok "") valueText? = .ok value ↔ ValueText field value := by
  constructor
  · intro h
    rcases field with _ | v
    · obtain rfl := Except.ok.inj h
      exact .absent
    · cases v <;> cases h
      exact .text _
  · rintro (_ | value) <;> rfl

theorem pair?_object (shape : TagShape) (fields : List (String × Json)) :
    shape.pair? (.obj fields) =
      (Keyed.find? shape.keyField fields).elim (.ok none) keyText? >>= fun key =>
        (Keyed.find? shape.valueField fields).elim (.ok "") valueText? >>= fun value =>
          .ok (key, value) := by
  rw [pair?]
  cases Keyed.find? shape.keyField fields <;> cases Keyed.find? shape.valueField fields <;> rfl

theorem pair?_eq_ok_iff : shape.pair? item = .ok pair ↔ shape.Item item pair := by
  constructor
  · intro h
    cases item with
    | obj fields =>
      rw [pair?_object] at h
      obtain ⟨key, hkey, h⟩ := Fallible.bind_eq_ok.1 h
      obtain ⟨value, hvalue, h⟩ := Fallible.bind_eq_ok.1 h
      obtain rfl := Except.ok.inj h
      exact .object (keyText_iff.1 hkey) (valueText_iff.1 hvalue)
    | arr parts =>
      rcases parts with _ | ⟨k, _ | ⟨v, rest⟩⟩
      · cases h
      · obtain ⟨key, hkey, h⟩ := Fallible.bind_eq_ok.1 h
        obtain rfl := Except.ok.inj h
        exact .lone (keyText_iff.1 hkey)
      · obtain ⟨key, hkey, h⟩ := Fallible.bind_eq_ok.1 h
        obtain ⟨value, hvalue, h⟩ := Fallible.bind_eq_ok.1 h
        -- A third part is found only after the first two were read.
        cases rest with
        | cons => cases h
        | nil =>
          obtain rfl := Except.ok.inj h
          exact .both (keyText_iff.1 hkey) (valueText_iff.1 hvalue)
    | _ => cases h
  · rintro (⟨named, valued⟩ | named | ⟨named, valued⟩)
    · rw [pair?_object, keyText_iff.2 named, valueText_iff.2 valued]
      rfl
    · exact Fallible.bind_eq_ok.2 ⟨_, keyText_iff.2 named, rfl⟩
    · exact Fallible.bind_eq_ok.2 ⟨_, keyText_iff.2 named,
        Fallible.bind_eq_ok.2 ⟨_, valueText_iff.2 valued, rfl⟩⟩

theorem entry?_eq_ok_iff {field : String × Json} : entry? field = .ok pair ↔ Field field pair := by
  obtain ⟨key, v⟩ := field
  constructor
  · intro h
    cases v <;> cases h
    exact .text key _
  · rintro ⟨⟩
    rfl

theorem pairs?_list (listed : shape ≠ map) (items : List Json) :
    shape.pairs? (.arr items) = items.mapM shape.pair? := by
  cases shape with
  | map => exact absurd rfl listed
  | pascal => rfl
  | camel => rfl

/-- Reading gives the pairs that the grammar gives, and nothing else. -/
theorem pairs?_eq_ok_iff : shape.pairs? raw = .ok pairs ↔ shape.Payload raw pairs := by
  constructor
  · intro h
    by_cases listed : shape = map
    · subst listed
      cases raw with
      | obj fields =>
        have each := Fallible.mapM_eq_ok.1 h
        simp only [entry?_eq_ok_iff] at each
        exact .object each
      | _ => cases h
    · cases raw with
      | arr items =>
        rw [pairs?_list listed, Fallible.mapM_eq_ok] at h
        simp only [pair?_eq_ok_iff] at h
        exact .list listed h
      | _ =>
        cases shape with
        | map => exact absurd rfl listed
        | _ => cases h
  · rintro (⟨listed, each⟩ | each)
    · rw [pairs?_list listed, Fallible.mapM_eq_ok]
      simpa only [pair?_eq_ok_iff] using each
    · refine Fallible.mapM_eq_ok.2 ?_
      simpa only [entry?_eq_ok_iff] using each

/-- A list is in the grammar if every item is. -/
theorem exists_payload_iff (listed : shape ≠ map) : (∃ pairs, shape.Payload (.arr items) pairs) ↔
    ∀ item ∈ items, ∃ pair, shape.Item item pair := by
  simp only [← pairs?_eq_ok_iff, ← pair?_eq_ok_iff, pairs?_list listed]
  exact Fallible.mapM_succeeds_iff

theorem exists_texts (each : List.Forall₂ Field fields pairs) : ∃ texts : List (String × String),
    fields = texts.map (fun p => (p.1, .str p.2)) ∧ pairs = texts.map fun p => (some p.1, p.2) := by
  induction each with
  | nil => exact ⟨[], rfl, rfl⟩
  | cons head _ ih =>
    obtain ⟨key, value⟩ := head
    obtain ⟨texts, rfl, rfl⟩ := ih
    exact ⟨(key, value) :: texts, rfl, rfl⟩

theorem nodup_of_fields (hnodup : (Keyed.keys fields).Nodup)
    (each : List.Forall₂ Field fields pairs) : (pairs.map Prod.fst).Nodup := by
  obtain ⟨texts, rfl, rfl⟩ := exists_texts each
  rw [Keyed.keys, List.map_map] at hnodup
  rw [List.map_map]
  exact List.Nodup.of_map (Option.getD · "") (by rwa [List.map_map])

theorem Payload.decode (h : shape.Payload raw pairs) (ingest : Ingest) :
    shape.decode raw ingest = (TagSet.ofPairs ingest pairs).mapError .pair := by
  have hnull : raw.isNull = false := by
    cases h <;> rfl
  rw [TagShape.decode, hnull, pairs?_eq_ok_iff.2 h]
  rfl

/-- A payload is malformed just if it is neither null nor in the grammar. -/
theorem decode_malformed_iff :
    (∃ error, shape.decode raw ingest = .error (.malformed shape error)) ↔
      raw ≠ .null ∧ ¬∃ pairs, shape.Payload raw pairs := by
  constructor
  · rintro ⟨error, h⟩
    refine ⟨?_, ?_⟩
    · rintro rfl
      cases h
    · rintro ⟨pairs, hpairs⟩
      rw [hpairs.decode] at h
      cases hread : TagSet.ofPairs ingest pairs <;> rw [hread] at h <;> cases h
  · rintro ⟨hnull, hnone⟩
    cases hread : shape.pairs? raw with
    | ok pairs => exact absurd ⟨pairs, pairs?_eq_ok_iff.1 hread⟩ hnone
    | error error =>
      refine ⟨error, ?_⟩
      cases raw with
      | null => exact absurd rfl hnull
      | _ =>
        rw [TagShape.decode, hread]
        rfl

/-- An object of texts without a repeated key is refused for its empty key, and for nothing else. -/
theorem decode_object_eq_error_iff (hnodup : (Keyed.keys fields).Nodup)
    (each : List.Forall₂ Field fields pairs) {error : IngestError} :
    map.decode (.obj fields) ingest = .error error ↔
      ∃ before value after, fields = before ++ ("", value) :: after ∧ "" ∉ Keyed.keys before ∧
        error = .pair (.emptyKey before.length) := by
  rw [(Payload.object each).decode, TagSet.ofPairs_mode (nodup_of_fields hnodup each) ingest .lastWins,
    Fallible.mapError_eq_error]
  obtain ⟨texts, rfl, rfl⟩ := exists_texts each
  have hkeys (texts : List (String × String)) :
      Keyed.keys (texts.map fun p => (p.1, Json.str p.2)) = Keyed.keys texts := by
    rw [Keyed.keys, Keyed.keys, List.map_map]
    rfl
  constructor
  · rintro ⟨_, h, rfl⟩
    obtain ⟨before, value, after, rfl, hnew, rfl⟩ := TagSet.ofPairs_named_eq_error_iff.1 h
    refine ⟨before.map fun p => (p.1, .str p.2), .str value, after.map fun p => (p.1, .str p.2),
      ?_, ?_, ?_⟩
    · rw [List.map_append, List.map_cons]
    · rwa [hkeys]
    · rw [List.length_map]
  · rintro ⟨_, _, _, hsplit, hnew, rfl⟩
    obtain ⟨before, rest, rfl, rfl, hrest⟩ := List.map_eq_append_iff.1 hsplit
    obtain ⟨⟨_, value⟩, after, rfl, hhead, rfl⟩ := List.map_eq_cons_iff.1 hrest
    obtain ⟨rfl, rfl⟩ := Prod.mk.inj hhead
    rw [hkeys] at hnew
    refine ⟨.emptyKey before.length, TagSet.ofPairs_named_eq_error_iff.2 ?_, ?_⟩
    · exact ⟨before, value, after, rfl, hnew, rfl⟩
    · rw [List.length_map]

/-- The modes read the same from what is no object, and from an object without a repeated key. -/
theorem decode_map_mode (hnodup : ∀ fields, raw = .obj fields → (Keyed.keys fields).Nodup)
    (mode ingest : Ingest) : map.decode raw mode = map.decode raw ingest := by
  cases hread : map.pairs? raw with
  | error error =>
    rw [TagShape.decode, TagShape.decode, hread]
    rfl
  | ok pairs =>
    have hpayload := pairs?_eq_ok_iff.1 hread
    rw [hpayload.decode, hpayload.decode]
    cases hpayload with
    | list listed => exact absurd rfl listed
    | object each => rw [TagSet.ofPairs_mode (nodup_of_fields (hnodup _ rfl) each) mode ingest]

/-- What is read from a payload. Null has no tags. Anything else is malformed just if it is not in the
grammar, for which one item of a list is enough, whatever the keys before it are; otherwise its pairs
are taken in, in their order. The mode makes no difference for an object, in which no key is repeated:
it is refused for its empty key only, and the modes agree on its pairs. -/
theorem decode_grammar (shape : TagShape) (ingest : Ingest) (raw : Json) :
    shape.decode .null ingest = .ok .empty ∧
    ((∃ error, shape.decode raw ingest = .error (.malformed shape error)) ↔
      raw ≠ .null ∧ ¬∃ pairs, shape.Payload raw pairs) ∧
    (∀ pairs, shape.Payload raw pairs →
      shape.decode raw ingest = (TagSet.ofPairs ingest pairs).mapError .pair) ∧
    (∀ items, shape ≠ map → (∃ item ∈ items, ¬∃ pair, shape.Item item pair) →
      ∃ error, shape.decode (.arr items) ingest = .error (.malformed shape error)) ∧
    (∀ mode, (∀ fields, raw = .obj fields → (Keyed.keys fields).Nodup) →
      map.decode raw mode = map.decode raw ingest) ∧
    ∀ fields pairs, (Keyed.keys fields).Nodup → List.Forall₂ Field fields pairs →
      (∀ error, map.decode (.obj fields) ingest = .error error ↔
        ∃ before value after, fields = before ++ ("", value) :: after ∧ "" ∉ Keyed.keys before ∧
          error = .pair (.emptyKey before.length)) ∧
      ∀ mode, map.decode (.obj fields) ingest = (TagSet.ofPairs mode pairs).mapError .pair := by
  refine ⟨rfl, decode_malformed_iff, fun pairs h => h.decode ingest, fun items listed hbad => ?_,
    fun mode hnodup => decode_map_mode hnodup mode ingest, fun fields pairs hnodup each =>
      ⟨fun error => decode_object_eq_error_iff hnodup each, fun mode => ?_⟩⟩
  · refine decode_malformed_iff.2 ⟨nofun, fun hgood => ?_⟩
    obtain ⟨item, hitem, hnone⟩ := hbad
    exact hnone ((exists_payload_iff listed).1 hgood item hitem)
  · rw [(Payload.object each).decode, TagSet.ofPairs_mode (nodup_of_fields hnodup each) ingest mode]

/-- A payload with a key that is left out and one that is null, before and after it is damaged, and
an object with an empty key. -/
theorem decode_grammar_orphans :
    pascal.decode (.arr [.obj [("Value", .str "x")], .arr [.null, .str "y"]]) .strict =
      (TagSet.ofPairs .strict [(none, "x"), (none, "y")]).mapError .pair ∧
    (∃ error, pascal.decode (.arr [.obj [("Value", .str "x")], .arr [.str "a", .null]]) .strict =
      .error (.malformed pascal error)) ∧
    map.decode (.obj [("", .str "x"), ("a", .str "y")]) .strict = .error (.pair (.emptyKey 0)) ∧
    (∀ mode, map.decode (.obj [("", .str "x"), ("a", .str "y")]) .strict =
      (TagSet.ofPairs mode [(some "", "x"), (some "a", "y")]).mapError .pair) ∧
    ∀ mode, map.decode (.obj [("a", .str "y"), ("b", .int 1)]) mode =
      map.decode (.obj [("a", .str "y"), ("b", .int 1)]) .strict := by
  have hfirst : pascal.Item (.obj [("Value", .str "x")]) (none, "x") := .object .absent (.text "x")
  have hsecond : pascal.Item (.arr [.null, .str "y"]) (none, "y") := .both .null (.text "y")
  have hbad : ¬∃ pair, pascal.Item (.arr [.str "a", .null]) pair := by
    rintro ⟨_, - | - | ⟨-, ⟨⟩⟩⟩
  obtain ⟨-, -, hpairs, hmalformed, -, hobject⟩ := decode_grammar pascal .strict
    (.arr [.obj [("Value", .str "x")], .arr [.null, .str "y"]])
  obtain ⟨herror, hmode⟩ := hobject [("", .str "x"), ("a", .str "y")]
    [(some "", "x"), (some "a", "y")] (by decide) (.cons (.text "" "x") (.cons (.text "a" "y") .nil))
  obtain ⟨-, -, -, -, hsame, -⟩ :=
    decode_grammar map .strict (.obj [("a", .str "y"), ("b", .int 1)])
  refine ⟨hpairs _ (.list nofun (.cons hfirst (.cons hsecond .nil))),
    hmalformed _ nofun ⟨_, List.mem_cons_of_mem _ List.mem_cons_self, hbad⟩,
    (herror _).2 ⟨[], .str "x", [("a", .str "y")], rfl, List.not_mem_nil, rfl⟩, hmode,
    fun mode => hsame mode fun fields hfields => ?_⟩
  obtain rfl := Json.obj.inj hfields
  decide

end TagShape

end TagGovernance
