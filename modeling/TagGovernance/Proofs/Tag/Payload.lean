import TagGovernance.Proofs.Fallible
import TagGovernance.Proofs.Tag.Ingest
import TagGovernance.Tag.Shape

/-!
# Payloads read back

A payload that was written for a tag set is read as that tag set in every shape and in every mode,
with one exception: a set with the empty key can be written, but what was written is refused at its
first pair. What is read never has the empty key. So the sets that survive a round trip are those
that can be read at all, and a payload can be written anew in another shape without loss.
-/

namespace TagGovernance

namespace TagSet

theorem has_iff {key : String} {tags : TagSet} :
    tags.has key = true ↔ key ∈ Keyed.keys tags.entries := by
  rw [has, get?, Option.isSome_iff_ne_none, ne_eq, Keyed.find?_eq_none_iff, Decidable.not_not]

theorem has_insert (key other value : String) (tags : TagSet) :
    (tags.insert key value).has other = (decide (key = other) || tags.has other) := by
  rw [has, get?_insert]
  by_cases h : key = other <;> simp [h, has]

theorem ofPairs_has_empty {ingest : Ingest} {pairs : List TagPair} {tags : TagSet}
    (h : ofPairs ingest pairs = .ok tags) : tags.has "" = false := by
  obtain ⟨hpairs, hgathers⟩ := ofPairs_eq_ok_iff.1 h
  rw [Bool.eq_false_iff, ne_eq, hgathers.has_iff]
  rintro ⟨value, hmem⟩
  exact hpairs.key_ne_empty hmem rfl

theorem ofPairs_isEmpty {ingest : Ingest} {pairs : List TagPair} {tags : TagSet}
    (h : ofPairs ingest pairs = .ok tags) : tags.isEmpty = pairs.isEmpty := by
  obtain ⟨hpairs, hgathers⟩ := ofPairs_eq_ok_iff.1 h
  rcases pairs with _ | ⟨⟨_ | key, value⟩, rest⟩
  · rw [hgathers.unique gathers_empty]
    rfl
  · exact absurd rfl ((faultless_iff.1 hpairs).1 _ List.mem_cons_self).1
  · have hhas := (hgathers.has_iff key).2 ⟨value, List.mem_cons_self⟩
    refine List.isEmpty_eq_false_iff.2 fun hnil => ?_
    rw [has, get?, hnil] at hhas
    cases hhas

theorem nodup_entries (tags : TagSet) :
    ((tags.entries.map fun p => ((some p.1, p.2) : TagPair)).map Prod.fst).Nodup := by
  rw [List.map_map, List.Nodup, List.pairwise_map]
  exact (List.pairwise_map.1 tags.ascending).imp fun hlt hsame =>
    String.ne_of_lt hlt (Option.some.inj hsame)

theorem gathers_entries (tags : TagSet) :
    tags.Gathers (tags.entries.map fun p => (some p.1, p.2)) := by
  intro key
  apply Option.ext
  intro value
  rw [lastValue?_eq_some_iff tags.nodup_entries, ← mem_entries_iff]
  simp

private theorem not_lt_empty (key : String) : ¬key < "" := by
  rw [String.lt_iff]
  exact List.not_lt_nil key.toList

/-- The pairs of a tag set are taken in as the set itself, unless the first of them, and only the
first can, has the empty key. -/
theorem ofPairs_entries (ingest : Ingest) (tags : TagSet) :
    ofPairs ingest (tags.entries.map fun p => (some p.1, p.2)) =
      if tags.has "" then .error (.emptyKey 0) else .ok tags := by
  split
  · rename_i h
    obtain ⟨entries, ascending⟩ := tags
    rw [has_iff] at h
    cases entries with
    | nil => simp [Keyed.keys] at h
    | cons p rest =>
      obtain ⟨key, value⟩ := p
      have hkey : key = "" := by
        rcases List.mem_cons.1 h with h | h
        · exact h.symm
        · exact absurd ((List.pairwise_cons.1 ascending).1 "" h) (not_lt_empty key)
      simp [ofPairs, takeIn, hkey]
  · rename_i h
    refine ofPairs_eq_ok_iff.2 ⟨faultless_iff.2 ⟨fun pair hmem => ?_, fun _ => tags.nodup_entries⟩,
      tags.gathers_entries⟩
    obtain ⟨⟨key, value⟩, hentry, rfl⟩ := List.mem_map.1 hmem
    refine ⟨Option.some_ne_none key, fun hkey => h ?_⟩
    rw [has_iff, ← Option.some.inj hkey]
    exact List.mem_map_of_mem hentry

/-- Where the last value counts, pairs that all have a key are refused only for the first empty one. -/
theorem ofPairs_named_eq_error_iff {entries : List (String × String)} {error : PairError} :
    ofPairs .lastWins (entries.map fun p => (some p.1, p.2)) = .error error ↔
      ∃ before value after, entries = before ++ ("", value) :: after ∧ "" ∉ Keyed.keys before ∧
        error = .emptyKey before.length := by
  rw [ofPairs_eq_error_iff]
  constructor
  · rintro ⟨_, pair, _, hsplit, hbefore, hfault⟩
    obtain ⟨before, rest, rfl, rfl, hrest⟩ := List.map_eq_append_iff.1 hsplit
    obtain ⟨⟨key, value⟩, after, rfl, rfl, rfl⟩ := List.map_eq_cons_iff.1 hrest
    cases hfault with
    | empty =>
      refine ⟨before, value, after, rfl, fun hmem => ?_, by rw [List.length_map]⟩
      obtain ⟨⟨_, earlier⟩, hmem, rfl⟩ := List.mem_map.1 hmem
      exact hbefore.key_ne_empty (List.mem_map_of_mem hmem) rfl
    | repeated _ strict => cases strict
  · rintro ⟨before, value, after, rfl, hnew, rfl⟩
    refine ⟨before.map fun p => (some p.1, p.2), (some "", value),
      after.map fun p => (some p.1, p.2), ?_, faultless_iff.2 ⟨fun pair hmem => ?_, nofun⟩, ?_⟩
    · rw [List.map_append, List.map_cons]
    · obtain ⟨p, hp, rfl⟩ := List.mem_map.1 hmem
      exact ⟨Option.some_ne_none p.1, fun hkey => hnew (List.mem_map.2 ⟨p, hp, Option.some.inj hkey⟩)⟩
    · have hempty : PairFault .lastWins (before.map fun p => (some p.1, p.2)) (some "", value)
          (.emptyKey _) := .empty value
      rwa [List.length_map] at hempty

end TagSet

namespace TagShape

theorem isNull_encode (shape : TagShape) (tags : TagSet) : (shape.encode tags).isNull = false := by
  cases shape <;> rfl

theorem pair?_item (shape : TagShape) (h : shape.keyField ≠ shape.valueField) (key value : String) :
    shape.pair? (.obj [(shape.keyField, .str key), (shape.valueField, .str value)]) =
      .ok (some key, value) := by
  simp only [pair?, Keyed.find?_cons, if_true, if_neg h]
  rfl

theorem pairs?_encode (shape : TagShape) (tags : TagSet) :
    shape.pairs? (shape.encode tags) = .ok (tags.entries.map fun p => (some p.1, p.2)) := by
  cases shape with
  | map =>
    simp only [encode, pairs?, List.mapM_map]
    exact Fallible.mapM_of_forall fun _ _ => rfl
  | pascal =>
    simp only [encode, pairs?, List.mapM_map]
    exact Fallible.mapM_of_forall fun _ _ => pair?_item pascal (by decide) _ _
  | camel =>
    simp only [encode, pairs?, List.mapM_map]
    exact Fallible.mapM_of_forall fun _ _ => pair?_item camel (by decide) _ _

/-- A written payload reads back in its own shape, whatever the mode. Only a set with the empty key
is refused, and every shape refuses it in the same way. -/
theorem decode_encode (shape : TagShape) (tags : TagSet) (ingest : Ingest) :
    shape.decode (shape.encode tags) ingest =
      if tags.has "" then .error (.pair (.emptyKey 0)) else .ok tags := by
  rw [decode, isNull_encode, pairs?_encode]
  change (TagSet.ofPairs ingest _).mapError IngestError.pair = _
  rw [TagSet.ofPairs_entries]
  split <;> rfl

/-- What is read from a payload has no empty key. -/
theorem decode_has_empty {shape : TagShape} {raw : Json} {ingest : Ingest} {tags : TagSet}
    (h : shape.decode raw ingest = .ok tags) : tags.has "" = false := by
  rw [decode] at h
  split at h
  · obtain rfl := Except.ok.inj h
    rfl
  · obtain ⟨pairs, _, h⟩ := Fallible.bind_eq_ok.1 h
    exact TagSet.ofPairs_has_empty (Fallible.mapError_eq_ok.1 h)

/-- A payload can be written anew in any shape. What is read from it has no empty key, and is read
back unchanged, in any mode, from what any shape writes for it. The tag sets that a shape can read
back at all are those without the empty key. -/
theorem decode_transcoded (shape other : TagShape) (ingest mode : Ingest) (raw : Json)
    (tags : TagSet) :
    (shape.decode raw ingest = .ok tags →
      tags.has "" = false ∧ other.decode (other.encode tags) mode = .ok tags) ∧
    ((∃ read, shape.decode (shape.encode tags) ingest = .ok read) ↔ tags.has "" = false) := by
  constructor
  · intro hread
    have hempty := decode_has_empty hread
    exact ⟨hempty, by rw [decode_encode, hempty]; rfl⟩
  · rw [decode_encode]
    cases tags.has "" <;> simp

/-- A list of which two items are lists of their own and have one key, and one item has no value,
is read and written as an object. -/
theorem decode_transcoded_list : ∃ tags,
    pascal.decode (.arr [.arr [.str "b", .str "1"], .obj [("Key", .str "a")],
      .arr [.str "b", .str "2"]]) .lastWins = .ok tags ∧
    map.encode tags = .obj [("a", .str ""), ("b", .str "2")] ∧
    map.decode (map.encode tags) .strict = .ok tags := by
  have hread : pascal.decode (.arr [.arr [.str "b", .str "1"], .obj [("Key", .str "a")],
      .arr [.str "b", .str "2"]]) .lastWins = .ok (.ofList [("b", "2"), ("a", "")]) := rfl
  exact ⟨_, hread, rfl, ((decode_transcoded pascal map .lastWins .strict _ _).1 hread).2⟩

end TagShape

end TagGovernance
