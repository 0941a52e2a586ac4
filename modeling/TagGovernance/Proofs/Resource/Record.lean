import TagGovernance.Proofs.Keyed
import TagGovernance.Proofs.Resource.Catalog
import TagGovernance.Resource.Describe

/-!
# Records and their references

The record of a resource is an object: what the responses give, with the tags and the annotations
set in it. A reference is read from a few fields of the record, so what is set in other fields does
not show in it.
-/

namespace TagGovernance

namespace ResourceKind

variable {kind : ResourceKind} {rec : Recording} {ingest : Ingest}

theorem refOf_kind {record : Json} {target : ResourceRef} (h : kind.refOf record = .ok target) :
    target.kind = kind.typeName := by
  unfold refOf at h
  split at h
  · simp at h
  · exact (Except.ok.inj h) ▸ rfl

private theorem pieces_ne_nil (s : String) : Text.pieces '.' s ≠ [] := by
  rw [Text.pieces, ne_eq, List.map_eq_nil_iff]
  cases s.toList with
  | nil => simp [Text.piecesOf]
  | cons x rest =>
    rw [Text.piecesOf]
    split
    · simp
    · split <;> simp

theorem obj_of_refOf {record : Json} {target : ResourceRef} (h : kind.refOf record = .ok target) :
    ∃ fields, record = .obj fields := by
  obtain ⟨key, rest, hpath⟩ := List.exists_cons_of_ne_nil (pieces_ne_nil kind.idPath)
  cases record with
  | obj fields => exact ⟨fields, rfl⟩
  | _ => simp [refOf, Json.path?, hpath, Json.follow?, Json.field?] at h

private theorem path?_congr (path : String) {f g : List (String × Json)}
    (h : ∀ key ∈ (Text.pieces '.' path).take 1, Keyed.find? key f = Keyed.find? key g) :
    ((Json.obj f).path? path).bind Json.asString? = ((Json.obj g).path? path).bind Json.asString? := by
  rw [Json.path?, Json.path?]
  cases hpath : Text.pieces '.' path with
  | nil => rfl
  | cons key rest =>
    have hkey := h key (by simp [hpath])
    simp [Json.follow?, hkey]

/-- Records with the same fields in the places that a reference is read from have the same
reference. -/
theorem refOf_congr {f g : List (String × Json)}
    (h : ∀ key ∈ kind.refKeys, Keyed.find? key f = Keyed.find? key g) :
    kind.refOf (.obj f) = kind.refOf (.obj g) := by
  have hid := path?_congr kind.idPath fun key hkey => h key (List.mem_append_left _ hkey)
  have harn : (kind.arnPath.bind ((Json.obj f).path? ·)).bind Json.asString? =
      (kind.arnPath.bind ((Json.obj g).path? ·)).bind Json.asString? := by
    cases hpath : kind.arnPath with
    | none => rfl
    | some path =>
      refine path?_congr path fun key hkey => h key (List.mem_append_right _ ?_)
      simpa [hpath] using hkey
  simp only [refOf, hid, harn]

/-- What is set in other fields does not show in the reference. -/
theorem refOf_putAll {fields news : List (String × Json)}
    (h : ∀ key ∈ Keyed.keys news, key ∉ kind.refKeys) :
    kind.refOf (.obj (Keyed.putAll fields news)) = kind.refOf (.obj fields) :=
  refOf_congr fun key hkey => Keyed.find?_putAll fun hmem => h key hmem hkey

def readTags (kind : ResourceKind) (ingest : Ingest) (rec : Recording) :
    Except Failure (Option TagSet) :=
  match kind.tagShape, rec.tags with
  | some shape, some raw => (during (.decodingTags kind.typeName)
      ((shape.decode raw ingest).mapError .ingest)).map some
  | _, _ => .ok none

def notes (kind : ResourceKind) (rec : Recording) : List (String × Json) :=
  kind.annotations.filterMap fun a =>
    (Keyed.find? a.call rec.responses).map fun response => (a.key, a.extract response)

/-- The fields that are set in a record. -/
def attached (kind : ResourceKind) (rec : Recording) (tags : Option TagSet) :
    List (String × Json) :=
  (tags.map fun tags => ("Tags", TagShape.pascal.encode tags)).toList ++ kind.notes rec

theorem mem_attachedKeys {tags : Option TagSet} {key : String}
    (h : key ∈ Keyed.keys (kind.attached rec tags)) : key ∈ Catalog.attachedKeys := by
  simp only [Keyed.keys, attached, notes, List.map_append, List.mem_append, List.mem_map,
    Option.mem_toList, List.mem_filterMap] at h
  obtain ⟨p, hp, rfl⟩ | ⟨p, ⟨a, -, ha⟩, rfl⟩ := h
  · obtain ⟨tags, -, rfl⟩ := Option.map_eq_some_iff.1 hp
    simp [Catalog.attachedKeys]
  · obtain ⟨response, -, rfl⟩ := Option.map_eq_some_iff.1 ha
    cases a <;> simp [Catalog.attachedKeys]

theorem tags_not_noted (kind : ResourceKind) (rec : Recording) :
    "Tags" ∉ Keyed.keys (kind.notes rec) := by
  intro h
  obtain ⟨note, hnote, hkey⟩ := List.mem_map.1 h
  obtain ⟨a, -, ha⟩ := List.mem_filterMap.1 hnote
  obtain ⟨response, -, rfl⟩ := Option.map_eq_some_iff.1 ha
  have hother : a.key ≠ "Tags" := by cases a <;> decide
  exact hother hkey

/-- Tags that are attached stand in their field, which is left alone if there are none. -/
theorem find?_attached (tags : Option TagSet) (fields : List (String × Json)) :
    Keyed.find? "Tags" (Keyed.putAll fields (kind.attached rec tags)) =
      (tags.map TagShape.pascal.encode).or (Keyed.find? "Tags" fields) := by
  rw [attached, Keyed.putAll_append, Keyed.find?_putAll (kind.tags_not_noted rec)]
  cases tags with
  | none => rfl
  | some tags => exact Keyed.find?_put_self ..

private theorem obj_of_attach {key : String} {value start record : Json}
    (h : kind.attach key value start = .ok record) : ∃ f, start = .obj f := by
  cases start with
  | obj f => exact ⟨f, rfl⟩
  | _ => simp [attach] at h

/-- In a steady catalog nothing is set in the fields that references are read from. -/
theorem attached_apart {catalog : Catalog} (hc : catalog.Steady) (hk : kind ∈ catalog.kinds)
    {tags : Option TagSet} : ∀ key ∈ Keyed.keys (kind.attached rec tags), key ∉ kind.refKeys :=
  fun key hkey href => hc.visible kind hk key href (mem_attachedKeys hkey)

/-- Annotations are set one after the other in a record that is an object. -/
private theorem foldlM_attachAnnotation (annotations : List Annotation)
    (fields : List (String × Json)) :
    annotations.foldlM (kind.attachAnnotation rec) (.obj fields) =
      .ok (.obj (Keyed.putAll fields (annotations.filterMap fun a =>
        (Keyed.find? a.call rec.responses).map fun response => (a.key, a.extract response)))) := by
  induction annotations generalizing fields with
  | nil => rfl
  | cons a rest ih =>
    rw [List.foldlM_cons, attachAnnotation]
    cases h : Keyed.find? a.call rec.responses with
    | none => simp [h, ih]
    | some response => simp [h, attach, ih, Keyed.putAll]

private theorem obj_of_attachAnnotations {annotations : List Annotation} {start : Json}
    {fields : List (String × Json)}
    (h : annotations.foldlM (kind.attachAnnotation rec) start = .ok (.obj fields)) :
    ∃ f, start = .obj f := by
  induction annotations generalizing start with
  | nil => exact ⟨fields, Except.ok.inj h⟩
  | cons a rest ih =>
    rw [List.foldlM_cons] at h
    obtain ⟨next, hnext, hrest⟩ := Fallible.bind_eq_ok.1 h
    obtain ⟨f, rfl⟩ := ih hrest
    unfold attachAnnotation at hnext
    split at hnext
    · exact obj_of_attach hnext
    · exact ⟨f, Except.ok.inj hnext⟩

private theorem attachTags_obj (fields : List (String × Json)) :
    kind.attachTags ingest rec (.obj fields) = (kind.readTags ingest rec).map fun tags =>
      .obj (Keyed.putAll fields
        (tags.map fun tags => ("Tags", TagShape.pascal.encode tags)).toList) := by
  unfold attachTags readTags
  cases kind.tagShape with
  | none => rfl
  | some shape => cases rec.tags with
    | none => rfl
    | some raw =>
      cases h : shape.decode raw ingest with
      | error e => simp [h, during, Except.map]
      | ok tags => simp [h, during, Except.map, attach, Keyed.putAll]

private theorem obj_of_attachTags {start : Json} {fields : List (String × Json)}
    (h : kind.attachTags ingest rec start = .ok (.obj fields)) : ∃ f, start = .obj f := by
  unfold attachTags at h
  split at h
  · obtain ⟨tags, -, h⟩ := Fallible.bind_eq_ok.1 h
    exact obj_of_attach (Fallible.mapError_eq_ok.1 h)
  · exact ⟨fields, Except.ok.inj h⟩

theorem describe_obj {fields : List (String × Json)} (h : kind.baseRecord rec = .ok (.obj fields)) :
    kind.describe rec ingest = (kind.readTags ingest rec).map fun tags =>
      .obj (Keyed.putAll fields (kind.attached rec tags)) := by
  rw [describe, h, Fallible.mapError_ok, Fallible.ok_bind, attachTags_obj]
  cases kind.readTags ingest rec with
  | error e => rfl
  | ok tags =>
    simp only [Except.map, Fallible.ok_bind, foldlM_attachAnnotation, Fallible.mapError_ok]
    rw [attached, Keyed.putAll_append]
    rfl

theorem baseRecord_obj {record : Json} {target : ResourceRef}
    (hrecord : kind.describe rec ingest = .ok record) (href : kind.refOf record = .ok target) :
    ∃ fields, kind.baseRecord rec = .ok (.obj fields) := by
  obtain ⟨fields, rfl⟩ := obj_of_refOf href
  obtain ⟨base, hbase, hrecord⟩ := Fallible.bind_eq_ok.1 hrecord
  obtain ⟨tagged, htagged, hrecord⟩ := Fallible.bind_eq_ok.1 hrecord
  obtain ⟨f, rfl⟩ := obj_of_attachAnnotations (Fallible.mapError_eq_ok.1 hrecord)
  obtain ⟨g, rfl⟩ := obj_of_attachTags htagged
  exact ⟨g, Fallible.mapError_eq_ok.1 hbase⟩

end ResourceKind

end TagGovernance
