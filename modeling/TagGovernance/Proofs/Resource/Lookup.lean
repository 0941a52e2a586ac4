import TagGovernance.Proofs.Resource.Validity

/-!
# Kinds under their names

A catalog is checked and ordered by the names that its kinds have, and kinds are looked up by bare
names. The two agree unless a kind's own name begins with the name of the cloud: the look-up takes it
off, so it does not find that kind, and may find another one. The list of a catalog is made with
look-ups, so it has every kind in the order of deletion just if no kind has such a name.
-/

namespace TagGovernance.Catalog

/-- A name that begins with the name of the cloud. -/
def Qualified (name : String) : Prop := ∃ rest, name = "aws." ++ rest

theorem bareName_qualified (name : String) : bareName ("aws." ++ name) = name := by
  rw [bareName, Text.afterStart?_eq_some_iff.2 rfl, Option.getD_some]

theorem bareName_eq_self_iff {name : String} : bareName name = name ↔ ¬Qualified name := by
  constructor
  · rintro hbare ⟨rest, rfl⟩
    rw [bareName_qualified] at hbare
    have hlength := congrArg String.length hbare
    rw [String.length_append] at hlength
    have hcloud : "aws.".length = 4 := by decide
    omega
  · intro hplain
    cases hstart : Text.afterStart? "aws." name with
    | none => rw [bareName, hstart, Option.getD_none]
    | some rest => exact absurd ⟨rest, Text.afterStart?_eq_some_iff.1 hstart⟩ hplain

variable {kinds : List ResourceKind} {kind : ResourceKind} {catalog : Catalog} {name : String}

/-- An accepted catalog has the kinds that it was made of, with different names, in the order of
their prerequisites. -/
theorem parts_of_ofKinds (h : ofKinds kinds = .ok catalog) :
    catalog.kinds = kinds ∧ (kinds.map (·.typeName)).Nodup ∧
      Graph.orderByPrerequisites (kinds.map fun k => (k.typeName, k.deleteAfter)) =
        .ok catalog.deletionOrder := by
  obtain ⟨hflawless, order, horder, rfl⟩ := ofKinds_eq_ok_iff.1 h
  exact ⟨rfl, (flawless_iff.1 hflawless).1, horder⟩

section Distinct

variable (hnodup : (catalog.kinds.map (·.typeName)).Nodup)

include hnodup

theorem get_of_nodup (hk : kind ∈ catalog.kinds) (hname : bareName name = kind.typeName) :
    catalog.get name = .ok kind := by
  have hfound : catalog.kinds.find? (fun k => k.typeName = bareName name) = some kind := by
    cases h : catalog.kinds.find? (fun k => k.typeName = bareName name) with
    | none => exact absurd hname.symm (by simpa using List.find?_eq_none.1 h kind hk)
    | some found =>
      have hfits := List.find?_some h
      have hsame : found.typeName = kind.typeName := (of_decide_eq_true hfits).trans hname
      rw [List.inj_on_of_nodup_map hnodup (List.mem_of_find?_eq_some h) hk hsame]
  rw [get, hfound]

theorem get_typeName_iff (hk : kind ∈ catalog.kinds) :
    catalog.get kind.typeName = .ok kind ↔ ¬Qualified kind.typeName := by
  rw [← bareName_eq_self_iff]
  exact ⟨fun h => (get_eq_ok h).2.symm, get_of_nodup hnodup hk⟩

end Distinct

def listed (catalog : Catalog) : List ResourceKind :=
  catalog.deletionOrder.filterMap fun name => (catalog.get name).toOption

theorem toJson_eq (catalog : Catalog) :
    catalog.toJson = .ofFields [("kinds", .arr (catalog.listed.map ResourceKind.toJson))] := rfl

theorem mem_kinds_of_listed (h : kind ∈ catalog.listed) : kind ∈ catalog.kinds := by
  obtain ⟨name, -, hget⟩ := List.mem_filterMap.1 h
  cases hfound : catalog.get name with
  | error e => simp [hfound, Except.toOption] at hget
  | ok found =>
    obtain rfl : found = kind := by simpa [hfound, Except.toOption] using hget
    exact (get_eq_ok hfound).1

/-- The list has the names of the order just if every name finds a kind that has it. -/
theorem listed_names_iff : catalog.listed.map (·.typeName) = catalog.deletionOrder ↔
    ∀ name ∈ catalog.deletionOrder, ∃ kind, catalog.get name = .ok kind ∧ kind.typeName = name := by
  rw [listed]
  induction catalog.deletionOrder with
  | nil => simp
  | cons name rest ih =>
    rw [List.forall_mem_cons, ← ih]
    cases hget : catalog.get name with
    | error e =>
      -- Then the list is shorter than the order.
      rw [List.filterMap_cons_none (by rw [hget]; rfl)]
      refine iff_of_false (fun h => ?_) (fun h => by simp at h)
      have hlength := congrArg List.length h
      rw [List.length_map, List.length_cons] at hlength
      have := List.length_filterMap_le (fun name => (catalog.get name).toOption) rest
      omega
    | ok found =>
      rw [List.filterMap_cons_some (by rw [hget]; rfl)]
      simp

section Accepted

variable (h : ofKinds kinds = .ok catalog)

include h

theorem deletionOrder_perm : catalog.deletionOrder.Perm (catalog.kinds.map (·.typeName)) := by
  obtain ⟨rfl, -, horder⟩ := parts_of_ofKinds h
  simpa [Function.comp_def] using Graph.orderByPrerequisites_perm horder

/-- All kinds are listed in the order of deletion just if all names are bare. -/
theorem listed_iff : catalog.listed.map (·.typeName) = catalog.deletionOrder ↔
    ∀ kind ∈ catalog.kinds, ¬Qualified kind.typeName := by
  obtain ⟨rfl, hnodup, -⟩ := parts_of_ofKinds h
  rw [listed_names_iff]
  constructor
  · intro hfound kind hk
    obtain ⟨found, hget, hname⟩ := hfound kind.typeName
      ((deletionOrder_perm h).mem_iff.2 (List.mem_map_of_mem hk))
    rw [← bareName_eq_self_iff, ← (get_eq_ok hget).2, hname]
  · intro hplain name hname
    obtain ⟨kind, hk, rfl⟩ := List.mem_map.1 ((deletionOrder_perm h).mem_iff.1 hname)
    exact ⟨kind, (get_typeName_iff hnodup hk).2 (hplain kind hk), rfl⟩

/-- A list with the names of the order has every kind once. -/
theorem listed_perm (hnames : catalog.listed.map (·.typeName) = catalog.deletionOrder) :
    catalog.listed.Perm catalog.kinds := by
  obtain ⟨rfl, hnodup, -⟩ := parts_of_ofKinds h
  have horder : (catalog.listed.map (·.typeName)).Perm (catalog.kinds.map (·.typeName)) :=
    hnames ▸ deletionOrder_perm h
  have hlisted : (catalog.listed.map (·.typeName)).Nodup := horder.nodup_iff.2 hnodup
  refine (List.perm_ext_iff_of_nodup (hlisted.of_map _) (hnodup.of_map _)).2 fun kind => ?_
  refine ⟨mem_kinds_of_listed, fun hk => ?_⟩
  obtain ⟨other, hother, hsame⟩ := List.mem_map.1 (horder.mem_iff.2 (List.mem_map_of_mem hk))
  rwa [← List.inj_on_of_nodup_map hnodup (mem_kinds_of_listed hother) hk hsame]

theorem deleted_behind (hk : kind ∈ catalog.kinds) (hname : name ∈ kind.deleteAfter) :
    catalog.deletionOrder.idxOf name < catalog.deletionOrder.idxOf kind.typeName := by
  obtain ⟨rfl, hnodup, horder⟩ := parts_of_ofKinds h
  refine Graph.idxOf_lt_of_requires horder ?_ ⟨kind.deleteAfter, ?_, hname⟩
  · simpa [Function.comp_def] using hnodup
  · exact List.mem_map_of_mem (f := fun k : ResourceKind => (k.typeName, k.deleteAfter)) hk

end Accepted

/-- Every kind of an accepted catalog is found under its name with the cloud's name before it, and
under its name alone just if that does not begin with the cloud's name itself. The order of deletion
has the names of all kinds, each behind those of the kinds that it follows. The catalog lists its
kinds in this order, each of them once, just if no name begins with the cloud's name. -/
theorem ofKinds_lookups (h : ofKinds kinds = .ok catalog) :
    catalog.kinds = kinds ∧
    (∀ kind ∈ kinds, catalog.get ("aws." ++ kind.typeName) = .ok kind ∧
      (catalog.get kind.typeName = .ok kind ↔ ¬Qualified kind.typeName)) ∧
    catalog.deletionOrder.Perm (kinds.map (·.typeName)) ∧
    (∀ kind ∈ kinds, ∀ name ∈ kind.deleteAfter,
      catalog.deletionOrder.idxOf name < catalog.deletionOrder.idxOf kind.typeName) ∧
    catalog.toJson = .ofFields [("kinds", .arr (catalog.listed.map ResourceKind.toJson))] ∧
    (catalog.listed.Perm kinds ∧ catalog.listed.map (·.typeName) = catalog.deletionOrder ↔
      ∀ kind ∈ kinds, ¬Qualified kind.typeName) := by
  obtain ⟨rfl, hnodup, -⟩ := parts_of_ofKinds h
  refine ⟨rfl, fun kind hk => ⟨?_, get_typeName_iff hnodup hk⟩, deletionOrder_perm h,
    fun kind hk name hname => deleted_behind h hk hname, toJson_eq catalog, ?_⟩
  · exact get_of_nodup hnodup hk (bareName_qualified _)
  · rw [← listed_iff h]
    exact ⟨And.right, fun hnames => ⟨listed_perm h hnames, hnames⟩⟩

def box : ResourceKind := { typeName := "box", service := "storage" }

def cloudBox : ResourceKind := { typeName := "aws.box", service := "hosting", deleteAfter := ["box"] }

private theorem boxes_ordered : Graph.orderByPrerequisites
    ([cloudBox, box].map fun k => (k.typeName, k.deleteAfter)) = .ok ["box", "aws.box"] := by
  cbv

theorem ofKinds_lookups_boxes : ∃ catalog, ofKinds [cloudBox, box] = .ok catalog ∧
    cloudBox ∈ [cloudBox, box] ∧ "box" ∈ cloudBox.deleteAfter ∧
    catalog.get "aws.aws.box" = .ok cloudBox ∧ catalog.get "box" = .ok box ∧
    catalog.get "aws.box" ≠ .ok cloudBox ∧
    catalog.deletionOrder.idxOf "box" < catalog.deletionOrder.idxOf "aws.box" ∧
    ¬(catalog.listed.Perm [cloudBox, box] ∧
      catalog.listed.map (·.typeName) = catalog.deletionOrder) := by
  have h := ofKinds_eq_ok (by decide +kernel) boxes_ordered
  have hcloud : cloudBox ∈ [cloudBox, box] := List.mem_cons_self
  have hbox : box ∈ [cloudBox, box] := List.mem_cons_of_mem _ List.mem_cons_self
  have hqualified : Qualified cloudBox.typeName := ⟨"box", by decide⟩
  have hplain : ¬Qualified box.typeName := bareName_eq_self_iff.1 (by decide)
  obtain ⟨-, hget, -, hbehind, -, hlisted⟩ := ofKinds_lookups h
  refine ⟨_, h, hcloud, List.mem_cons_self, (hget _ hcloud).1, (hget _ hbox).2.2 hplain, ?_,
    hbehind _ hcloud _ List.mem_cons_self, ?_⟩
  · exact fun hfound => (hget _ hcloud).2.1 hfound hqualified
  · exact fun hall => hlisted.1 hall _ hcloud hqualified

/-- A kind's name finds another kind, which is listed in its place, too. -/
theorem namesake_listed_twice : ∃ catalog, ofKinds [cloudBox, box] = .ok catalog ∧
    catalog.get cloudBox.typeName = .ok box ∧ catalog.listed = [box, box] :=
  ⟨_, ofKinds_eq_ok (by decide +kernel) boxes_ordered, by decide +kernel, by decide +kernel⟩

end TagGovernance.Catalog
