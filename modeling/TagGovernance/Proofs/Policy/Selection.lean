import TagGovernance.Policy.Select
import TagGovernance.Proofs.Fallible

/-!
# Selection as filtering

A selection reads the tags of all resources, whatever its filters are, and fails with the first ones
that cannot be read. What is left is to filter the list. So two lists of filters, one behind the
other, select in two steps, and how often and in which order the filters of a list stand is of no
account.
-/

namespace TagGovernance.Policy

variable {policy other : Policy} {now : Instant} {resources : List Described} {d : Described}

theorem tagsOf_eq_ok {tags : TagSet} : tagsOf d = .ok tags ↔ recordTags d.2 = .ok tags := by
  simp only [tagsOf, during, Fallible.mapError_eq_ok]

theorem tagsOf_eq_error {error : Failure} : tagsOf d = .error error ↔
    ∃ cause, recordTags d.2 = .error cause ∧
      error = .during (.readingTagsOf d.1.kind d.1.id) (.ingest cause) := by
  simp only [tagsOf, during, Fallible.mapError_eq_error, exists_exists_and_eq_and]
  exact exists_congr fun cause => and_congr_right fun _ => eq_comm

def Readable (resources : List Described) : Prop :=
  ∀ d ∈ resources, ∃ tags, recordTags d.2 = .ok tags

theorem readable_iff : Readable resources ↔ ∃ tags, resources.mapM tagsOf = .ok tags := by
  simp only [Fallible.mapM_succeeds_iff, tagsOf_eq_ok, Readable]

theorem Readable.filter (h : Readable resources) (p : Described → Bool) :
    Readable (resources.filter p) := fun d hd => h d (List.mem_of_mem_filter hd)

theorem not_readable_iff : ¬Readable resources ↔
    ∃ d ∈ resources, ∃ cause, recordTags d.2 = .error cause := by
  simp only [Readable, not_forall, exists_prop]
  refine exists_congr fun d => and_congr_right fun _ => ?_
  cases recordTags d.2 <;> simp

def admits (policy : Policy) (now : Instant) (d : Described) : Bool :=
  match recordTags d.2 with
  | .ok tags => policy.passes now d tags
  | .error _ => false

theorem admits_of_read {tags : TagSet} (h : recordTags d.2 = .ok tags) :
    policy.admits now d = policy.passes now d tags := by
  rw [admits, h]

theorem admits_append (policy other : Policy) (now : Instant) (d : Described) :
    admits (policy ++ other) now d = (policy.admits now d && other.admits now d) := by
  cases h : recordTags d.2 with
  | error cause => simp only [admits, h, Bool.and_self]
  | ok tags => simp only [admits_of_read h, passes, List.all_append]

theorem admits_congr (h : ∀ f, f ∈ policy ↔ f ∈ other) (now : Instant) :
    policy.admits now = other.admits now := by
  funext d
  cases hread : recordTags d.2 with
  | error cause => simp only [admits, hread]
  | ok tags =>
    rw [admits_of_read hread, admits_of_read hread, Bool.eq_iff_iff]
    simp only [passes, List.all_eq_true, h]

/-- The resources that a policy selects, each with its record. -/
def chosen (policy : Policy) (now : Instant) (resources : List Described) :
    Except Failure (List Described) :=
  (resources.mapM tagsOf).map fun _ => resources.filter (policy.admits now)

theorem chosen_of_readable (h : Readable resources) :
    policy.chosen now resources = .ok (resources.filter (policy.admits now)) := by
  obtain ⟨tags, htags⟩ := readable_iff.1 h
  rw [chosen, htags]
  rfl

theorem chosen_eq_ok {pairs : List Described} : policy.chosen now resources = .ok pairs ↔
    Readable resources ∧ pairs = resources.filter (policy.admits now) := by
  rw [chosen, Fallible.map_eq_ok, readable_iff]
  constructor
  · rintro ⟨tags, htags, rfl⟩
    exact ⟨⟨tags, htags⟩, rfl⟩
  · rintro ⟨⟨tags, htags⟩, rfl⟩
    exact ⟨tags, htags, rfl⟩

/-- A selection goes through all tags first, and takes one resource after the other. -/
theorem select_eq (policy : Policy) (now : Instant) (resources : List Described) :
    policy.select now resources = (policy.chosen now resources).map (List.map Prod.fst) := by
  induction resources with
  | nil => rfl
  | cons d rest ih =>
    rw [select, ih, chosen, chosen, Fallible.mapM_cons_eq]
    cases htags : tagsOf d with
    | error error => rfl
    | ok tags =>
      cases hrest : rest.mapM tagsOf with
      | error error => rfl
      | ok others =>
        have hadmits : policy.admits now d = policy.passes now d tags :=
          admits_of_read (tagsOf_eq_ok.1 htags)
        simp only [Fallible.ok_bind, Except.map, List.filter_cons, hadmits]
        split <;> rfl

theorem select_eq_ok {selected : List ResourceRef} : policy.select now resources = .ok selected ↔
    Readable resources ∧ selected = (resources.filter (policy.admits now)).map Prod.fst := by
  rw [select_eq, Fallible.map_eq_ok]
  simp only [chosen_eq_ok]
  constructor
  · rintro ⟨_, ⟨hreadable, rfl⟩, rfl⟩
    exact ⟨hreadable, rfl⟩
  · rintro ⟨hreadable, rfl⟩
    exact ⟨_, ⟨hreadable, rfl⟩, rfl⟩

theorem select_eq_filter {selected : List ResourceRef}
    (h : policy.select now resources = .ok selected) :
    selected = (resources.filter (policy.admits now)).map Prod.fst := (select_eq_ok.1 h).2

/-- A selection fails with the first tags that cannot be read, and no filter hides them. -/
theorem select_eq_error {error : Failure} : policy.select now resources = .error error ↔
    ∃ before d after cause, resources = before ++ d :: after ∧ Readable before ∧
      recordTags d.2 = .error cause ∧
      error = .during (.readingTagsOf d.1.kind d.1.id) (.ingest cause) := by
  have hfirst : policy.select now resources = .error error ↔
      resources.mapM tagsOf = .error error := by
    rw [select_eq, chosen, Fallible.map_eq_error, Fallible.map_eq_error]
  simp only [hfirst, Fallible.mapM_eq_error, tagsOf_eq_ok, tagsOf_eq_error, Readable,
    exists_and_left]

/-- Two lists of filters, one behind the other, choose in two steps. What the first step leaves can
be read, so that the second one does not fail. -/
theorem chosen_append (policy other : Policy) (now : Instant) (resources : List Described) :
    chosen (policy ++ other) now resources = policy.chosen now resources >>= other.chosen now := by
  cases htags : resources.mapM tagsOf with
  | error error =>
    simp only [chosen, htags]
    rfl
  | ok tags =>
    have hreadable : Readable resources := readable_iff.2 ⟨tags, htags⟩
    have hboth : admits (policy ++ other) now =
        fun d => other.admits now d && policy.admits now d := by
      funext d
      rw [admits_append, Bool.and_comm]
    rw [chosen_of_readable hreadable, chosen_of_readable hreadable, Fallible.ok_bind,
      chosen_of_readable (hreadable.filter _), List.filter_filter, hboth]

theorem select_append (policy other : Policy) (now : Instant) (resources : List Described) :
    select (policy ++ other) now resources = policy.chosen now resources >>= other.select now := by
  rw [select_eq, chosen_append]
  cases policy.chosen now resources with
  | error error => rfl
  | ok pairs => rw [Fallible.ok_bind, Fallible.ok_bind, select_eq]

theorem select_congr (h : ∀ f, f ∈ policy ↔ f ∈ other) (now : Instant)
    (resources : List Described) : policy.select now resources = other.select now resources := by
  rw [select_eq, select_eq, chosen, chosen, admits_congr h]

/-- A selection fails just if some tags cannot be read, whatever the filters are, and names the
first of these. Otherwise it goes through the resources in their order, and those that occur several
times are taken as often. Filters that stand behind others select from what these leave, and neither
the order of the filters nor how often they stand there counts. -/
theorem select_laws (now : Instant) (resources : List Described) :
    (∀ policy, (∃ error, select policy now resources = .error error) ↔
      ∃ d ∈ resources, ∃ cause, recordTags d.2 = .error cause) ∧
    (∀ policy error, select policy now resources = .error error ↔
      ∃ before d after cause, resources = before ++ d :: after ∧
        (∀ x ∈ before, ∃ tags, recordTags x.2 = .ok tags) ∧ recordTags d.2 = .error cause ∧
        error = .during (.readingTagsOf d.1.kind d.1.id) (.ingest cause)) ∧
    (∀ policy selected, select policy now resources = .ok selected →
      selected.Sublist (resources.map Prod.fst) ∧
      selected = (resources.filter (policy.admits now)).map Prod.fst) ∧
    (∀ policy, select policy now resources =
      (chosen policy now resources).map (List.map Prod.fst)) ∧
    (∀ policy other, select (policy ++ other) now resources =
      chosen policy now resources >>= select other now) ∧
    ∀ policy other, (∀ f, f ∈ policy ↔ f ∈ other) →
      select policy now resources = select other now resources := by
  refine ⟨fun policy => ?_, fun policy error => select_eq_error, fun policy selected h => ⟨?_, ?_⟩,
    fun policy => select_eq policy now resources,
    fun policy other => select_append policy other now resources,
    fun policy other h => select_congr h now resources⟩
  · have hok : (∃ error, policy.select now resources = .error error) ↔
        ¬∃ selected, policy.select now resources = .ok selected := by
      cases policy.select now resources <;> simp
    rw [hok, ← not_readable_iff]
    simp only [select_eq_ok, exists_and_left, exists_eq, and_true]
  · rw [select_eq_filter h]
    exact List.filter_sublist.map _
  · exact select_eq_filter h

def listedTwice : List Described := [
  (⟨"firewall", "a", none⟩, .obj [("Tags", TagShape.pascal.encode (.ofList [("owner", "x")]))]),
  (⟨"firewall", "b", none⟩, .obj []),
  (⟨"firewall", "a", none⟩, .obj [("Tags", TagShape.pascal.encode (.ofList [("owner", "x")]))]),
  (⟨"firewall", "c", none⟩, .obj [("Tags", TagShape.pascal.encode (.ofList [("owner", "y")]))])]

/-- The resource that is listed twice is taken twice, in one step or in two, and with a filter that
is repeated. Tags that cannot be read make a selection fail though no filter looks at them. -/
theorem select_laws_listedTwice :
    select [.tag (.present "owner"), .tag (.equals "owner" "x")] ⟨0⟩ listedTwice =
      .ok [⟨"firewall", "a", none⟩, ⟨"firewall", "a", none⟩] ∧
    List.Sublist [⟨"firewall", "a", none⟩, ⟨"firewall", "a", none⟩] (listedTwice.map Prod.fst) ∧
    (chosen [.tag (.present "owner")] ⟨0⟩ listedTwice >>= select [.tag (.equals "owner" "x")] ⟨0⟩) =
      .ok [⟨"firewall", "a", none⟩, ⟨"firewall", "a", none⟩] ∧
    select [.tag (.equals "owner" "x"), .tag (.present "owner"), .tag (.equals "owner" "x")] ⟨0⟩
      listedTwice = .ok [⟨"firewall", "a", none⟩, ⟨"firewall", "a", none⟩] ∧
    ∃ error, select [] ⟨0⟩ (listedTwice ++ [(⟨"firewall", "d", none⟩, .obj [("Tags", .str "x")])]) =
      .error error := by
  have hselected : select [.tag (.present "owner"), .tag (.equals "owner" "x")] ⟨0⟩ listedTwice =
      .ok [⟨"firewall", "a", none⟩, ⟨"firewall", "a", none⟩] := by
    rfl
  obtain ⟨-, -, hsublist, -, hsteps, hrepeated⟩ := select_laws ⟨0⟩ listedTwice
  refine ⟨hselected, (hsublist _ _ hselected).1, (hsteps _ _).symm.trans hselected,
    (hrepeated _ _ fun f => ?_).trans hselected, ((select_laws ⟨0⟩ _).1 []).2
      ⟨_, List.mem_append_right _ List.mem_cons_self, _, rfl⟩⟩
  simp only [List.mem_cons, List.not_mem_nil, or_false]
  tauto

end TagGovernance.Policy
