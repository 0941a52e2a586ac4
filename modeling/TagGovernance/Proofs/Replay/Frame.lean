import Mathlib.Data.List.Nodup
import TagGovernance.Proofs.Replay.Runs

/-!
# Resources that were not selected

Calls find resources by kind and id, and a policy selects them by what their records say. So a run
can change a resource that it did not select, if a selected one of the kind has the same id. It
changes no other: all resources without a selected id keep their records and their order, and those
of other kinds are enumerated as before.
-/

namespace TagGovernance

namespace ReplayRequest

/-- Take a provider of a flight of AWS resources, after any runs, and one more run that succeeds.
Its kind is enumerated before and after it, and the resources without the id of a selected one are
the same, with their records and in their order. If all ids of the kind differ, these are all that
were not selected. Every other kind is enumerated as before. -/
theorem unselected_kept (flight : Flight) (ingest : Ingest) (history : List ReplayCall)
    (r : ReplayRequest) (settings : Settings) (now : Instant) {catalog : Catalog}
    {start p : Provider} (hc : Aws.catalog = .ok catalog)
    (hstart : Provider.ofFlight catalog flight ingest = .ok start)
    (hp : ReplayCall.afterAll start history = p) {result : ReplayResult}
    (h : (r.run settings now p).1 = .ok result) :
    ∃ before after, p.resources r.kind = .ok before ∧
      (r.run settings now p).2.resources r.kind = .ok after ∧
      (after.filter fun d => d.1.id ∉ result.selected.map (·.id)) =
        (before.filter fun d => d.1.id ∉ result.selected.map (·.id)) ∧
      ((before.map (·.1.id)).Nodup → ∀ d ∈ before, d.1 ∉ result.selected → d ∈ after) ∧
      ∀ name, Catalog.bareName name ≠ Catalog.bareName r.kind →
        (r.run settings now p).2.resources name = p.resources name := by
  have hsound : p.Sound :=
    hp ▸ ReplayCall.afterAll_sound (Provider.ofFlight_sound (Aws.steady hc) hstart) history
  obtain ⟨kind, after, hs, hafter, -⟩ := run_eq_ok h
  obtain ⟨before, hbefore, hsubset⟩ := selection_resources hs
  have hget := get_of_selection hs
  have hk := hsound.steady.get_typeName hget
  have hconfined := run_confined settings hsound.steady hs
  have hkept := hconfined.resources_kept hsound hk hbefore hafter
  refine ⟨before, after, ?_, ?_, hkept, ?_, ?_⟩
  · rw [Provider.resources_of_get hsound.steady hget, hbefore]
  · have hsteady : (r.run settings now p).2.catalog.Steady := hconfined.catalog ▸ hsound.steady
    rw [Provider.resources_of_get hsteady (hconfined.catalog ▸ hget), hafter]
  · intro hnodup d hd hunselected
    have hid : d.1.id ∉ result.selected.map (·.id) := by
      intro hmem
      obtain ⟨target, htarget, hid⟩ := List.mem_map.1 hmem
      obtain ⟨d', hd', rfl⟩ := hsubset target htarget
      obtain rfl : d' = d := List.inj_on_of_nodup_map hnodup hd' hd hid
      exact hunselected htarget
    have hmem : d ∈ after.filter fun d => d.1.id ∉ result.selected.map (·.id) := by
      rw [hkept]
      exact List.mem_filter.2 ⟨hd, decide_eq_true hid⟩
    exact (List.mem_filter.1 hmem).1
  · intro name hname
    refine hconfined.resources_other ?_
    rwa [(Catalog.get_eq_ok hget).2]

def tagOwned : ReplayRequest where
  kind := "memorydb"
  filters := ["tag:owner=policy"]
  add := [("env", "dev")]

/-- Two clusters, of which the first has an owner, and an access list with the name of that one. -/
def mixed : Flight where
  resources := [
    ("memorydb", [
      { listed := .obj [("ARN", .str "arn:x"), ("Name", .str "a")]
        tags := some (.arr [.obj [("Key", .str "owner"), ("Value", .str "policy")]]) },
      { listed := .obj [("ARN", .str "arn:y"), ("Name", .str "b")] }]),
    ("memorydb-acl", [{ listed := .obj [("Name", .str "a")] }])]

def spareCluster : Described :=
  (⟨"memorydb", "b", some "arn:y"⟩, .obj [("ARN", .str "arn:y"), ("Name", .str "b")])

theorem unselected_kept_mixed : ∃ catalog start result before after,
    Aws.catalog = .ok catalog ∧ Provider.ofFlight catalog mixed .strict = .ok start ∧
    (tagOwned.run {} ⟨0⟩ start).1 = .ok result ∧
    result.selected = [⟨"memorydb", "a", some "arn:x"⟩] ∧
    start.resources "memorydb" = .ok before ∧ before.map (·.1.id) = ["a", "b"] ∧
    (tagOwned.run {} ⟨0⟩ start).2.resources "memorydb" = .ok after ∧
    (before.filter fun d => d.1.id ∉ result.selected.map (·.id)) = [spareCluster] ∧
    (after.filter fun d => d.1.id ∉ result.selected.map (·.id)) = [spareCluster] ∧
    spareCluster.1 ∉ result.selected ∧ spareCluster ∈ after ∧
    start.resources "memorydb-acl" =
      .ok [(⟨"memorydb-acl", "a", none⟩, .obj [("Name", .str "a")])] ∧
    (tagOwned.run {} ⟨0⟩ start).2.resources "memorydb-acl" =
      .ok [(⟨"memorydb-acl", "a", none⟩, .obj [("Name", .str "a")])] := by
  obtain ⟨before, after, hbefore, hafter, hkept, hspared, hothers⟩ :=
    unselected_kept mixed .strict [] tagOwned {} ⟨0⟩ Aws.catalog_eq rfl rfl rfl
  cases hbefore
  refine ⟨_, _, _, _, after, Aws.catalog_eq, rfl, rfl, rfl, rfl, rfl, hafter, rfl, hkept, by decide,
    ?_, rfl, hothers "memorydb-acl" (by decide)⟩
  exact hspared (by decide) spareCluster (List.mem_cons_of_mem _ List.mem_cons_self) (by decide)

/-- Two clusters with the same name, of which the second has an owner. -/
def namesakes : Flight where
  resources := [("memorydb", [
    { listed := .obj [("ARN", .str "arn:x"), ("Name", .str "a")] },
    { listed := .obj [("ARN", .str "arn:y"), ("Name", .str "a")]
      tags := some (.arr [.obj [("Key", .str "owner"), ("Value", .str "policy")]]) }])]

/-- A run can change a resource that it did not select: only the second of two clusters is selected,
and the first one is tagged. -/
theorem unselected_namesake_tagged : ∃ catalog start result,
    Aws.catalog = .ok catalog ∧ Provider.ofFlight catalog namesakes .strict = .ok start ∧
    (tagOwned.run {} ⟨0⟩ start).1 = .ok result ∧
    result.selected = [⟨"memorydb", "a", some "arn:y"⟩] ∧
    start.resources "memorydb" = .ok [
      (⟨"memorydb", "a", some "arn:x"⟩, .obj [("ARN", .str "arn:x"), ("Name", .str "a")]),
      (⟨"memorydb", "a", some "arn:y"⟩, .obj [("ARN", .str "arn:y"), ("Name", .str "a"),
        ("Tags", .arr [.obj [("Key", .str "owner"), ("Value", .str "policy")]])])] ∧
    (tagOwned.run {} ⟨0⟩ start).2.resources "memorydb" = .ok [
      (⟨"memorydb", "a", some "arn:x"⟩, .obj [("ARN", .str "arn:x"), ("Name", .str "a"),
        ("Tags", .arr [.obj [("Key", .str "env"), ("Value", .str "dev")]])]),
      (⟨"memorydb", "a", some "arn:y"⟩, .obj [("ARN", .str "arn:y"), ("Name", .str "a"),
        ("Tags", .arr [.obj [("Key", .str "owner"), ("Value", .str "policy")]])])] :=
  ⟨_, _, _, Aws.catalog_eq, rfl, rfl, rfl, rfl, rfl⟩

end ReplayRequest

end TagGovernance
