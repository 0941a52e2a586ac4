import TagGovernance.Proofs.Provider.Enumeration
import TagGovernance.Proofs.Replay.Actions
import TagGovernance.Proofs.Replay.Selection

/-!
# What runs leave

A run is confined to the resources of its kind that have the id of a selected one, so it keeps a
provider sound, and so does every sequence of runs.
-/

namespace TagGovernance

open Provider (Confined)

namespace ReplayRequest

variable {r : ReplayRequest} {settings : Settings} {now : Instant} {p : Provider}

theorem selection_resources {kind : ResourceKind} {selected : List ResourceRef}
    (h : r.selection p now = .ok (kind, selected)) :
    ∃ resources, p.resources kind.typeName = .ok resources ∧
      ∀ target ∈ selected, ∃ d ∈ resources, d.1 = target := by
  obtain ⟨resources, passes, hresources, -, rfl⟩ := selection_eq_ok h
  refine ⟨resources, hresources, fun target htarget => ?_⟩
  obtain ⟨d, hd, rfl⟩ := List.mem_map.1 htarget
  exact ⟨d, (List.mem_filter.1 hd).1, rfl⟩

theorem kind_of_resources {name : String} {resources : List Described}
    (h : p.resources name = .ok resources) {kind : ResourceKind}
    (hk : p.catalog.get name = .ok kind) :
    ∀ d ∈ resources, d.1.kind = kind.typeName := by
  intro d hd
  obtain ⟨found, hfound, h⟩ := Fallible.bind_eq_ok.1 h
  obtain rfl : found = kind := Except.ok.inj ((Fallible.mapError_eq_ok.1 hfound).symm.trans hk)
  obtain ⟨records, -, h⟩ := Fallible.bind_eq_ok.1 h
  obtain ⟨record, -, hrecord⟩ := Fallible.mem_of_mapM h hd
  obtain ⟨target, htarget, hrecord⟩ := Fallible.bind_eq_ok.1 hrecord
  obtain rfl := Except.ok.inj hrecord
  exact ResourceKind.refOf_kind (Fallible.mapError_eq_ok.1 htarget)

theorem kind_of_selection (hc : p.catalog.Steady) {kind : ResourceKind}
    {selected : List ResourceRef} (h : r.selection p now = .ok (kind, selected)) :
    ∀ target ∈ selected, target.kind = kind.typeName := by
  intro target htarget
  obtain ⟨resources, hresources, hsubset⟩ := selection_resources h
  obtain ⟨d, hd, rfl⟩ := hsubset target htarget
  exact kind_of_resources hresources (hc.get_typeName (get_of_selection h)) d hd

/-- A run that selects resources is confined to those of its kind with a selected id. -/
theorem run_confined (settings : Settings) (hc : p.catalog.Steady) {kind : ResourceKind}
    {selected : List ResourceRef} (h : r.selection p now = .ok (kind, selected)) :
    Confined kind.typeName (selected.map (·.id)) ["DeleteProtection"] p
      (r.run settings now p).2 := by
  have hk := hc.get_typeName (get_of_selection h)
  have named : ∀ target ∈ selected, Catalog.bareName target.kind = kind.typeName ∧
      target.id ∈ selected.map (·.id) := by
    intro target htarget
    rw [kind_of_selection hc h target htarget, hc.bareName_typeName (Catalog.get_eq_ok hk).1]
    exact ⟨rfl, List.mem_map_of_mem htarget⟩
  rw [run_provider settings h]
  exact (Confined.sessions ..).trans ((Action.runAll_confined named _ _).trans (.sessions ..))

theorem run_eq_ok {result : ReplayResult} (h : (r.run settings now p).1 = .ok result) :
    ∃ kind remaining, r.selection p now = .ok (kind, result.selected) ∧
      (r.run settings now p).2.resources kind.typeName = .ok remaining ∧
      result.remaining = remaining.map Prod.snd := by
  cases hs : r.selection p now with
  | error e =>
    rw [run, hs] at h
    cases h
  | ok found =>
    obtain ⟨kind, selected⟩ := found
    have hrun := run_eq settings hs
    rw [hrun] at h ⊢
    dsimp only at h ⊢
    split at h
    · cases h
    · obtain ⟨remaining, hremaining, rfl⟩ := Fallible.map_eq_ok.1 h
      exact ⟨kind, remaining, rfl, hremaining, rfl⟩

/-- A run that selects nothing because its selection fails leaves the provider alone. -/
theorem run_of_failure {e : Failure} (h : r.selection p now = .error e) :
    r.run settings now p = (.error e, p) := by
  rw [run, h]

theorem run_catalog (hc : p.catalog.Steady) : (r.run settings now p).2.catalog = p.catalog := by
  cases h : r.selection p now with
  | error e => rw [run_of_failure h]
  | ok found => exact (run_confined settings hc h).catalog

theorem run_sound (hp : p.Sound) : (r.run settings now p).2.Sound := by
  cases h : r.selection p now with
  | error e =>
    rw [run_of_failure h]
    exact hp
  | ok found => exact (run_confined settings hp.steady h).sound hp

end ReplayRequest

structure ReplayCall where
  request : ReplayRequest
  settings : Settings
  now : Instant

namespace ReplayCall

def after (p : Provider) (call : ReplayCall) : Provider :=
  (call.request.run call.settings call.now p).2

def afterAll (p : Provider) (calls : List ReplayCall) : Provider := calls.foldl after p

/-- Whether it succeeds or not, a run is confined to resources of one kind. -/
theorem after_confined {p : Provider} (hp : p.Sound) (call : ReplayCall) :
    ∃ name ids, Confined name ids ["DeleteProtection"] p (after p call) := by
  cases h : call.request.selection p call.now with
  | error e =>
    rw [after, ReplayRequest.run_of_failure h]
    exact ⟨call.request.kind, [], .refl ..⟩
  | ok found => exact ⟨_, _, ReplayRequest.run_confined call.settings hp.steady h⟩

theorem after_catalog {p : Provider} (hp : p.Sound) (call : ReplayCall) :
    (after p call).catalog = p.catalog := ReplayRequest.run_catalog hp.steady

theorem after_sound {p : Provider} (hp : p.Sound) (call : ReplayCall) : (after p call).Sound :=
  ReplayRequest.run_sound hp

theorem afterAll_sound {p : Provider} (hp : p.Sound) (calls : List ReplayCall) :
    (afterAll p calls).Sound := by
  induction calls generalizing p with
  | nil => exact hp
  | cons call rest ih => exact ih (after_sound hp call)

theorem afterAll_catalog {p : Provider} (hp : p.Sound) (calls : List ReplayCall) :
    (afterAll p calls).catalog = p.catalog := by
  induction calls generalizing p with
  | nil => rfl
  | cons call rest ih => exact (ih (after_sound hp call)).trans (after_catalog hp call)

theorem afterAll_source {p : Provider} (hp : p.Sound) (calls : List ReplayCall) :
    (afterAll p calls).source = p.source := by
  induction calls generalizing p with
  | nil => rfl
  | cons call rest ih =>
    obtain ⟨name, ids, hconfined⟩ := after_confined hp call
    exact (ih (after_sound hp call)).trans hconfined.source

end ReplayCall

end TagGovernance
