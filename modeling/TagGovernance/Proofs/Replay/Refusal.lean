import TagGovernance.Proofs.Replay.Actions

/-!
# Refused requests

A request is refused for an action that its kind does not support, for pairs that cannot be added,
or for a mark without a due date. Each wish is looked at only when it is its turn. So a refused
request has performed the actions before the wish that is refused, on all selected resources, and
nothing of that wish or of those behind it. If the refused wish is the first one, as pairs that
cannot be added always are, the provider is left as it was.
-/

namespace TagGovernance

open Fallible (Fails)

/-- A failure that is due to what was asked for. -/
inductive Failure.IsRefusal : Failure → Prop
  | unsupported (kind : String) (operation : Operation) :
    IsRefusal (.catalog (.unsupported kind operation))
  | pairs (cause : Failure) : IsRefusal (.during .addingTags cause)
  | date (error : MarkError) : IsRefusal (.mark error)

namespace ReplayRequest

variable {r : ReplayRequest} {settings : Settings} {now : Instant} {p : Provider} {e : Failure}

private theorem fails_get (catalog : Catalog) (name : String) :
    Fails (fun e => ¬e.IsRefusal) ((catalog.get name).mapError Failure.catalog) := by
  intro e h
  cases hget : catalog.get name with
  | ok kind => simp [hget] at h
  | error error =>
    obtain rfl := Catalog.get_eq_error hget
    rw [hget] at h
    obtain rfl := Except.error.inj h
    exact nofun

private theorem fails_filter (text : String) :
    Fails (fun e => ¬e.IsRefusal) (TagFilter.ofText text) := by
  unfold TagFilter.ofText
  split
  · unfold TagFilter.ofPair
    dsimp only
    split
    · rw [Fallible.ok_bind]
      split_ifs
      · exact .error nofun
      · exact .ok _
      · exact .ok _
      · split
        · exact .ok _
        · split
          · exact .ok _
          · exact .error nofun
    · exact .error nofun
  · exact .error nofun

private theorem fails_resources (p : Provider) (name : String) :
    Fails (fun e => ¬e.IsRefusal) (p.resources name) := by
  refine (fails_get p.catalog name).bind fun kind _ => ?_
  refine (Fails.mapError fun _ => nofun).bind fun records _ => ?_
  exact Fails.mapM (fun record => (Fails.mapError fun _ => nofun).bind fun _ _ => .ok _) records

private theorem fails_select (policy : Policy) (now : Instant) (resources : List Described) :
    Fails (fun e => ¬e.IsRefusal) (policy.select now resources) := by
  induction resources with
  | nil => exact .ok []
  | cons d rest ih =>
    exact (Fails.mapError fun _ => nofun).bind fun _ _ => ih.bind fun _ _ => .ok _

private theorem fails_selection (r : ReplayRequest) (p : Provider) (now : Instant) :
    Fails (fun e => ¬e.IsRefusal) (r.selection p now) := by
  refine (fails_get p.catalog r.kind).bind fun kind _ => ?_
  refine ((Fails.mapM fails_filter r.filters).bind fun _ _ => .ok _).bind fun policy _ => ?_
  refine (fails_resources p kind.typeName).bind fun resources _ => ?_
  exact (fails_select policy now resources).bind fun _ _ => .ok _

private theorem tags_first {met rest : List Wish} (h : r.wishes = met ++ .tags :: rest) :
    met = [] := by
  cases met with
  | nil => rfl
  | cons first others =>
    have hlater : Wish.tags ∈ r.wishes.tail := by simp [h]
    obtain ⟨kind, filters, logging, crossAccount, allowed, markedFor, skewDays, add, remove, mark,
      markTag, protection, delete⟩ := r
    unfold wishes at hlater
    split at hlater <;> rcases mark with _ | ⟨action, days⟩ <;> cases protection <;>
      cases delete <;> simp at hlater

/-- Pairs that cannot be added are refused where tags are wished for. -/
private theorem tags_of_pairs {catalog : Catalog} {kind : String} {ingest : Ingest} {wish : Wish}
    {cause : Failure}
    (h : r.prepare catalog kind ingest now wish = .error (.during .addingTags cause)) :
    wish = .tags := by
  unfold prepare at h
  cases hk : (catalog.require kind (r.operation wish)).mapError Failure.catalog with
  | error error =>
    rw [hk] at h
    obtain rfl := Except.error.inj h
    cases hreq : catalog.require kind (r.operation wish) <;> simp [hreq] at hk
  | ok found =>
    rw [hk, Fallible.ok_bind] at h
    cases wish with
    | tags => rfl
    | mark action days =>
      dsimp only at h
      rcases Mark.tagsAt_cases { tag := r.markTag.getD defaultMarkTag, action, days } now with
        ⟨value, hstamp⟩ | hstamp
      · simp [hstamp] at h
      · simp [hstamp] at h
    | protection state => simp at h
    | delete => simp at h

/-- How far a run came before the wish that failed. -/
structure Stop (r : ReplayRequest) (settings : Settings) (now : Instant) (p : Provider)
    (e : Failure) where
  kind : ResourceKind
  selected : List ResourceRef
  /-- The wishes before the one that failed, and the actions that met them. -/
  met : List Wish
  actions : List Action
  wish : Wish
  rest : List Wish
  selection : r.selection p now = .ok (kind, selected)
  wishes : r.wishes = met ++ wish :: rest
  ready : met.mapM (r.prepare p.catalog kind.typeName settings.ingest now) = .ok actions
  fails : r.prepare p.catalog kind.typeName settings.ingest now wish = .error e
  left : (r.run settings now p).2 =
    (Action.runAll selected { p with sessions := p.sessions + 1 } actions).2.closeSession

/-- A request that is refused has performed the actions before the wish that is refused, each on all
selected resources, and nothing else. If that is its first wish, as it is for pairs that cannot be
added, the provider is the same as before, down to the calls that were made. -/
theorem run_refused (h : (r.run settings now p).1 = .error e) (hr : e.IsRefusal) :
    ∃ stop : r.Stop settings now p e,
      (stop.met = [] → (r.run settings now p).2 = p) ∧
      ∀ cause, e = .during .addingTags cause → stop.met = [] := by
  cases hs : r.selection p now with
  | error error =>
    rw [run, hs] at h
    obtain rfl := Except.error.inj h
    exact absurd hr (fails_selection r p now _ hs)
  | ok found =>
    obtain ⟨kind, selected⟩ := found
    have hrun := run_eq settings hs
    rw [hrun] at h
    cases hready : r.readied p.catalog kind.typeName settings.ingest now r.wishes with
    | mk actions refused => cases refused with
      | none =>
        -- All wishes were met, so only the last look at the resources can have failed.
        rw [hready] at h
        dsimp only at h
        cases hlook : (r.acted settings now p kind selected).2.resources kind.typeName with
        | error error =>
          rw [hlook] at h
          obtain rfl := Except.error.inj h
          exact absurd hr (fails_resources _ _ _ hlook)
        | ok remaining =>
          rw [hlook] at h
          cases h
      | some error =>
        rw [hready] at h
        obtain rfl := Except.error.inj h
        obtain ⟨met, wish, rest, hwishes, hmet, hwish⟩ := readied_some hready
        have hleft : (r.run settings now p).2 =
            (Action.runAll selected { p with sessions := p.sessions + 1 } actions).2.closeSession := by
          rw [run_provider settings hs, performed, hready]
        refine ⟨⟨kind, selected, met, actions, wish, rest, hs, hwishes, hmet, hwish, hleft⟩, ?_, ?_⟩
        · rintro rfl
          obtain rfl := Except.ok.inj hmet
          exact hleft
        · rintro cause rfl
          obtain rfl := tags_of_pairs hwish
          exact tags_first hwishes

def untaggedCluster : Flight where
  resources := [("memorydb", [{
    listed := .obj [("ARN", .str "arn:a"), ("Name", .str "a")]
    tags := some (.arr []) }])]

def tagAndProtect : ReplayRequest where
  kind := "memorydb"
  add := [("env", "dev")]
  deleteProtection := some true

theorem run_refused_protection : ∃ catalog p,
    Aws.catalog = .ok catalog ∧ Provider.ofFlight catalog untaggedCluster .strict = .ok p ∧
    ∃ e, (tagAndProtect.run {} ⟨0⟩ p).1 = .error e ∧ e.IsRefusal ∧
    ∃ stop : tagAndProtect.Stop {} ⟨0⟩ p e,
      (stop.met = [] → (tagAndProtect.run {} ⟨0⟩ p).2 = p) ∧
      ∀ cause, e = .during .addingTags cause → stop.met = [] := by
  refine ⟨_, _, Aws.catalog_eq, rfl, .catalog (.unsupported "memorydb" .updateDeleteProtection),
    rfl, .unsupported _ _, ?_⟩
  exact run_refused rfl (.unsupported _ _)

/-- A refused request can be half applied: here the tags are written before the protection is
refused. -/
theorem tagged_before_refusal : ∃ catalog p,
    Aws.catalog = .ok catalog ∧ Provider.ofFlight catalog untaggedCluster .strict = .ok p ∧
    (tagAndProtect.run {} ⟨0⟩ p).1 =
      .error (.catalog (.unsupported "memorydb" .updateDeleteProtection)) ∧
    (tagAndProtect.run {} ⟨0⟩ p).2.calls =
      [⟨.getTags, "memorydb", "a", 1⟩, ⟨.putTags, "memorydb", "a", 1⟩] ∧
    p.resources "memorydb" = .ok [(⟨"memorydb", "a", some "arn:a"⟩,
      .obj [("ARN", .str "arn:a"), ("Name", .str "a"), ("Tags", .arr [])])] ∧
    (tagAndProtect.run {} ⟨0⟩ p).2.resources "memorydb" = .ok [(⟨"memorydb", "a", some "arn:a"⟩,
      .obj [("ARN", .str "arn:a"), ("Name", .str "a"),
        ("Tags", .arr [.obj [("Key", .str "env"), ("Value", .str "dev")]])])] :=
  ⟨_, _, Aws.catalog_eq, rfl, rfl, rfl, rfl, rfl⟩

end ReplayRequest

end TagGovernance
