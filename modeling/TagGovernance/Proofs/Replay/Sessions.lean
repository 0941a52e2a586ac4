import TagGovernance.Proofs.Replay.Gating

/-!
# Sessions of runs

A run that selects resources opens one session. Until it is closed no call opens or closes any, and
every call is logged with the number of sessions that are open. The session is closed wherever the
run ends, so runs leave as many sessions open as they found, and none of them makes a call while no
session is open.
-/

namespace TagGovernance

namespace Provider

/-- As many sessions are open in the end as at the beginning, and every call that was logged since
then was made while a certain number of them was open. -/
structure LogsIn (sessions : Nat) (p q : Provider) : Prop where
  balanced : q.sessions = p.sessions
  logged : ∃ calls, q.calls = p.calls ++ calls ∧ ∀ call ∈ calls, call.sessions = sessions

namespace LogsIn

variable {sessions : Nat} {p q r : Provider}

theorem of_eq (hsessions : q.sessions = p.sessions) (hcalls : q.calls = p.calls) :
    LogsIn sessions p q :=
  ⟨hsessions, [], by rw [hcalls, List.append_nil], nofun⟩

theorem refl (sessions : Nat) (p : Provider) : LogsIn sessions p p := of_eq rfl rfl

theorem trans (h : LogsIn sessions p q) (h' : LogsIn sessions q r) : LogsIn sessions p r where
  balanced := h'.balanced.trans h.balanced
  logged := by
    obtain ⟨first, hfirst, hin⟩ := h.logged
    obtain ⟨second, hsecond, hin'⟩ := h'.logged
    refine ⟨first ++ second, ?_, List.forall_mem_append.2 ⟨hin, hin'⟩⟩
    rw [hsecond, hfirst, List.append_assoc]

theorem log (p : Provider) (verb : Verb) (target : ResourceRef) :
    LogsIn p.sessions p (p.log verb target) :=
  ⟨rfl, [⟨verb, target.kind, target.id, p.sessions⟩], rfl, by simp⟩

theorem gate (p : Provider) (kind : ResourceKind) (id : String) :
    LogsIn sessions p (p.gate kind id).2 := by
  unfold Provider.gate
  split
  · exact .refl ..
  · split
    · exact .of_eq rfl rfl
    · split <;> exact .refl ..

theorem of_gate {verb : Verb} {target : ResourceRef} {kind : ResourceKind} {reply : Reply Entry}
    (h : (p.log verb target).gate kind target.id = reply) : LogsIn p.sessions p reply.2 :=
  h ▸ (LogsIn.log p verb target).trans (.gate ..)

end LogsIn

section Calls

variable (p : Provider) (target : ResourceRef)

theorem getTags_logsIn : LogsIn p.sessions p (p.getTags target).2 := by
  unfold getTags
  cases p.kindOf target.kind with
  | error e => exact .refl ..
  | ok kind =>
    dsimp only
    split <;> rename_i hgate <;> exact .of_gate hgate

theorem putTags_logsIn (tags : TagSet) : LogsIn p.sessions p (p.putTags target tags).2 := by
  unfold putTags
  cases p.kindOf target.kind with
  | error e => exact .refl ..
  | ok kind =>
    dsimp only
    split <;> rename_i hgate
    · exact .of_gate hgate
    · split
      · exact .of_gate hgate
      · exact (LogsIn.of_gate hgate).trans (.of_eq rfl rfl)

theorem delete_logsIn : LogsIn p.sessions p (p.delete target).2 := by
  unfold delete
  dsimp only
  cases (p.log .delete target).kindOf target.kind with
  | error e => exact .log ..
  | ok kind =>
    dsimp only
    split <;> rename_i hgate
    · exact .of_gate hgate
    · exact (LogsIn.of_gate hgate).trans (.of_eq rfl rfl)

theorem update_logsIn (change : Json) : LogsIn p.sessions p (p.update target change).2 := by
  unfold update
  split
  · exact .refl ..
  · dsimp only
    cases (p.log .update target).kindOf target.kind with
    | error e => exact .log ..
    | ok kind =>
      dsimp only
      split <;> rename_i hgate
      · exact .of_gate hgate
      · exact (LogsIn.of_gate hgate).trans (.of_eq rfl rfl)

end Calls

end Provider

open Provider (LogsIn)

namespace ClientCall

theorem make_logsIn (p : Provider) (call : ClientCall) :
    LogsIn p.sessions p (call.make p).2 := by
  cases call with
  | list name => exact .refl ..
  | getTags target => exact p.getTags_logsIn target
  | putTags target tags => exact p.putTags_logsIn target tags
  | delete target => exact p.delete_logsIn target
  | update target change => exact p.update_logsIn target change

/-- No call opens or closes a session, so all of some calls are made in the same ones. -/
theorem makeAll_logsIn (p : Provider) (calls : List ClientCall) :
    LogsIn p.sessions p (makeAll p calls).2 := by
  induction calls generalizing p with
  | nil => exact .refl ..
  | cons call rest ih =>
    have hfirst := call.make_logsIn p
    exact hfirst.trans (hfirst.balanced ▸ ih (call.make p).2)

end ClientCall

/-- A run makes its calls in one session more than were open before it, and closes that one. -/
theorem ReplayRequest.run_logsIn (r : ReplayRequest) (settings : Settings) (now : Instant)
    (p : Provider) : LogsIn (p.sessions + 1) p (r.run settings now p).2 := by
  cases h : r.selection p now with
  | error e =>
    rw [run_of_failure h]
    exact .refl ..
  | ok found =>
    obtain ⟨kind, selected⟩ := found
    obtain ⟨hopen, hlogged⟩ := ClientCall.makeAll_logsIn { p with sessions := p.sessions + 1 }
      (Action.allCalls selected { p with sessions := p.sessions + 1 }
        (r.performed settings now p kind))
    rw [Action.makeAll_allCalls] at hopen hlogged
    rw [run_provider settings h]
    -- Closing takes back the one session that was opened, as no call has changed their number.
    exact ⟨congrArg (· - 1) hopen, hlogged⟩

namespace ReplayCall

theorem afterAll_logsIn (p : Provider) (runs : List ReplayCall) :
    LogsIn (p.sessions + 1) p (afterAll p runs) := by
  induction runs generalizing p with
  | nil => exact .refl ..
  | cons run rest ih =>
    have hfirst := run.request.run_logsIn run.settings run.now p
    exact hfirst.trans (hfirst.balanced ▸ ih (after p run))

/-- Wherever runs end, each of them leaves as many sessions open as it found, and so do all of them.
The calls that they have logged, reads and changes, were each made in one session more, so never
while none was open. -/
theorem afterAll_sessions (p : Provider) (runs : List ReplayCall) :
    (∀ before run rest, runs = before ++ run :: rest →
      (after (afterAll p before) run).sessions = (afterAll p before).sessions) ∧
    (afterAll p runs).sessions = p.sessions ∧
    ∃ issued, (afterAll p runs).calls = p.calls ++ issued ∧
      ∀ call ∈ issued, call.sessions = p.sessions + 1 := by
  obtain ⟨hbalanced, hlogged⟩ := afterAll_logsIn p runs
  refine ⟨fun before run rest _ => ?_, hbalanced, hlogged⟩
  exact (run.request.run_logsIn run.settings run.now _).balanced

end ReplayCall

end TagGovernance
