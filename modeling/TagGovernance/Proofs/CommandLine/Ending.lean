import TagGovernance.CommandLine.Run
import TagGovernance.Proofs.Batch.Tally
import TagGovernance.Proofs.Replay.Gating
import TagGovernance.Proofs.Replay.Outcome
import TagGovernance.Proofs.Resource.Catalog

/-!
# How a replay ends

A replay that prints a summary has a report for each action that was requested, and each report is
that of a batch of jobs for the selected resources. The replay fails just if an item of a report
does, with the error of the first report that has such an item.
-/

namespace TagGovernance

namespace BatchReport

/-- The report of a tag request, a deletion or an update for these targets. -/
def IsFor (report : BatchReport) (targets : List ResourceRef) : Prop :=
  ∃ (task : Batch.Task) (jobs : List Batch.Job), task.IsRequest ∧
    (∀ job ∈ jobs, task.Gives job.result) ∧ jobs.map (·.target) = targets ∧
    report = ⟨report.action, jobs.map Batch.Job.item⟩

theorem IsFor.tallies {report : BatchReport} {targets : List ResourceRef}
    (h : report.IsFor targets) : report.Tallies targets := by
  obtain ⟨task, jobs, htask, hgives, rfl, hreport⟩ := h
  rw [hreport]
  exact tallies_of_jobs report.action fun job hjob => htask.settles (hgives job hjob)

theorem isFor_runEach {task : Batch.Task} (htask : task.IsRequest) (action : String) (p : Provider)
    (targets : List ResourceRef) : (Batch.runEach action task.run p targets).1.IsFor targets := by
  obtain ⟨jobs, htargets, hgives, hitems⟩ := Batch.runItems_jobs task p targets
  exact ⟨task, jobs, htask, hgives, htargets, congrArg _ hitems⟩

end BatchReport

namespace Action

theorem task_isRequest (action : Action) : action.task.IsRequest := by
  cases action with
  | tags add remove => exact .tag add remove
  | mark stamp => exact .tag stamp []
  | protection state => exact .update _
  | delete => exact .delete

theorem run_isFor (action : Action) (p : Provider) (targets : List ResourceRef) :
    (action.run p targets).1.IsFor targets := by
  have hrun : (action.run p targets).1 =
      (Batch.runEach action.name action.task.run p targets).1 := by
    rw [run_task]
    cases action <;> rfl
  rw [hrun]
  exact BatchReport.isFor_runEach action.task_isRequest action.name p targets

theorem runAll_isFor (targets : List ResourceRef) (p : Provider) (actions : List Action) :
    ∀ report ∈ (runAll targets p actions).1, report.IsFor targets := by
  induction actions generalizing p with
  | nil => exact nofun
  | cons action rest ih =>
    exact List.forall_mem_cons.2 ⟨action.run_isFor p targets, ih (action.run p targets).2⟩

end Action

/-- A run that succeeds reports each requested action for all resources that it selects. -/
theorem ReplayRequest.run_reports {r : ReplayRequest} {settings : Settings} {now : Instant}
    {p : Provider} {result : ReplayResult} (h : (r.run settings now p).1 = .ok result) :
    result.reports.map (·.action) = r.actionNames ∧
      ∀ report ∈ result.reports, report.IsFor result.selected := by
  obtain ⟨kind, actions, -, hactions, hreports, -⟩ := run_actions h
  rw [hreports]
  refine ⟨?_, fun report hreport => Action.runAll_isFor _ _ _ report hreport⟩
  rw [(Action.runAll_reports ..).1, prepared_names hactions]

namespace CommandLine

section Failures

variable {reports : List BatchReport}

def FirstOf (e : BatchError) (reports : List BatchReport) : Prop :=
  ∃ before report after, reports = before ++ report :: after ∧
    (∀ earlier ∈ before, ¬earlier.Fails) ∧ e.SpeaksFor report

theorem firstFailure?_eq_none_iff :
    firstFailure? reports = none ↔ ∀ report ∈ reports, ¬report.Fails := by
  rw [firstFailure?, List.findSome?_eq_none_iff]
  refine forall₂_congr fun report _ => ?_
  cases hresult : report.toResult with
  | ok report' => simp [(BatchReport.toResult_eq_ok_iff.1 hresult).2]
  | error e => simp [(BatchReport.toResult_eq_error_iff.1 hresult).fails]

theorem firstFailure?_eq_some_iff {f : Failure} :
    firstFailure? reports = some f ↔ ∃ e, FirstOf e reports ∧ f = .batch e := by
  rw [firstFailure?, List.findSome?_eq_some_iff]
  constructor
  · rintro ⟨before, report, after, hreports, hreport, hbefore⟩
    cases hresult : report.toResult with
    | ok report' => simp [hresult] at hreport
    | error e =>
      rw [hresult] at hreport
      have hearlier := firstFailure?_eq_none_iff.1 (List.findSome?_eq_none_iff.2 hbefore)
      have hspeaks := BatchReport.toResult_eq_error_iff.1 hresult
      exact ⟨e, ⟨before, report, after, hreports, hearlier, hspeaks⟩,
        (Option.some.inj hreport).symm⟩
  · rintro ⟨e, ⟨before, report, after, hreports, hearlier, hspeaks⟩, rfl⟩
    refine ⟨before, report, after, hreports, ?_, ?_⟩
    · rw [BatchReport.toResult_eq_error_iff.2 hspeaks]
    · exact List.findSome?_eq_none_iff.1 (firstFailure?_eq_none_iff.2 hearlier)

end Failures

variable {i : Invocation} {around : Surroundings} {path : String} {r : ReplayRequest}

theorem flightOf_text {text : String} {flight : Flight}
    (hfile : around.file? path = some text.toUTF8) (h : Flight.ofText? text = some flight) :
    flightOf around path = .ok flight := by
  have hread : String.fromUTF8? text.toUTF8 = some text := dif_pos text.isValidUTF8
  simp only [flightOf, Surroundings.read, hfile, Fallible.ok_bind, hread, Option.bind_some, h]

theorem run_of_runReplay {settings : Settings} {catalog : Catalog} {result : ReplayResult}
    (hcommand : i.command = .replay path r) (hs : settingsOf around i.overrides = .ok settings)
    (hc : Aws.catalog = .ok catalog) (h : runReplay around catalog settings path r = .ok result) :
    i.run around = ofReplay result := by
  simp only [Invocation.run, hs, hc, Fallible.mapError_ok, hcommand, h]

theorem runReplay_of_printed {v : Json} (hcommand : i.command = .replay path r)
    (h : (i.run around).printed = some v) :
    ∃ settings catalog result, settingsOf around i.overrides = .ok settings ∧
      Aws.catalog = .ok catalog ∧ runReplay around catalog settings path r = .ok result := by
  obtain ⟨catalog, hc⟩ : ∃ catalog, Aws.catalog = .ok catalog := ⟨_, Aws.catalog_eq⟩
  cases hs : settingsOf around i.overrides with
  | error e => simp [Invocation.run, hs, Outcome.failed] at h
  | ok settings =>
    cases hresult : runReplay around catalog settings path r with
    | error e => simp [Invocation.run, hs, hc, hcommand, hresult, Outcome.failed] at h
    | ok result => exact ⟨settings, catalog, result, rfl, hc, hresult⟩

/-- No failure gets lost. A batch of tag requests, deletions or updates ends for every limit and
whatever the calls for each target come to, and its report has one item for each target, in their
order, none of which fails because the resource is gone. A report without a failing item is its own
result; any other one comes to the error of its first failure, with how many there are. A replay that
prints its summary has a report for each requested action, and fails just if an item of a report
does, with the error of the first such report. -/
theorem failures_surface :
    (∀ task : Batch.Task, task.IsRequest → ∀ action : String,
      (∀ (p : Provider) (targets : List ResourceRef),
        (Batch.runEach action task.run p targets).1.IsFor targets ∧
        (Batch.runEach action task.run p targets).1.Tallies targets) ∧
      ∀ (limit : ℕ) (jobs : List Batch.Job), (∀ job ∈ jobs, task.Gives job.result) →
        (∃ w, Batch.Window.Completes limit jobs w) ∧
        ∀ w, Batch.Window.Completes limit jobs w →
          w.reported = jobs.map Batch.Job.item ∧
          BatchReport.Tallies ⟨action, w.reported⟩ (jobs.map (·.target))) ∧
    (∀ report : BatchReport,
      (∀ report', report.toResult = .ok report' ↔ report' = report ∧ ¬report.Fails) ∧
      ∀ e, report.toResult = .error e ↔ e.SpeaksFor report) ∧
    ∀ (i : Invocation) (around : Surroundings) (path : String) (r : ReplayRequest) (v : Json),
      i.command = .replay path r → (i.run around).printed = some v →
      ∃ settings catalog result, settingsOf around i.overrides = .ok settings ∧
        Aws.catalog = .ok catalog ∧ runReplay around catalog settings path r = .ok result ∧
        v = result.summary ∧ result.reports.map (·.action) = r.actionNames ∧
        (∀ report ∈ result.reports,
          report.IsFor result.selected ∧ report.Tallies result.selected) ∧
        ((i.run around).failure = none ↔ ∀ report ∈ result.reports, ¬report.Fails) ∧
        ∀ f, (i.run around).failure = some f ↔ ∃ e, FirstOf e result.reports ∧ f = .batch e := by
  refine ⟨fun task htask action => ⟨fun p targets => ?_, fun limit jobs hgives => ?_⟩,
    fun report => ?_, fun i around path r v hcommand hprinted => ?_⟩
  · have hreport := BatchReport.isFor_runEach htask action p targets
    exact ⟨hreport, hreport.tallies⟩
  · refine ⟨Batch.Window.exists_completes limit jobs, fun w hw => ?_⟩
    rw [hw.reported_eq]
    exact ⟨rfl, BatchReport.tallies_of_jobs action fun job hjob => htask.settles (hgives job hjob)⟩
  · exact ⟨fun _ => BatchReport.toResult_eq_ok_iff, fun _ => BatchReport.toResult_eq_error_iff⟩
  · obtain ⟨settings, catalog, result, hs, hc, hresult⟩ := runReplay_of_printed hcommand hprinted
    have hrun := run_of_runReplay hcommand hs hc hresult
    obtain ⟨flight, -, hreplay⟩ := Fallible.bind_eq_ok.1 hresult
    obtain ⟨p, -, hreplay⟩ := Fallible.bind_eq_ok.1 hreplay
    obtain ⟨hnames, hreports⟩ := ReplayRequest.run_reports hreplay
    rw [hrun] at hprinted ⊢
    exact ⟨settings, catalog, result, hs, hc, hresult, (Option.some.inj hprinted).symm, hnames,
      fun report hreport => ⟨hreports report hreport, (hreports report hreport).tallies⟩,
      firstFailure?_eq_none_iff, fun _ => firstFailure?_eq_some_iff⟩

def cluster : Flight where
  resources := [("memorydb", [{ listed := .obj [("Name", .str "a")] }])]
  errors := [("a", ⟨"Throttling", ""⟩)]

def clusterText : String :=
  "\x7b\"resources\":\x7b\"memorydb\":[\x7b\"listed\":\x7b\"Name\":\"a\"\x7d\x7d]\x7d," ++
    "\"errors\":\x7b\"a\":\x7b\"code\":\"Throttling\",\"message\":\"\"\x7d\x7d\x7d"

def beside : Surroundings := ⟨fun _ => some clusterText.toUTF8, .empty, ⟨0⟩⟩

def clearOut : ReplayRequest where
  kind := "memorydb"
  mark := some ("delete", 1)
  delete := true

def deletions : List Batch.Job :=
  [⟨⟨"memorydb", "b", none⟩, .error (.throttled "slow down")⟩,
    ⟨⟨"memorydb", "a", none⟩, .error (.notFound "a")⟩, ⟨⟨"memorydb", "b", none⟩, .ok .applied⟩]

def marking : BatchReport := ⟨"mark-for-op", [⟨"a", .failed (.throttled "")⟩]⟩

def throttling : BatchError := ⟨"mark-for-op", 1, 1, "a", .throttled ""⟩

theorem failures_surface_cluster : ∃ w v,
    Batch.Window.Completes 2 deletions w ∧
    w.reported = [⟨"b", .failed (.throttled "slow down")⟩, ⟨"a", .notFound⟩, ⟨"b", .applied⟩] ∧
    BatchReport.Tallies ⟨"delete", w.reported⟩ (deletions.map (·.target)) ∧
    (Invocation.run ⟨{}, .replay "cluster.json" clearOut⟩ beside).printed = some v ∧
    (Invocation.run ⟨{}, .replay "cluster.json" clearOut⟩ beside).failure =
      some (.batch throttling) := by
  obtain ⟨hbatches, hresults, hreplays⟩ := failures_surface
  have hgives : ∀ job ∈ deletions, (Batch.Task.delete .last).Gives job.result := by
    simp only [deletions, List.forall_mem_cons]
    exact ⟨.delete (Batch.Task.gives_last (.error _)), .delete (Batch.Task.gives_last (.error _)),
      .delete (Batch.Task.gives_last (.ok ())), List.forall_mem_nil _⟩
  obtain ⟨⟨w, hw⟩, hall⟩ := (hbatches (.delete .last) .delete "delete").2 2 deletions hgives
  obtain ⟨hreported, htallies⟩ := hall w hw
  obtain ⟨catalog, result, hc, hresult, hreports⟩ : ∃ catalog result,
      Aws.catalog = .ok catalog ∧
        runReplay beside catalog {} "cluster.json" clearOut = .ok result ∧
        result.reports = [marking, { marking with action := "delete" }] := by
    have hfile : beside.file? "cluster.json" = some clusterText.toUTF8 := rfl
    have htext : Flight.ofText? clusterText = some cluster := by cbv
    simp only [runReplay, flightOf_text hfile htext, Fallible.ok_bind]
    exact ⟨_, _, Aws.catalog_eq, rfl, rfl⟩
  have hprinted : (Invocation.run ⟨{}, .replay "cluster.json" clearOut⟩ beside).printed =
      some result.summary := by
    rw [run_of_runReplay rfl rfl hc hresult]
    rfl
  obtain ⟨settings, again, found, hs, hagain, hfound, -, -, -, -, hfailure⟩ :=
    hreplays _ beside _ clearOut _ rfl hprinted
  obtain rfl := Except.ok.inj hs
  obtain rfl := Except.ok.inj (hc.symm.trans hagain)
  obtain rfl := Except.ok.inj (hresult.symm.trans hfound)
  have hspeaks := ((hresults marking).2 throttling).1 rfl
  exact ⟨w, result.summary, hw, hreported, htallies, hprinted,
    (hfailure _).2 ⟨throttling, ⟨[], _, _, hreports, List.forall_mem_nil _, hspeaks⟩, rfl⟩⟩

end CommandLine

end TagGovernance
