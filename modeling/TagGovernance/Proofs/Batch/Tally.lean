import TagGovernance.Proofs.Batch.Window

/-!
# What a report counts

Every item of a report is counted once: as applied, unchanged, not found or failed. A report without
a failure is its own result. If there are failures, the first one is the error of the report, with
how many there are among how many items. The report of a batch has no failure that says that a
resource is gone.
-/

namespace TagGovernance

def ReportItem.Fails (item : ReportItem) : Prop := ∃ e, item.outcome = .failed e

theorem Outcome.error?_eq_some_iff {outcome : Outcome} {e : ProviderError} :
    outcome.error? = some e ↔ outcome = .failed e := by
  cases outcome <;> simp [error?]

theorem ReportItem.fails_iff {item : ReportItem} : item.Fails ↔ item.outcome.error? ≠ none := by
  simp only [Fails, ← Outcome.error?_eq_some_iff, Option.ne_none_iff_exists']

theorem Outcome.isNotFound_of_settled {result : Except ProviderError Outcome} {e : ProviderError}
    (hresult : Batch.Task.Settles result) (h : ofResult result = .failed e) :
    e.isNotFound = false := by
  obtain rfl | rfl | ⟨error, rfl⟩ := hresult
  · cases h
  · cases h
  · rw [ofResult] at h
    split at h
    · cases h
    · rename_i hfound
      obtain rfl := Outcome.failed.inj h
      exact Bool.eq_false_iff.2 hfound

namespace BatchReport

def Fails (report : BatchReport) : Prop := ∃ item ∈ report.items, item.Fails

/-- A report in which every target has its item, in their order. Only failures that are none because
the resource is gone are left to it, and its four counts make up the number of its items. -/
structure Tallies (report : BatchReport) (targets : List ResourceRef) : Prop where
  resources : report.items.map (·.resource) = targets.map (·.id)
  present : ∀ item ∈ report.items, ∀ e, item.outcome = .failed e → e.isNotFound = false
  total : report.applied + report.unchanged + report.notFound + report.failed =
    report.items.length

variable {report report' : BatchReport}

theorem counts_total (report : BatchReport) :
    report.applied + report.unchanged + report.notFound + report.failed =
      report.items.length := by
  obtain ⟨action, items⟩ := report
  simp only [applied, unchanged, notFound, failed]
  induction items with
  | nil => rfl
  | cons item rest ih =>
    have hone : (if decide (item.outcome = .applied) then 1 else 0) +
        (if decide (item.outcome = .unchanged) then 1 else 0) +
        (if decide (item.outcome = .notFound) then 1 else 0) +
        (if item.outcome.error?.isSome then 1 else 0) = 1 := by
      cases item.outcome <;> rfl
    simp only [List.countP_cons, List.length_cons]
    omega

theorem tallies_of_jobs (action : String) {jobs : List Batch.Job}
    (h : ∀ job ∈ jobs, Batch.Task.Settles job.result) :
    Tallies ⟨action, jobs.map Batch.Job.item⟩ (jobs.map (·.target)) where
  resources := by simp [Batch.Job.item]
  present := by
    intro item hitem e hfailed
    obtain ⟨job, hjob, rfl⟩ := List.mem_map.1 hitem
    exact Outcome.isNotFound_of_settled (h job hjob) hfailed
  total := counts_total _

theorem firstFailure?_eq_none_iff : report.firstFailure? = none ↔ ¬report.Fails := by
  simp [firstFailure?, Fails, ReportItem.fails_iff]

theorem firstFailure?_eq_some_iff {resource : String} {cause : ProviderError} :
    report.firstFailure? = some (resource, cause) ↔ ∃ before after,
      report.items = before ++ ⟨resource, .failed cause⟩ :: after ∧
        ∀ item ∈ before, ¬item.Fails := by
  rw [firstFailure?, List.findSome?_eq_some_iff]
  constructor
  · rintro ⟨before, item, after, hitems, hitem, hbefore⟩
    obtain ⟨e, he, hpair⟩ := Option.map_eq_some_iff.1 hitem
    obtain ⟨rfl, rfl⟩ := Prod.mk.inj hpair
    rw [Outcome.error?_eq_some_iff] at he
    refine ⟨before, after, ?_, fun earlier hearlier => ?_⟩
    · rw [hitems, ← he]
    · rw [ReportItem.fails_iff, not_not]
      exact Option.map_eq_none_iff.1 (hbefore earlier hearlier)
  · rintro ⟨before, after, hitems, hbefore⟩
    refine ⟨before, _, after, hitems, rfl, fun earlier hearlier => ?_⟩
    rw [Option.map_eq_none_iff]
    exact not_not.1 (mt ReportItem.fails_iff.2 (hbefore earlier hearlier))

end BatchReport

/-- An error that is the first failure of a report, with its true counts. -/
structure BatchError.SpeaksFor (e : BatchError) (report : BatchReport) : Prop where
  action : e.action = report.action
  failed : e.failed = report.failed
  total : e.total = report.items.length
  first : ∃ before after, report.items = before ++ ⟨e.resource, .failed e.cause⟩ :: after ∧
    ∀ item ∈ before, ¬item.Fails

theorem BatchError.SpeaksFor.fails {e : BatchError} {report : BatchReport} (h : e.SpeaksFor report) :
    report.Fails := by
  obtain ⟨before, after, hitems, -⟩ := h.first
  refine ⟨⟨e.resource, .failed e.cause⟩, ?_, e.cause, rfl⟩
  rw [hitems]
  exact List.mem_append_cons_self

namespace BatchReport

variable {report report' : BatchReport}

theorem toResult_eq_ok_iff : report.toResult = .ok report' ↔ report' = report ∧ ¬report.Fails := by
  rw [← firstFailure?_eq_none_iff, toResult]
  cases report.firstFailure? with
  | none => simp [eq_comm]
  | some failure => simp

/-- A report with a failure comes to the error that speaks for it. -/
theorem toResult_eq_error_iff {e : BatchError} :
    report.toResult = .error e ↔ e.SpeaksFor report := by
  constructor
  · intro h
    rw [toResult] at h
    split at h
    · cases h
    · rename_i resource cause hfirst
      obtain rfl := Except.error.inj h
      exact ⟨rfl, rfl, rfl, firstFailure?_eq_some_iff.1 hfirst⟩
  · obtain ⟨action, failed, total, resource, cause⟩ := e
    rintro ⟨rfl, rfl, rfl, hfirst⟩
    rw [toResult, firstFailure?_eq_some_iff.2 hfirst]

end BatchReport

end TagGovernance
