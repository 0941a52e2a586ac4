import TagGovernance.Provider.Error

/-!
# Reports of a batch

A batch runs one action on each of its targets and never stops early. Its report has one item for
every target, in their order. A target that is gone is no failure; any other error is, and the
first one speaks for the whole batch.
-/

namespace TagGovernance

/-- What became of one target. -/
inductive Outcome
  | applied
  /-- The tags were already as requested, so nothing was written. -/
  | unchanged
  /-- The provider no longer knows the resource. -/
  | notFound
  | failed (error : ProviderError)
  deriving DecidableEq, Repr

namespace Outcome

def name : Outcome → String
  | applied => "applied"
  | unchanged => "unchanged"
  | notFound => "not-found"
  | failed _ => "failed"

def error? : Outcome → Option ProviderError
  | failed e => some e
  | _ => none

/-- The outcome of a call: a resource that is gone is passed over. -/
def ofResult : Except ProviderError Outcome → Outcome
  | .ok outcome => outcome
  | .error e => if e.isNotFound then notFound else failed e

end Outcome

structure ReportItem where
  resource : String
  outcome : Outcome
  deriving DecidableEq, Repr

structure BatchReport where
  action : String
  items : List ReportItem
  deriving DecidableEq, Repr

/-- A batch with at least one failure. -/
structure BatchError where
  action : String
  failed : Nat
  total : Nat
  resource : String
  cause : ProviderError
  deriving DecidableEq, Repr

def BatchError.message (e : BatchError) : String :=
  s!"{e.action}: {e.failed} of {e.total} resources failed; first failure on '{e.resource}': " ++
    e.cause.message

namespace BatchReport

def applied (report : BatchReport) : Nat := report.items.countP (·.outcome = .applied)

def unchanged (report : BatchReport) : Nat := report.items.countP (·.outcome = .unchanged)

def notFound (report : BatchReport) : Nat := report.items.countP (·.outcome = .notFound)

def failed (report : BatchReport) : Nat := report.items.countP (·.outcome.error?.isSome)

/-- The outcome of the first item with this id. -/
def outcomeOf? (id : String) (report : BatchReport) : Option Outcome :=
  (report.items.find? (·.resource = id)).map (·.outcome)

/-- The first failure and its resource. -/
def firstFailure? (report : BatchReport) : Option (String × ProviderError) :=
  report.items.findSome? fun item => item.outcome.error?.map fun e => (item.resource, e)

/-- The report itself, or an error that speaks for its failures. -/
def toResult (report : BatchReport) : Except BatchError BatchReport :=
  match report.firstFailure? with
  | none => .ok report
  | some (resource, cause) =>
    .error ⟨report.action, report.failed, report.items.length, resource, cause⟩

end BatchReport

end TagGovernance
