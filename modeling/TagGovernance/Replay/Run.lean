import TagGovernance.Batch.Print
import TagGovernance.Replay.Request

/-!
# Running a replay

A run leaves a provider behind whether it succeeds or not: actions that were run before an error
stay. The session that it opens is closed in any case.
-/

namespace TagGovernance

/-- What a run found, did and left. -/
structure ReplayResult where
  selected : List ResourceRef
  reports : List BatchReport
  /-- The records of the kind's resources after the run. -/
  remaining : List Json

def ReplayResult.summary (r : ReplayResult) : Json :=
  .ofFields [
    ("selected", .arr (r.selected.map fun target => .str target.id)),
    ("reports", .arr (r.reports.map BatchReport.toJson)),
    ("resources", .arr r.remaining)]

namespace ReplayRequest

/-- The kind of a request and the resources that it selects. -/
def selection (r : ReplayRequest) (p : Provider) (now : Instant) :
    Except Failure (ResourceKind × List ResourceRef) := do
  let kind ← (p.catalog.get r.kind).mapError .catalog
  let policy ← r.policy
  let resources ← p.resources kind.typeName
  .ok (kind, ← policy.select now resources)

/-- Meets wishes one after the other, up to the first one that cannot be met. -/
def perform (r : ReplayRequest) (kind : String) (ingest : Ingest) (now : Instant)
    (targets : List ResourceRef) (p : Provider) :
    List Wish → Except Failure (List BatchReport) × Provider
  | [] => (.ok [], p)
  | wish :: rest =>
    match r.prepare p.catalog kind ingest now wish with
    | .error e => (.error e, p)
    | .ok action =>
      let (report, p) := action.run p targets
      let (reports, p) := perform r kind ingest now targets p rest
      (reports.map (report :: ·), p)

/-- Runs a request: selects resources, acts on them in one session, and looks at what is left. -/
def run (r : ReplayRequest) (settings : Settings) (now : Instant) (p : Provider) :
    Except Failure ReplayResult × Provider :=
  match r.selection p now with
  | .error e => (.error e, p)
  | .ok (kind, selected) =>
    match p.openSession kind.service with
    | (.error e, p) => (.error (.provider e), p)
    | (.ok (), p) =>
      let (reports, p) := r.perform kind.typeName settings.ingest now selected p r.wishes
      let p := p.closeSession
      (do
        let reports ← reports
        let remaining ← p.resources kind.typeName
        .ok ⟨selected, reports, remaining.map Prod.snd⟩, p)

end ReplayRequest

end TagGovernance
