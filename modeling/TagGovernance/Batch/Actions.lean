import TagGovernance.Batch.Report
import TagGovernance.Provider.Calls
import TagGovernance.Tag.Reconcile

/-!
# Batch actions

An action on a list of resources of a provider, one after the other. Tags are read fresh for every
resource, reconciled, and written back only when they change.
-/

namespace TagGovernance.Batch

open Provider (Reply)

/-- What is done for one resource. -/
abbrev Work := Provider → ResourceRef → Reply Outcome

/-- Runs the work for each target and reports every outcome. -/
def runItems (work : Work) (p : Provider) : List ResourceRef → List ReportItem × Provider
  | [] => ([], p)
  | target :: rest =>
    let (result, p) := work p target
    let (items, p) := runItems work p rest
    (⟨target.id, .ofResult result⟩ :: items, p)

def runEach (action : String) (work : Work) (p : Provider) (targets : List ResourceRef) :
    BatchReport × Provider :=
  let (items, p) := runItems work p targets
  (⟨action, items⟩, p)

/-- Brings the tags of one resource to what is requested. -/
def tagOne (add : TagSet) (remove : TagKeys) : Work := fun p target =>
  match p.getTags target with
  | (.error e, p) => (.error e, p)
  | (.ok existing, p) =>
    match plan existing add remove with
    | .noop => (.ok .unchanged, p)
    | .write tags =>
      match p.putTags target tags with
      | (.error e, p) => (.error e, p)
      | (.ok (), p) => (.ok .applied, p)

def deleteOne : Work := fun p target =>
  match p.delete target with
  | (.error e, p) => (.error e, p)
  | (.ok (), p) => (.ok .applied, p)

def updateOne (change : Json) : Work := fun p target =>
  match p.update target change with
  | (.error e, p) => (.error e, p)
  | (.ok (), p) => (.ok .applied, p)

/-- A request that adds nothing only removes tags. -/
def tagAction (add : TagSet) : String := if add.isEmpty then "remove-tag" else "tag"

def tagEach (add : TagSet) (remove : TagKeys) : Provider → List ResourceRef → BatchReport × Provider :=
  runEach (tagAction add) (tagOne add remove)

def deleteEach : Provider → List ResourceRef → BatchReport × Provider := runEach "delete" deleteOne

def updateEach (action : String) (change : Json) :
    Provider → List ResourceRef → BatchReport × Provider :=
  runEach action (updateOne change)

end TagGovernance.Batch
