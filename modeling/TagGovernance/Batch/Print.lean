import TagGovernance.Batch.Report
import TagGovernance.Json.Value

/-!
# Reports as JSON
-/

namespace TagGovernance

def ProviderError.toJson (e : ProviderError) : Json :=
  .ofFields [("code", .str e.code), ("message", .str e.text)]

/-- The fields of an outcome: its name, and the error of a failure. -/
def Outcome.fields (o : Outcome) : List (String × Json) :=
  ("outcome", .str o.name) :: match o.error? with
    | some e => [("error", e.toJson)]
    | none => []

def ReportItem.toJson (item : ReportItem) : Json :=
  .ofFields (("resource", .str item.resource) :: item.outcome.fields)

def BatchReport.toJson (report : BatchReport) : Json :=
  .ofFields [("action", .str report.action), ("items", .arr (report.items.map ReportItem.toJson))]

end TagGovernance
