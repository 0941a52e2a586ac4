import TagGovernance.Calendar.Instant

/-!
# Errors of filters and marks
-/

namespace TagGovernance

/-- Why a filter cannot be read. -/
inductive FilterError
  | notATagKey (key : String)
  | noTag (key : String)
  | notAPair (text : String)
  | unknownComparison (name : String)
  deriving DecidableEq, Repr

def FilterError.message : FilterError → String
  | notATagKey key => s!"filter key '{key}' must start with 'tag:'"
  | noTag key => s!"filter key '{key}' names no tag"
  | notAPair text => s!"filter '{text}' is not tag:key=value"
  | unknownComparison name => s!"unknown count op '{name}'"

/-- A mark whose due date the calendar does not have. -/
structure MarkError where
  days : Nat
  now : Instant
  deriving DecidableEq, Repr

def MarkError.message (e : MarkError) : String :=
  s!"mark-for-op {e.days} days from {e.now.render} is out of range"

end TagGovernance
