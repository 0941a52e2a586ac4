import TagGovernance.Calendar.Due
import TagGovernance.Failure

/-!
# Marks for delayed actions

A resource is marked for an action with a tag whose value names the action and the date it becomes
due: `message: action@2024/01/31`. A filter finds the resources whose mark is due, or will be within
some days and hours.
-/

namespace TagGovernance

def defaultMarkTag : String := "maid_status"

def defaultMarkMessage : String := "Resource does not meet policy"

/-- A mark to be put on resources. -/
structure Mark where
  tag : String := defaultMarkTag
  action : String
  days : Nat
  message : String := defaultMarkMessage

namespace Mark

/-- When a mark made now becomes due. -/
def due? (mark : Mark) (now : Instant) : Option Instant := do
  now.add? (← Span.ofDays? mark.days)

def value (mark : Mark) (due : Date) : String :=
  mark.message ++ ": " ++ mark.action ++ "@" ++ String.ofList (due.render '/')

/-- The tags to add to a resource. -/
def tagsAt (mark : Mark) (now : Instant) : Except Failure TagSet :=
  match mark.due? now with
  | some due => .ok (TagSet.empty.insert mark.tag (mark.value due.date))
  | none => .error (.mark ⟨mark.days, now⟩)

end Mark

/-- The resources whose mark names an action and is due, some days and hours early. -/
structure MarkedFilter where
  tag : String := defaultMarkTag
  action : String
  skewDays : Int := 0
  skewHours : Int := 0

namespace MarkedFilter

/-- The action that a mark names and its due date: what stands behind the last colon, cut at the
first at-sign behind that. -/
def parts? (value : String) : Option (String × String) := do
  let (_, behind) ← Text.splitLast? ':' value
  let (action, date) ← Text.splitFirst? '@' (Text.trim behind)
  some (action, Text.trim date)

/-- The due date of a mark that names the filter's action. -/
def due? (filter : MarkedFilter) (tags : TagSet) : Option Instant := do
  let (action, date) ← parts? (← tags.get? filter.tag)
  if action = filter.action then Due.read? date.toList else none

/-- When the filter begins to match a mark with a due date. -/
def from? (filter : MarkedFilter) (due : Instant) : Option Instant := do
  let days ← Span.ofDays? filter.skewDays
  let hours ← Span.ofHours? filter.skewHours
  due.sub? (← days.add? hours)

/-- Whether a mark with this due date is found now. A time that cannot be represented is without
bound in the direction of its sign. -/
def isDue (filter : MarkedFilter) (due now : Instant) : Bool :=
  match filter.from? due with
  | some start => start ≤ now
  | none => 0 < filter.skewDays || 0 < filter.skewHours

def accepts (filter : MarkedFilter) (tags : TagSet) (now : Instant) : Bool :=
  match filter.due? tags with
  | some due => filter.isDue due now
  | none => false

end MarkedFilter

end TagGovernance
