import TagGovernance.Failure
import TagGovernance.Pattern.Reader

/-!
# Filters on tags

A filter looks at one tag: whether it is there, and what its value is.
-/

namespace TagGovernance

/-- A regular expression that has been read. -/
structure Regex where
  text : String
  tree : Pattern.Node

def Regex.ofText? (text : String) : Option Regex := (Pattern.read? text).map (⟨text, ·⟩)

def Regex.isMatch (r : Regex) (s : String) : Bool := r.tree.isMatch s

inductive TagFilter
  | absent (tag : String)
  | present (tag : String)
  | equals (tag value : String)
  /-- The tag has a value in which the expression matches somewhere. -/
  | like (tag : String) (pattern : Regex)

namespace TagFilter

/-- Reads a pair such as `tag:owner` and `absent`. -/
def ofPair (key value : String) : Except Failure TagFilter := do
  let tag ← match Text.afterStart? "tag:" key with
    | some tag => .ok tag
    | none => .error (.filter (.notATagKey key))
  if tag = "" then .error (.filter (.noTag key))
  else if value = "absent" then .ok (.absent tag)
  else if value = "present" then .ok (.present tag)
  else match Text.afterStart? "regex:" value with
    | none => .ok (.equals tag value)
    | some text =>
      match Regex.ofText? text with
      | some r => .ok (.like tag r)
      | none => .error (.during (.readingPattern key) .pattern)

/-- Reads the form `tag:key=value`. -/
def ofText (text : String) : Except Failure TagFilter :=
  match Text.splitFirst? '=' text with
  | some (key, value) => ofPair key value
  | none => .error (.filter (.notAPair text))

def accepts (filter : TagFilter) (tags : TagSet) : Bool :=
  match filter with
  | absent tag => !tags.has tag
  | present tag => tags.has tag
  | equals tag value => tags.get? tag = some value
  | like tag r => (tags.get? tag).any r.isMatch

end TagFilter

end TagGovernance
