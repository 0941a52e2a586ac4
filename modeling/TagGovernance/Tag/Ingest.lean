import TagGovernance.Tag.Set

/-!
# Taking in tag pairs

A list of pairs as a cloud service or a user gives them becomes a tag set. A pair without a key, or
with an empty one, is refused and not dropped; what a repeated key means depends on the mode.
-/

namespace TagGovernance

/-- How a repeated key is treated. -/
inductive Ingest
  /-- A repeated key is refused. -/
  | strict
  /-- The last pair with a key counts. -/
  | lastWins
  deriving DecidableEq, Repr

namespace Ingest

def name : Ingest → String
  | strict => "strict"
  | lastWins => "last-wins"

def ofName? : String → Option Ingest
  | "strict" => some strict
  | "last-wins" => some lastWins
  | _ => none

end Ingest

/-- Why a pair was refused; positions count from zero. -/
inductive PairError
  | missingKey (position : Nat)
  | emptyKey (position : Nat)
  | duplicateKey (key : String)
  deriving DecidableEq, Repr

def PairError.message : PairError → String
  | missingKey position => s!"tag at position {position} has no key"
  | emptyKey position => s!"tag at position {position} has an empty key"
  | duplicateKey key => s!"duplicate tag key '{key}'"

/-- A pair whose key may be missing. -/
abbrev TagPair := Option String × String

namespace TagSet

/-- Adds pairs from a position on. -/
def takeIn (ingest : Ingest) (position : Nat) (tags : TagSet) : List TagPair → Except PairError TagSet
  | [] => .ok tags
  | (none, _) :: _ => .error (.missingKey position)
  | (some key, value) :: rest =>
    if key = "" then .error (.emptyKey position)
    else if ingest = .strict ∧ tags.has key then .error (.duplicateKey key)
    else takeIn ingest (position + 1) (tags.insert key value) rest

/-- The tag set of a list of pairs, or the first reason to refuse it. -/
def ofPairs (ingest : Ingest) (pairs : List TagPair) : Except PairError TagSet :=
  takeIn ingest 0 empty pairs

end TagSet

end TagGovernance
