import TagGovernance.Tag.Ingest
import TagGovernance.Tag.Reconcile

/-!
# Edits of a tag set

The operations that build a tag set anew or change one, as data, so that any number of them can be
made one after the other. Building replaces what was there; pairs that are refused leave it alone.
-/

namespace TagGovernance

inductive TagEdit
  /-- Takes in pairs, in one of the modes. -/
  | ofPairs (ingest : Ingest) (pairs : List TagPair)
  /-- Collects pairs, with any keys; of equal keys the last one counts. -/
  | ofList (pairs : List (String × String))
  /-- Adopts a map that is in key order already. -/
  | ofMap (entries : List (String × String)) (ascending : Keyed.Ascending entries)
  | insert (key value : String)
  | erase (key : String)
  | reconcile (add : TagSet) (remove : TagKeys)

/-- What an edit answers. -/
inductive EditAnswer
  | done
  /-- The pairs of a list were not taken in. -/
  | refused (error : PairError)
  /-- The value that a key had before. -/
  | previous (value : Option String)
  deriving DecidableEq, Repr

namespace TagEdit

/-- Makes an edit: its answer, and the tags after it. -/
def apply (tags : TagSet) : TagEdit → EditAnswer × TagSet
  | ofPairs ingest pairs =>
    match TagSet.ofPairs ingest pairs with
    | .ok taken => (.done, taken)
    | .error e => (.refused e, tags)
  | ofList pairs => (.done, .ofList pairs)
  | ofMap entries ascending => (.done, ⟨entries, ascending⟩)
  | insert key value => (.previous (tags.get? key), tags.insert key value)
  | erase key => (.previous (tags.get? key), tags.erase key)
  | reconcile add remove => (.done, TagGovernance.reconcile tags add remove)

/-- Makes edits one after the other. -/
def applyAll (tags : TagSet) : List TagEdit → List EditAnswer × TagSet
  | [] => ([], tags)
  | edit :: rest =>
    let (answer, tags) := edit.apply tags
    let (answers, tags) := applyAll tags rest
    (answer :: answers, tags)

end TagEdit

end TagGovernance
