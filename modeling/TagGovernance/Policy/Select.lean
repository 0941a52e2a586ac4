import TagGovernance.Policy.CrossAccount
import TagGovernance.Policy.ListItem
import TagGovernance.Policy.Mark
import TagGovernance.Policy.TagFilter

/-!
# Selecting resources

A policy is a list of filters, all of which a resource has to pass. Its tags are read from the field
`Tags` of its record.
-/

namespace TagGovernance

inductive Filter
  | tag (filter : TagFilter)
  | marked (filter : MarkedFilter)
  | listItem (filter : ListItemFilter)
  | crossAccount (filter : CrossAccountFilter)

namespace Filter

def accepts (filter : Filter) (resource : ResourceRef) (record : Json) (tags : TagSet)
    (now : Instant) : Bool :=
  match filter with
  | tag f => f.accepts tags
  | marked f => f.accepts tags now
  | listItem f => f.accepts record
  | crossAccount f => f.accepts resource record

end Filter

/-- A resource with the record that describes it. -/
abbrev Described := ResourceRef × Json

abbrev Policy := List Filter

namespace Policy

/-- The tags in a record. -/
def recordTags (record : Json) : Except IngestError TagSet :=
  TagShape.pascal.decode ((record.field? "Tags").getD .null) .lastWins

def tagsOf (d : Described) : Except Failure TagSet :=
  during (.readingTagsOf d.1.kind d.1.id) ((recordTags d.2).mapError .ingest)

/-- Whether a resource with these tags passes all filters. -/
def passes (policy : Policy) (now : Instant) (d : Described) (tags : TagSet) : Bool :=
  policy.all fun f => f.accepts d.1 d.2 tags now

/-- The resources that pass all filters, in their order. -/
def select (policy : Policy) (now : Instant) : List Described → Except Failure (List ResourceRef)
  | [] => .ok []
  | d :: rest => do
    let tags ← tagsOf d
    let selected ← select policy now rest
    .ok (if passes policy now d tags then d.1 :: selected else selected)

end Policy

end TagGovernance
