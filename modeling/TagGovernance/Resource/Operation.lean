/-!
# Actions on resources
-/

namespace TagGovernance

/-- What can be done to the resources of a kind. -/
inductive Operation
  | tag
  | removeTag
  | markForOp
  | delete
  | updateDeleteProtection
  deriving DecidableEq, Repr

namespace Operation

def all : List Operation := [tag, removeTag, markForOp, delete, updateDeleteProtection]

def name : Operation → String
  | tag => "tag"
  | removeTag => "remove-tag"
  | markForOp => "mark-for-op"
  | delete => "delete"
  | updateDeleteProtection => "update-delete-protection"

def ofName? (name : String) : Option Operation := all.find? (·.name = name)

def writesTags : Operation → Bool
  | tag | removeTag | markForOp => true
  | _ => false

theorem mem_all (op : Operation) : op ∈ all := by cases op <;> decide

end Operation

end TagGovernance
