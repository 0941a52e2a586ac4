/-!
# References to resources
-/

namespace TagGovernance

/-- One resource of one kind. The kind may be given with the name of its cloud before it. -/
structure ResourceRef where
  kind : String
  id : String
  arn : Option String
  deriving DecidableEq, Repr

end TagGovernance
