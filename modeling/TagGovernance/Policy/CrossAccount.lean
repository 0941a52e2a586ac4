import TagGovernance.Json.Reader
import TagGovernance.Resource.Kind
import TagGovernance.Resource.Ref

/-!
# Access from other accounts

A policy document grants access to another account when a statement that allows something names a
principal from an account that is neither the resource's owner nor trusted. A wildcard may be
pinned to accounts by the statement's conditions.
-/

namespace TagGovernance

/-- Condition keys that pin a wildcard principal to accounts. -/
def accountConditions : List String :=
  ["aws:SourceAccount", "aws:SourceOwner", "aws:PrincipalAccount"]

/-- The account of a principal: twelve digits, or the fifth part of a resource name. -/
def accountOf? (principal : String) : Option String :=
  if principal.length = 12 ∧ principal.toList.all Text.isDigit then some principal
  else do
    let rest ← Text.afterStart? "arn:" principal
    let account ← (Text.pieces ':' rest)[3]?
    if account = "" then none else some account

/-- The texts of a text or of a list with texts in it. -/
def textsOf : Json → List String
  | .str s => [s]
  | .arr items => items.filterMap Json.asString?
  | _ => []

def lowerAscii (s : String) : List Char := s.toList.map Char.toLower

/-- The first field whose name is the key but for the case of ASCII letters. -/
def fieldAnyCase? (key : String) (fields : List (String × Json)) : Option Json :=
  (fields.find? fun f => lowerAscii f.1 = lowerAscii key).map Prod.snd

/-- The accounts that one clause of a condition names. -/
def clauseAccounts (clause : Json) : List String :=
  match clause with
  | .obj fields =>
    accountConditions.flatMap fun key => ((fieldAnyCase? key fields).map textsOf).getD []
  | _ => []

/-- The accounts that a statement is narrowed to by its conditions. -/
def conditionAccounts (statement : Json) : List String :=
  match statement.field? "Condition" with
  | some (.obj clauses) => clauses.flatMap fun c => clauseAccounts c.2
  | _ => []

/-- The principals of a statement. -/
def principalsOf (statement : Json) : List String :=
  match statement.field? "Principal" with
  | some (.str s) => [s]
  | some (.obj fields) => ((Keyed.find? "AWS" fields).map textsOf).getD []
  | _ => []

/-- The statements of a policy document. -/
def statementsOf (document : Json) : List Json :=
  match document.field? "Statement" with
  | some (.arr statements) => statements
  | some (.obj fields) => [.obj fields]
  | _ => []

/-- The policy document attached to a record, as an object or as text. A text that is not JSON is
no policy. -/
def policyOf? (record : Json) : Option Json :=
  match record.field? Annotation.policy.key with
  | some (.str text) => Json.read? text
  | some (.obj fields) => some (.obj fields)
  | _ => none

structure CrossAccountFilter where
  /-- Accounts that may have access. -/
  allowed : List String

namespace CrossAccountFilter

def trusts (filter : CrossAccountFilter) (owner : Option String) (account : String) : Bool :=
  owner = some account || filter.allowed.contains account

/-- Whether a statement lets this principal in from an account that is not trusted. A wildcard
without conditions on the account lets everyone in. -/
def letsIn (filter : CrossAccountFilter) (owner : Option String) (statement : Json)
    (principal : String) : Bool :=
  if principal = "*" then
    let accounts := conditionAccounts statement
    accounts.isEmpty || accounts.any fun a => !filter.trusts owner a
  else (accountOf? principal).any fun a => !filter.trusts owner a

def allows (statement : Json) : Bool :=
  (statement.field? "Effect").bind Json.asString? = some "Allow"

/-- Whether a statement grants access to another account. -/
def grants (filter : CrossAccountFilter) (owner : Option String) (statement : Json) : Bool :=
  allows statement && (principalsOf statement).any (filter.letsIn owner statement)

def accepts (filter : CrossAccountFilter) (resource : ResourceRef) (record : Json) : Bool :=
  match policyOf? record with
  | some document =>
    (statementsOf document).any (filter.grants (resource.arn.bind accountOf?))
  | none => false

end CrossAccountFilter

end TagGovernance
