import TagGovernance.Json.Written

/-!
# Recorded responses

What was recorded of one resource: the item as it was listed, the response of the detail call, the
tags in the shape of the resource's kind, and the responses of side calls. A recording is written
as an object, or as a list of its parts in this order with the last ones left out; null details and
tags are none.
-/

namespace TagGovernance

structure Recording where
  listed : Json := .null
  detail : Option Json := none
  tags : Option Json := none
  /-- Responses by the name of their call. -/
  responses : List (String × Json) := []

namespace Written

/-- The one field with this name; a name may not be written twice. `none` if it is, and
`some none` if it is missing. -/
def single? (name : String) (fields : List (Option String × Written)) : Option (Option Written) :=
  match fields.filter (fun f => f.1 = some name) with
  | [] => some none
  | [f] => some (some f.2)
  | _ => none

/-- The parts of a record with named fields, which is an object or a list of the first few parts in
their order. Every name of an object must be readable; names of no part are passed over. -/
def parts? (names : List String) : Written → Option (List (Option Written))
  | obj fields =>
    if fields.all (fun f => f.1.isSome) then names.mapM fun name => single? name fields else none
  | arr items =>
    if items.length ≤ names.length then
      some (items.map some ++ List.replicate (names.length - items.length) none)
    else none
  | scalar _ => none

/-- A value that may be missing or null. -/
def optionalJson? (depth : Nat) : Option Written → Option (Option Json)
  | none => some none
  | some w => do
    let v ← w.toJson? depth
    some (if v.isNull then none else some v)

/-- The entries of an object whose values are read one by one; of equal names the last one
counts. -/
def entries? {α : Type} (read : Written → Option α) : Written → Option (List (String × α))
  | obj fields => do
    let entries ← fields.mapM fun (name, w) => do
      let key ← name
      let v ← read w
      some (key, v)
    some (Keyed.ofList entries)
  | _ => none

def items? {α : Type} (read : Written → Option α) : Written → Option (List α)
  | arr items => items.mapM read
  | _ => none

def text? : Written → Option String
  | scalar (some (.str s)) => some s
  | _ => none

end Written

/-- Reads a recording that stands below `depth` free levels of nesting. -/
def Recording.ofWritten? (depth : Nat) (w : Written) : Option Recording := do
  if depth = 0 then none
  match ← w.parts? ["listed", "detail", "tags", "responses"] with
  | [listed, detail, tags, responses] =>
    let listed ← match listed with
      | none => some .null
      | some w => w.toJson? (depth - 1)
    let detail ← Written.optionalJson? (depth - 1) detail
    let tags ← Written.optionalJson? (depth - 1) tags
    let responses ← match responses with
      | none => some []
      | some w => if depth - 1 = 0 then none else w.entries? (·.toJson? (depth - 2))
    some ⟨listed, detail, tags, responses⟩
  | _ => none

end TagGovernance
