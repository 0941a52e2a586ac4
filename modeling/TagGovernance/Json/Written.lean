import TagGovernance.Json.Value

/-!
# JSON as it is written

A document's tree before it is a value: fields in written order with repeated names kept, and
literals that stand for no value (a number beyond the doubles, half of a surrogate pair) still in
place. A part of a document that nobody looks at may hold such literals and may be nested to any
depth; a part that is read as a value may not.
-/

namespace TagGovernance

/-- A tree of literals, lists and fields. A literal or a field's name without a value is `none`. -/
inductive Written
  | scalar (value : Option Json)
  | arr (items : List Written)
  | obj (fields : List (Option String × Written))

namespace Written

/-- How deep lists and objects may be nested in each other. -/
def maxDepth : Nat := 127

mutual

/-- The value of a tree with at most `depth` levels of lists and objects. Of equal names the last
one counts. -/
def toJson? (depth : Nat) : Written → Option Json
  | scalar value => value
  | arr items => if depth = 0 then none else (toItems? (depth - 1) items).map Json.arr
  | obj fields => if depth = 0 then none else (toFields? (depth - 1) fields).map Json.ofFields

def toItems? (depth : Nat) : List Written → Option (List Json)
  | [] => some []
  | x :: rest => do
    let v ← toJson? depth x
    let vs ← toItems? depth rest
    some (v :: vs)

def toFields? (depth : Nat) : List (Option String × Written) → Option (List (String × Json))
  | [] => some []
  | (name, x) :: rest => do
    let key ← name
    let v ← toJson? depth x
    let vs ← toFields? depth rest
    some ((key, v) :: vs)

end

mutual

/-- A value written out, each field once. -/
def ofJson : Json → Written
  | .arr items => arr (ofItems items)
  | .obj fields => obj (ofFields fields)
  | v => scalar (some v)

def ofItems : List Json → List Written
  | [] => []
  | v :: rest => ofJson v :: ofItems rest

def ofFields : List (String × Json) → List (Option String × Written)
  | [] => []
  | (key, v) :: rest => (some key, ofJson v) :: ofFields rest

end

end Written

end TagGovernance
