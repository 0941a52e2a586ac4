import TagGovernance.Decimal.Binary64
import TagGovernance.Keyed
import TagGovernance.Text.Split

/-!
# JSON values

A number is an integer or a double, and the two are never equal. The fields of an object are a
keyed list; readers hand them out in key order, and all look-ups below go through `Keyed.find?`.
-/

namespace TagGovernance

inductive Json
  | null
  | bool (value : Bool)
  | int (value : Int)
  | float (value : Binary64)
  | str (text : String)
  | arr (items : List Json)
  | obj (fields : List (String × Json))

namespace Json

instance : Inhabited Json := ⟨null⟩

def isNull : Json → Bool
  | null => true
  | _ => false

def asString? : Json → Option String
  | str s => some s
  | _ => none

def asArray? : Json → Option (List Json)
  | arr xs => some xs
  | _ => none

def asObject? : Json → Option (List (String × Json))
  | obj fields => some fields
  | _ => none

/-- The field of an object; nothing else has fields. -/
def field? (key : String) : Json → Option Json
  | obj fields => Keyed.find? key fields
  | _ => none

/-- Follows field names from the root. -/
def follow? : List String → Json → Option Json
  | [], v => some v
  | key :: rest, v => (v.field? key).bind (follow? rest)

/-- The value at a path of field names with points between them. -/
def path? (path : String) (v : Json) : Option Json := v.follow? (Text.pieces '.' path)

/-- An object with these fields, in key order. -/
def ofFields (fields : List (String × Json)) : Json := obj (Keyed.ofList fields)

mutual

/-- Equality of type and content. The two zeros of the doubles are equal. -/
def same : Json → Json → Bool
  | null, null => true
  | bool a, bool b => a == b
  | int a, int b => a == b
  | float a, float b => a.same b
  | str a, str b => a == b
  | arr xs, arr ys => sameItems xs ys
  | obj xs, obj ys => sameFields xs ys
  | _, _ => false

def sameItems : List Json → List Json → Bool
  | [], [] => true
  | x :: xs, y :: ys => same x y && sameItems xs ys
  | _, _ => false

def sameFields : List (String × Json) → List (String × Json) → Bool
  | [], [] => true
  | (k, x) :: xs, (l, y) :: ys => k == l && same x y && sameFields xs ys
  | _, _ => false

end

@[simp] theorem field?_obj (key : String) (fields : List (String × Json)) :
    (obj fields).field? key = Keyed.find? key fields := rfl

theorem same_str_iff {value : Json} {text : String} :
    value.same (.str text) = true ↔ value = .str text := by
  cases value <;> simp [same]

end Json

end TagGovernance
