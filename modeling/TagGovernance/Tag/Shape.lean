import TagGovernance.Json.Printer
import TagGovernance.Tag.Ingest
import TagGovernance.Text.Quoted

/-!
# Wire shapes of tag payloads

Cloud services write tags as a list of objects with capitalised or with lower case names, or as one
object. `TagShape.decode` reads a payload in one of these shapes and `TagShape.encode` writes it. A
payload is looked at as a whole before any key is.
-/

namespace TagGovernance

inductive TagShape
  /-- A list of objects with the fields `Key` and `Value`. -/
  | pascal
  /-- A list of objects with the fields `key` and `value`. -/
  | camel
  /-- An object with a field for each tag. -/
  | map
  deriving DecidableEq, Repr

namespace TagShape

def name : TagShape → String
  | pascal => "pascal"
  | camel => "camel"
  | map => "map"

def ofName? : String → Option TagShape
  | "pascal" => some pascal
  | "camel" => some camel
  | "map" => some map
  | _ => none

def title : TagShape → String
  | pascal => "Pascal"
  | camel => "Camel"
  | map => "Map"

/-- The field of a list item that holds the key. -/
def keyField : TagShape → String
  | pascal => "Key"
  | _ => "key"

/-- The field of a list item that holds the value. -/
def valueField : TagShape → String
  | pascal => "Value"
  | _ => "value"

end TagShape

/-- What was expected in a place of a payload. -/
inductive PayloadPart
  | list
  | item
  | text
  deriving DecidableEq, Repr

/-- Why a payload does not have its shape. -/
inductive PayloadError
  | unexpected (found : Json) (expected : PayloadPart)
  | emptyItem
  | longItem (length : Nat)
  | notAnObject
  | notText (key : String)

namespace PayloadError

/-- A value described by its type, and by its content if it has no parts. -/
def describe : Json → String
  | .null => "null"
  | .bool b => s!"boolean `{b}`"
  | .int n => s!"integer `{n}`"
  | .float x => s!"floating point `{Json.doubles.render x}`"
  | .str s => s!"string {Text.quote s}"
  | .arr _ => "sequence"
  | .obj _ => "map"

def structName (shape : TagShape) : String := s!"struct {shape.title}Tag"

def partName (shape : TagShape) : PayloadPart → String
  | .list => "a sequence"
  | .item => structName shape
  | .text => "a string"

def message (shape : TagShape) : PayloadError → String
  | unexpected found expected =>
    s!"invalid type: {describe found}, expected {partName shape expected}"
  | emptyItem => s!"invalid length 0, expected {structName shape} with 2 elements"
  | longItem length => s!"invalid length {length}, expected fewer elements in array"
  | notAnObject => "expected an object"
  | notText key => s!"value of '{key}' is not a string"

end PayloadError

/-- Why tags were refused: for their form or for one of their pairs. -/
inductive IngestError
  | malformed (shape : TagShape) (error : PayloadError)
  | pair (error : PairError)

def IngestError.message : IngestError → String
  | malformed shape error =>
    s!"malformed tag payload: {shape.title} tags: {error.message shape}"
  | pair error => error.message

namespace TagShape

def keyText? : Json → Except PayloadError (Option String)
  | .null => .ok none
  | .str s => .ok (some s)
  | v => .error (.unexpected v .text)

def valueText? : Json → Except PayloadError String
  | .str s => .ok s
  | v => .error (.unexpected v .text)

/-- The pair of a list item: an object with a key field and a value field, or a list of a key and a
value. A missing value is empty; a key may be null, and in an object it may be missing. -/
def pair? (shape : TagShape) : Json → Except PayloadError TagPair
  | .obj fields => do
    let key ← match Keyed.find? shape.keyField fields with
      | some v => keyText? v
      | none => .ok none
    let value ← match Keyed.find? shape.valueField fields with
      | some v => valueText? v
      | none => .ok ""
    .ok (key, value)
  | .arr [] => .error .emptyItem
  | .arr [k] => do
    let key ← keyText? k
    .ok (key, "")
  | .arr (k :: v :: rest) => do
    let key ← keyText? k
    let value ← valueText? v
    if rest.isEmpty then .ok (key, value) else .error (.longItem (rest.length + 2))
  | v => .error (.unexpected v .item)

/-- The pair of an object's field. -/
def entry? : String × Json → Except PayloadError TagPair
  | (key, .str value) => .ok (some key, value)
  | (key, _) => .error (.notText key)

/-- The pairs of a payload in their order. -/
def pairs? (shape : TagShape) (raw : Json) : Except PayloadError (List TagPair) :=
  match shape, raw with
  | map, .obj fields => fields.mapM entry?
  | map, _ => .error .notAnObject
  | _, .arr items => items.mapM (pair? shape)
  | _, v => .error (.unexpected v .list)

/-- The tags of a payload. The null payload has none. -/
def decode (shape : TagShape) (raw : Json) (ingest : Ingest) : Except IngestError TagSet :=
  if raw.isNull then .ok TagSet.empty
  else do
    let pairs ← (pairs? shape raw).mapError (.malformed shape)
    (TagSet.ofPairs ingest pairs).mapError .pair

/-- The payload of a tag set, in key order. -/
def encode (shape : TagShape) (tags : TagSet) : Json :=
  match shape with
  | map => .obj (tags.entries.map fun e => (e.1, .str e.2))
  | _ => .arr (tags.entries.map fun e =>
      .obj [(shape.keyField, .str e.1), (shape.valueField, .str e.2)])

end TagShape

end TagGovernance
