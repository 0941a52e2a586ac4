import TagGovernance.Json.Token
import TagGovernance.Json.Written

/-!
# Reading JSON

Tokens are read one by one into a stack of open lists and objects. The reader accepts exactly one
value; what the literals in it stand for is looked at afterwards.
-/

namespace TagGovernance.Json

/-- A list or an object whose closing bracket has not been read; its parts are in reverse. -/
inductive Open
  | items (done : List Written)
  | fields (done : List (Option String × Written)) (name : Option String)

/-- What has been read so far, by what may follow. -/
inductive Progress
  | value (outer : List Open)
  | itemOrEnd (outer : List Open)
  | nameOrEnd (outer : List Open)
  | name (done : List (Option String × Written)) (outer : List Open)
  | colon (done : List (Option String × Written)) (name : Option String) (outer : List Open)
  | afterItem (done : List Written) (outer : List Open)
  | afterField (done : List (Option String × Written)) (outer : List Open)
  | complete (tree : Written)

namespace Progress

/-- A value has been read completely. -/
def give (tree : Written) : List Open → Progress
  | [] => complete tree
  | .items done :: outer => afterItem (tree :: done) outer
  | .fields done key :: outer => afterField ((key, tree) :: done) outer

/-- A value begins. -/
def begin? (outer : List Open) : Token → Option Progress
  | .openArr => some (itemOrEnd outer)
  | .openObj => some (nameOrEnd outer)
  | .scalar v => some (give (.scalar v) outer)
  | .text s => some (give (.scalar (s.map .str)) outer)
  | _ => none

def step? : Progress → Token → Option Progress
  | value outer, t => begin? outer t
  | itemOrEnd outer, .closeArr => some (give (.arr []) outer)
  | itemOrEnd outer, t => begin? (.items [] :: outer) t
  | nameOrEnd outer, .closeObj => some (give (.obj []) outer)
  | nameOrEnd outer, .text s => some (colon [] s outer)
  | name done outer, .text s => some (colon done s outer)
  | colon done s outer, .colon => some (value (.fields done s :: outer))
  | afterItem done outer, .comma => some (value (.items done :: outer))
  | afterItem done outer, .closeArr => some (give (.arr done.reverse) outer)
  | afterField done outer, .comma => some (name done outer)
  | afterField done outer, .closeObj => some (give (.obj done.reverse) outer)
  | _, _ => none

end Progress

/-- The tree of a document. -/
def readTree? (text : String) : Option Written := do
  let tokens ← Token.ofText? text.toList
  match ← tokens.foldlM Progress.step? (.value []) with
  | .complete tree => some tree
  | _ => none

/-- The value of a document. -/
def read? (text : String) : Option Json := do
  (← readTree? text).toJson? Written.maxDepth

end TagGovernance.Json
