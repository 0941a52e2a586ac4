import TagGovernance.Decimal.Shortest
import TagGovernance.Json.Value
import TagGovernance.Text.Numeral

/-!
# Writing JSON

The compact form has no white space; the indented form has a line for every item and field. In a
string only quotes, backslashes and control characters are escaped. A double always has a point or
an exponent, so that it is told apart from an integer.
-/

namespace TagGovernance.Json

/-- Doubles from `1e-5` up to below `1e16` are written without an exponent. -/
def doubles : Decimal.Layout := ⟨-5, 15, true⟩

def escaped (c : Char) : List Char :=
  if c = '"' then ['\\', '"']
  else if c = '\\' then ['\\', '\\']
  else if c = '\x08' then ['\\', 'b']
  else if c = '\t' then ['\\', 't']
  else if c = '\n' then ['\\', 'n']
  else if c = '\x0c' then ['\\', 'f']
  else if c = '\r' then ['\\', 'r']
  else if c < ' ' then ['\\', 'u', '0', '0'] ++ List.replicate (2 - (Text.hex c.toNat).length) '0' ++
    Text.hex c.toNat
  else [c]

def quoted (s : String) : String :=
  "\"" ++ String.ofList (s.toList.flatMap escaped) ++ "\""

/-- The text of a value that has no parts. -/
def scalarText : Json → String
  | null => "null"
  | bool b => if b then "true" else "false"
  | int n => toString n
  | float x => doubles.render x
  | str s => quoted s
  | arr _ => "[]"
  | obj _ => "\x7b\x7d"

mutual

def compactTo (out : String) : Json → String
  | arr [] => out ++ "[]"
  | arr (v :: rest) => compactItems (compactTo (out ++ "[") v) rest ++ "]"
  | obj [] => out ++ "\x7b\x7d"
  | obj ((key, v) :: rest) =>
    compactFields (compactTo (out ++ "\x7b" ++ quoted key ++ ":") v) rest ++ "\x7d"
  | v => out ++ scalarText v

def compactItems (out : String) : List Json → String
  | [] => out
  | v :: rest => compactItems (compactTo (out ++ ",") v) rest

def compactFields (out : String) : List (String × Json) → String
  | [] => out
  | (key, v) :: rest => compactFields (compactTo (out ++ "," ++ quoted key ++ ":") v) rest

end

/-- The text of a value on one line. -/
def compact (v : Json) : String := compactTo "" v

/-- A new line, indented by two spaces for each level. -/
def newLine (level : Nat) : String := String.ofList ('\n' :: List.replicate (2 * level) ' ')

mutual

def indentedTo (level : Nat) (out : String) : Json → String
  | arr [] => out ++ "[]"
  | arr (v :: rest) =>
    indentedItems (level + 1) (indentedTo (level + 1) (out ++ "[" ++ newLine (level + 1)) v) rest ++
      newLine level ++ "]"
  | obj [] => out ++ "\x7b\x7d"
  | obj ((key, v) :: rest) =>
    indentedFields (level + 1)
      (indentedTo (level + 1) (out ++ "\x7b" ++ newLine (level + 1) ++ quoted key ++ ": ") v) rest ++
      newLine level ++ "\x7d"
  | v => out ++ scalarText v

def indentedItems (level : Nat) (out : String) : List Json → String
  | [] => out
  | v :: rest => indentedItems level (indentedTo level (out ++ "," ++ newLine level) v) rest

def indentedFields (level : Nat) (out : String) : List (String × Json) → String
  | [] => out
  | (key, v) :: rest =>
    indentedFields level (indentedTo level (out ++ "," ++ newLine level ++ quoted key ++ ": ") v) rest

end

/-- The text of a value with a line for each item and field. -/
def indented (v : Json) : String := indentedTo 0 "" v

end TagGovernance.Json
