import TagGovernance.Yaml.Scalar
import TagGovernance.Yaml.Tag

/-!
# YAML tokens

The tokens of a text in which no collection stands inside another one. A key is only known as one
by the colon behind it, so tokens that may begin a key are held back until the colon comes or can
come no more: on a later line, or more than 1024 characters on. A key at the column of the block
mapping that is open has to be followed by its colon.
-/

namespace TagGovernance.Yaml

inductive Token
  | version (major minor : Nat)
  | handle (handle : String) (start : TagName)
  | documentStart
  | documentEnd
  | blockStart
  | blockEnd
  | flowStart
  | flowEnd
  | comma
  | key
  | value
  | alias (name : String)
  | anchor (name : String)
  | tag (tag : TagToken)
  | scalar (style : Style) (text : String)
  deriving DecidableEq, Repr

/-- Tokens that may begin a key, last one first, and where the first of them stands. -/
structure Held where
  tokens : List Token := []
  index : Nat
  line : Nat
  /-- The column that a block mapping with this key has. -/
  column : Nat
  required : Bool

/-- How far a text has been read. -/
structure Scan where
  cursor : Cursor
  /-- Tokens that nothing more is put before, last one first. -/
  done : List Token := []
  held : Option Held := none
  /-- The column of the keys of the block mapping that is open. -/
  margin : Option Nat := none
  inFlow : Bool := false
  /-- Whether a key may begin at the next token. -/
  keyAllowed : Bool := true

namespace Scan

def push (token : Token) (s : Scan) : Scan :=
  match s.held with
  | some h => { s with held := some { h with tokens := token :: h.tokens } }
  | none => { s with done := token :: s.done }

/-- Gives up the tokens that are held back; they are not a key. -/
def release? (s : Scan) : Option Scan :=
  match s.held with
  | some h => if h.required then none else some { s with done := h.tokens ++ s.done, held := none }
  | none => some s

/-- Gives up a key that is too far back. -/
def expire? (s : Scan) : Option Scan :=
  match s.held with
  | some h =>
    if h.line < s.cursor.line || h.index + 1024 < s.cursor.index then s.release? else some s
  | none => some s

/-- Holds the next token back, if a key may begin there. -/
def hold? (s : Scan) : Option Scan :=
  if s.keyAllowed then do
    let s ← s.release?
    let c := s.cursor
    let required := !s.inFlow && s.margin == some c.column
    some { s with held := some { index := c.index, line := c.line, column := c.column, required } }
  else some s

/-- Opens a block mapping, unless one with keys at this column is open. -/
def open? (column : Nat) (s : Scan) : Option Scan :=
  if s.inFlow then some s
  else match s.margin with
  | none => some { s with done := .blockStart :: s.done, margin := some column }
  | some m => if m < column then none else some s

/-- Closes the block mapping. -/
def close (s : Scan) : Scan :=
  if s.inFlow || s.margin.isNone then s else { s with margin := none }.push .blockEnd

/-- Closes a block mapping whose keys stand to the right of the next token. -/
def closeAbove (s : Scan) : Scan :=
  if s.margin.any (s.cursor.column < ·) then s.close else s

/-- Goes to the next token over blanks, comments and breaks. A tab cannot stand where a key may
begin in a block. A break in a block allows a key. -/
def approach : Nat → Scan → Scan
  | 0, s => s
  | fuel + 1, s =>
    let c := if s.cursor.column == 0 && s.cursor.head? = some '\uFEFF' then s.cursor.advance 1
      else s.cursor
    let c := (c.skip fun x => x == ' ' || (x == '\t' && (s.inFlow || !s.keyAllowed))).skipComment
    match c.takeBreak? with
    | some (_, c) => approach fuel { s with cursor := c, keyAllowed := s.keyAllowed || !s.inFlow }
    | none => { s with cursor := c }

/-- Reads a number of a version. -/
def versionNumber? (c : Cursor) : Option (Nat × Cursor) :=
  let (digits, c) := c.span Text.isDigit
  if digits.isEmpty || 9 < digits.length then none else some (Text.natOfDigits digits, c)

/-- Reads the value of a version directive. -/
def versionValue? (c : Cursor) : Option (Token × Cursor) := do
  let (major, c) ← versionNumber? (c.skip isBlank)
  if c.head? = some '.' then
    let (minor, c) ← versionNumber? (c.advance 1)
    some (.version major minor, c)
  else none

/-- Reads a handle that is declared; it may be an exclamation mark alone. -/
def declaredHandle? (c : Cursor) : Option (String × Cursor) :=
  match handle? c with
  | some r => some r
  | none => if c.head? = some '!' then some ("!", c.advance 1) else none

/-- Reads the value of a handle directive. -/
def handleValue? (c : Cursor) : Option (Token × Cursor) := do
  let (handle, c) ← declaredHandle? (c.skip isBlank)
  if c.head?.any isBlank then
    let (start, c) ← tagName? true (c.skip isBlank)
    if c.spaceAt 0 then some (.handle handle start, c) else none
  else none

/-- Reads a directive, which ends with its line. -/
def directive? (s : Scan) : Option Scan := do
  let s ← s.close.release?
  let (name, c) := (s.cursor.advance 1).span isNameChar
  if !c.spaceAt 0 then none
  let (token, c) ← match String.ofList name with
    | "YAML" => versionValue? c
    | "TAG" => handleValue? c
    | _ => none
  let c := (c.skip isBlank).skipComment
  if !c.spaceAt 0 then none
  some ({ s with cursor := (c.takeBreak?.map Prod.snd).getD c, keyAllowed := false }.push token)

/-- Reads three hyphens or points between documents. -/
def marker? (token : Token) (s : Scan) : Option Scan := do
  let s ← s.close.release?
  some ({ s with cursor := s.cursor.advance 3, keyAllowed := false }.push token)

/-- Goes over an indicator of one character. -/
def indicator (token : Token) (keyAllowed : Bool) (s : Scan) : Scan :=
  { s with cursor := s.cursor.advance 1, keyAllowed }.push token

/-- A flow mapping can only begin where no other mapping is open. -/
def flowStart? (s : Scan) : Option Scan := do
  if s.inFlow || s.margin.isSome then none
  let s ← s.release?
  some { s.indicator .flowStart true with inFlow := true }

def flowEnd? (s : Scan) : Option Scan := do
  if !s.inFlow then none
  let s ← s.release?
  some { s.indicator .flowEnd false with inFlow := false }

def comma? (s : Scan) : Option Scan := do
  if !s.inFlow then none
  let s ← s.release?
  some (s.indicator .comma true)

/-- Reads the indicator of a key that is no simple one. -/
def key? (s : Scan) : Option Scan := do
  if !s.inFlow && !s.keyAllowed then none
  let s ← s.open? s.cursor.column
  let s ← s.release?
  some (s.indicator .key (!s.inFlow))

/-- Reads a colon. What is held back in front of it is a key. -/
def value? (s : Scan) : Option Scan :=
  match s.held with
  | some h => do
    let s ← { s with held := none }.open? h.column
    some ({ s with done := h.tokens ++ Token.key :: s.done }.indicator .value false)
  | none => do
    if !s.inFlow && !s.keyAllowed then none
    let s ← s.open? s.cursor.column
    some (s.indicator .value (!s.inFlow))

/-- Reads a token that may begin a key. -/
def node? (read : Cursor → Option (Token × Cursor)) (s : Scan) : Option Scan := do
  let s ← s.hold?
  let (token, c) ← read s.cursor
  some ({ s with cursor := c, keyAllowed := false }.push token)

/-- Reads the name of an anchor behind its indicator. -/
def name? (token : String → Token) (c : Cursor) : Option (Token × Cursor) :=
  let (name, c) := (c.advance 1).span isNameChar
  if !name.isEmpty && (c.spaceAt 0 || c.head?.any "?:,]\x7d%@`".toList.contains) then
    some (token (String.ofList name), c)
  else none

def quote? (mark : Char) (c : Cursor) : Option (Token × Cursor) := do
  let (text, c) ← quoted? mark c
  some (.scalar (if mark == '\'' then .singleQuoted else .doubleQuoted) (String.ofList text), c)

def plain? (s : Scan) : Option Scan := do
  let s ← s.hold?
  let (text, folded, c) ← Yaml.plain? s.inFlow ((s.margin.map (· + 1)).getD 0) s.cursor
  some ({ s with cursor := c, keyAllowed := folded }.push (.scalar .plain (String.ofList text)))

def block? (folded : Bool) (s : Scan) : Option Scan := do
  let s ← s.release?
  let (text, c) ← Yaml.block? folded s.margin s.cursor
  some ({ s with cursor := c, keyAllowed := true }.push
    (.scalar (if folded then .folded else .literal) (String.ofList text)))

/-- Whether a plain scalar begins with the character `x`. An indicator begins one only if no white
space follows. -/
def startsPlain (s : Scan) (x : Char) : Bool :=
  if x == '-' then !(s.cursor.rest[1]?.any isBlank)
  else if x == '?' || x == ':' then !s.inFlow && !s.cursor.spaceAt 1
  else !",[]\x7b\x7d#&*!|>'\"%@`".toList.contains x && !isSpace x

/-- Reads the token at the cursor. Lists are not read: no token of theirs can stand in a mapping of
scalars. -/
def token? (s : Scan) : Option Scan := do
  let c := s.cursor
  let x ← c.head?
  if c.column == 0 && x == '%' then s.directive?
  else if c.atMarker '-' then s.marker? .documentStart
  else if c.atMarker '.' then s.marker? .documentEnd
  else match x with
  | '\x7b' => s.flowStart?
  | '\x7d' => s.flowEnd?
  | ',' => s.comma?
  | '*' => s.node? (name? .alias)
  | '&' => s.node? (name? .anchor)
  | '!' => s.node? fun c => (tag? s.inFlow c).map fun r => (.tag r.1, r.2)
  | '\'' => s.node? (quote? x)
  | '"' => s.node? (quote? x)
  | _ =>
    if x == '-' && c.spaceAt 1 then none
    else if x == '?' && (s.inFlow || c.spaceAt 1) then s.key?
    else if x == ':' && (s.inFlow || c.spaceAt 1) then s.value?
    else if !s.inFlow && (x == '|' || x == '>') then s.block? (x == '>')
    else if s.startsPlain x then s.plain?
    else none

/-- Reads all tokens. -/
def run? : Nat → Scan → Option (List Token)
  | 0, _ => none
  | fuel + 1, s => do
    let s ← (s.approach (s.cursor.rest.length + 1)).expire?
    let s := s.closeAbove
    if s.cursor.rest.isEmpty then
      let s ← s.close.release?
      some s.done.reverse
    else run? fuel (← s.token?)

end Scan

/-- The tokens of a text. -/
def tokens? (text : List Char) : Option (List Token) :=
  if text.all isAllowed then Scan.run? (text.length + 1) { cursor := { rest := text } } else none

end TagGovernance.Yaml
