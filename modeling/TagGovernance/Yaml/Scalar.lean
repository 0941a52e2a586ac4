import TagGovernance.Text.Numeral
import TagGovernance.Yaml.Cursor

/-!
# Texts of scalars

A scalar is written plainly, in quotes, or as a block of lines. Line breaks inside plain and quoted
scalars are folded: one break becomes a space, and of several all but the first one stay.
-/

namespace TagGovernance.Yaml

inductive Style
  | plain
  | singleQuoted
  | doubleQuoted
  | literal
  | folded
  deriving DecidableEq, Repr

/-- White space inside a scalar, within a line or over lines. -/
inductive Gap
  | blanks (text : List Char)
  | lines (first : Option Char) (more : List Char)

namespace Gap

/-- What the white space stands for. -/
def text : Gap → List Char
  | blanks text => text
  | lines (some '\n') [] => [' ']
  | lines (some '\n') more => more
  | lines first more => first.toList ++ more

def isEmpty : Gap → Bool
  | blanks text => text.isEmpty
  | lines _ _ => false

def isFolded : Gap → Bool
  | blanks _ => false
  | lines _ _ => true

def addBlank (x : Char) : Gap → Gap
  | blanks text => blanks (text ++ [x])
  | gap => gap

def addBreak (x : Char) : Gap → Gap
  | blanks _ => lines (some x) []
  | lines first more => lines first (more ++ [x])

/-- Reads white space. On a new line no tab may stand before the column `margin`. -/
def read? (margin : Nat) : Nat → Gap → Cursor → Option (Gap × Cursor)
  | 0, _, _ => none
  | fuel + 1, gap, c =>
    match c.takeBreak? with
    | some (x, c) => read? margin fuel (gap.addBreak x) c
    | none =>
      match c.head? with
      | some x =>
        if !isBlank x then some (gap, c)
        else if gap.isFolded && x == '\t' && c.column < margin then none
        else read? margin fuel (gap.addBlank x) (c.advance 1)
      | none => some (gap, c)

end Gap

/-- Whether a plain scalar ends before this character. -/
def endsPlain (inFlow : Bool) (c : Cursor) : Bool :=
  match c.head? with
  | some ':' => c.spaceAt 1
  | some x => inFlow && [',', '[', ']', '\x7b', '\x7d'].contains x
  | none => true

/-- Whether a colon stands before an indicator of a flow collection, where it has no meaning. -/
def badColon (c : Cursor) : Bool :=
  match c.rest with
  | ':' :: x :: _ => [',', '?', '[', ']', '\x7b', '\x7d'].contains x
  | _ => false

/-- Reads a plain scalar on from a place where white space has been read, and says whether the
scalar is followed by a break. -/
def plainFrom? (inFlow : Bool) (margin : Nat) : Nat → List Char → Gap → Cursor →
    Option (List Char × Bool × Cursor)
  | 0, _, _, _ => none
  | fuel + 1, done, gap, c =>
    let ends : Option (List Char × Bool × Cursor) := some (done, gap.isFolded, c)
    if c.atDocument || (!gap.isEmpty && c.head? = some '#') then ends
    else match c.head? with
    | none => ends
    | some x =>
      if isSpace x then do
        let (gap, next) ← Gap.read? margin (c.rest.length + 1) (.blanks []) c
        if !inFlow && next.column < margin then some (done, gap.isFolded, next)
        else plainFrom? inFlow margin fuel done gap next
      else if inFlow && badColon c then none
      else if endsPlain inFlow c then ends
      else plainFrom? inFlow margin fuel (done ++ gap.text ++ [x]) (.blanks []) (c.advance 1)

/-- Reads a plain scalar whose lines are indented to the column `margin`. -/
def plain? (inFlow : Bool) (margin : Nat) (c : Cursor) : Option (List Char × Bool × Cursor) :=
  plainFrom? inFlow margin (2 * c.rest.length + 1) [] (.blanks []) c

/-- The character that stands for itself behind a backslash, or is named by a letter. -/
def escape? : Char → Option Char
  | '0' => some '\x00'
  | 'a' => some '\x07'
  | 'b' => some '\x08'
  | 't' | '\t' => some '\t'
  | 'n' => some '\n'
  | 'v' => some '\x0b'
  | 'f' => some '\x0c'
  | 'r' => some '\r'
  | 'e' => some '\x1b'
  | ' ' => some ' '
  | '"' => some '"'
  | '/' => some '/'
  | '\\' => some '\\'
  | 'N' => some '\x85'
  | '_' => some '\xa0'
  | 'L' => some '\u2028'
  | 'P' => some '\u2029'
  | _ => none

/-- The number of hexadecimal digits behind a letter. -/
def hexWidth? : Char → Option Nat
  | 'x' => some 2
  | 'u' => some 4
  | 'U' => some 8
  | _ => none

/-- The character with a number given by hexadecimal digits. -/
def hexChar? (digits : List Char) : Option Char := do
  let n ← digits.foldlM (fun n d => (Text.hexValue? d).map (16 * n + ·)) 0
  if n.isValidChar then some (Char.ofNat n) else none

/-- Reads the escape behind a backslash. -/
def readEscape? (c : Cursor) : Option (Char × Cursor) := do
  let x ← c.head?
  match hexWidth? x with
  | none => some (← escape? x, c.advance 1)
  | some width =>
    let digits := (c.rest.drop 1).take width
    if digits.length < width then none
    else some (← hexChar? digits, c.advance (width + 1))

/-- Reads a quoted scalar on from a place behind the opening quote. -/
def quotedFrom? (quote : Char) : Nat → List Char → Cursor → Option (List Char × Cursor)
  | 0, _, _ => none
  | fuel + 1, done, c =>
    if c.atDocument then none
    else match c.rest with
    | [] => none
    | x :: rest =>
      if x == quote then
        if quote == '\'' && rest.head? = some '\'' then
          quotedFrom? quote fuel (done ++ [x]) (c.advance 2)
        else some (done, c.advance 1)
      else if isSpace x then do
        let (gap, next) ← Gap.read? 0 (c.rest.length + 1) (.blanks []) c
        quotedFrom? quote fuel (done ++ gap.text) next
      else if x == '\\' && quote == '"' then
        match (c.advance 1).takeBreak? with
        | some (_, next) => do
          let (gap, next) ← Gap.read? 0 (c.rest.length + 1) (.lines none []) next
          quotedFrom? quote fuel (done ++ gap.text) next
        | none => do
          let (y, next) ← readEscape? (c.advance 1)
          quotedFrom? quote fuel (done ++ [y]) next
      else quotedFrom? quote fuel (done ++ [x]) (c.advance 1)

/-- Reads a scalar that begins with a quote. -/
def quoted? (quote : Char) (c : Cursor) : Option (List Char × Cursor) :=
  quotedFrom? quote (c.rest.length + 1) [] (c.advance 1)

/-- What becomes of the breaks at the end of a block. -/
inductive Chomping
  | strip
  | clip
  | keep
  deriving DecidableEq, Repr

/-- The indicators behind the bar or the angle of a block. -/
structure BlockHeader where
  chomping : Chomping := .clip
  /-- The number of columns that the lines are indented by. -/
  increment : Option Nat := none

def chomping? : Char → Option Chomping
  | '+' => some .keep
  | '-' => some .strip
  | _ => none

def increment? (x : Char) : Option Nat :=
  if Text.isDigit x then some (Text.digitValue x) else none

/-- Reads the indicators of a block, in either order. -/
def blockHeader (c : Cursor) : BlockHeader × Cursor :=
  match c.head?.bind chomping?, c.head?.bind increment? with
  | some chomping, _ =>
    let c := c.advance 1
    match c.head?.bind increment? with
    | some n => (⟨chomping, some n⟩, c.advance 1)
    | none => (⟨chomping, none⟩, c)
  | none, some n =>
    let c := c.advance 1
    match c.head?.bind chomping? with
    | some chomping => (⟨chomping, some n⟩, c.advance 1)
    | none => (⟨.clip, some n⟩, c)
  | none, none => ({}, c)

/-- Goes over empty lines and the indentation of the line behind them. The result is the breaks and
the greatest column that an indentation reaches. -/
def blockBreaks? (indent : Option Nat) : Nat → List Char → Nat → Cursor →
    Option (List Char × Nat × Cursor)
  | 0, _, _, _ => none
  | fuel + 1, breaks, widest, c =>
    let spaces := (c.rest.takeWhile (· == ' ')).length
    let c := c.advance (match indent with
      | some n => min spaces (n - c.column)
      | none => spaces)
    let widest := max widest c.column
    if indent.all (c.column < ·) && c.head? = some '\t' then none
    else match c.takeBreak? with
    | some (x, c) => blockBreaks? indent fuel (breaks ++ [x]) widest c
    | none => some (breaks, widest, c)

/-- What has been read of a block: its text, whether the last line began with a blank, the break
at its end, and the breaks of the empty lines behind it. -/
structure BlockText where
  text : List Char := []
  blank : Bool := false
  last : List Char := []
  empty : List Char := []

namespace BlockText

/-- Adds a line. Between two lines of a folded block that do not begin with blanks one break is a
space, and of several all but the first one stay. -/
def addLine (folded : Bool) (line : List Char) (b : BlockText) : List Char :=
  let blank := line.head?.any isBlank
  let between :=
    if folded && b.last == ['\n'] && !b.blank && !blank then
      if b.empty.isEmpty then [' '] else b.empty
    else b.last ++ b.empty
  b.text ++ between ++ line

def chomped (chomping : Chomping) (b : BlockText) : List Char :=
  match chomping with
  | .strip => b.text
  | .clip => b.text ++ b.last
  | .keep => b.text ++ b.last ++ b.empty

/-- Reads the lines that are indented to the column `indent`. -/
def read? (folded : Bool) (indent : Nat) : Nat → BlockText → Cursor → Option (BlockText × Cursor)
  | 0, _, _ => none
  | fuel + 1, b, c =>
    if c.column != indent || c.rest.isEmpty then some (b, c)
    else do
      let (line, c) := c.span (fun x => !isBreak x)
      let (last, c) := match c.takeBreak? with
        | some (x, c) => ([x], c)
        | none => ([], c)
      let (empty, _, c) ← blockBreaks? (some indent) (c.rest.length + 1) [] 0 c
      read? folded indent fuel ⟨b.addLine folded line, line.head?.any isBlank, last, empty⟩ c

end BlockText

/-- Reads a block that begins with a bar or an angle inside a mapping at the column `margin`, if it
is inside one. -/
def block? (folded : Bool) (margin : Option Nat) (c : Cursor) : Option (List Char × Cursor) := do
  let (header, c) := blockHeader (c.advance 1)
  if header.increment = some 0 then none
  let c := (c.skip isBlank).skipComment
  if !c.spaceAt 0 then none
  let c := (c.takeBreak?.map Prod.snd).getD c
  let fixed := header.increment.map (margin.getD 0 + ·)
  let (empty, widest, c) ← blockBreaks? fixed (c.rest.length + 1) [] 0 c
  let indent := fixed.getD (max widest (max 1 ((margin.map (· + 1)).getD 0)))
  let (b, c) ← BlockText.read? folded indent (c.rest.length + 1) { empty } c
  some (b.chomped header.chomping, c)

end TagGovernance.Yaml
