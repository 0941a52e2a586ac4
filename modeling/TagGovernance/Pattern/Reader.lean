import TagGovernance.Pattern.Bracket

/-!
# Reading patterns

Patterns are regular expressions over Unicode characters, without references back and without
looking ahead or behind. A pattern that nests too deep or would take too much space is refused like
one that is badly written.
-/

namespace TagGovernance.Pattern

open Unicode (Ranges)

/-- How deep a pattern may be nested. -/
def maxDepth : Nat := 250

/-- How much space a compiled pattern may take, in bytes. -/
def maxSize : Nat := 10485760

/-- A group that is not closed yet: the flags to return to behind it, and what stood before it. -/
structure OpenGroup where
  flags : Flags
  branches : List Node
  done : List Node

/-- The pattern read so far: the flags in force, the finished branches and the parts of the current
one in the innermost group, the groups around it, and the names of groups. -/
structure Progress where
  flags : Flags := {}
  branches : List Node := []
  done : List Node := []
  outer : List OpenGroup := []
  names : List (List Char) := []

namespace Progress

def push (node : Node) (p : Progress) : Progress := { p with done := node :: p.done }

def sequence (done : List Node) : Node :=
  match done with
  | [] => .empty
  | [node] => node
  | _ => .concat done.reverse

/-- The tree of the innermost group. -/
def inner (p : Progress) : Node :=
  if p.branches.isEmpty then sequence p.done
  else .choice (sequence p.done :: p.branches).reverse

def branch (p : Progress) : Progress :=
  { p with branches := sequence p.done :: p.branches, done := [] }

def openGroup (flags : Flags) (p : Progress) : Progress :=
  { p with
    flags := flags, branches := [], done := []
    outer := ⟨p.flags, p.branches, p.done⟩ :: p.outer }

def closeGroup? (p : Progress) : Option Progress :=
  match p.outer with
  | [] => none
  | g :: outer =>
    some { p with flags := g.flags, branches := g.branches, done := .group p.inner :: g.done, outer }

/-- Repeats the last part. There has to be one, and a setting of flags is none. -/
def repeat? (least : Nat) (most : Option Nat) (p : Progress) : Option Progress :=
  match p.done with
  | [] => none
  | .empty :: _ => none
  | node :: rest => some { p with done := .repeated least most node :: rest }

end Progress

def literal (f : Flags) (c : Char) : Node := .chars (f.fold (.single c.toNat)) 0

/-- Any character, or any but the ends of lines. -/
def dot? (f : Flags) : Option Node :=
  if ¬f.unicode then none
  else
    let excluded : Ranges :=
      if f.dotAll then .empty
      else if f.crlf then Ranges.ofBounds [(10, 10), (13, 13)]
      else .single 10
    some (.chars excluded.complement 0)

def lineStart (f : Flags) : Look :=
  if f.multiLine then (if f.crlf then .crlfStart else .lineStart) else .textStart

def lineEnd (f : Flags) : Look :=
  if f.multiLine then (if f.crlf then .crlfEnd else .lineEnd) else .textEnd

/-- The part that an escape stands for. -/
def escaped? (f : Flags) : Escape → Option Node
  | .char c byte => if byte ∧ ¬f.unicode ∧ 0x80 ≤ c.toNat then none else some (literal f c)
  | .set set => some (.chars set 0)
  | .look condition => some (.look condition)

/-- Sets or clears the flag with this letter. -/
def Flags.set? (on : Bool) (f : Flags) : Char → Option Flags
  | 'i' => some { f with ignoreCase := on }
  | 'm' => some { f with multiLine := on }
  | 's' => some { f with dotAll := on }
  | 'U' => some { f with swapGreed := on }
  | 'u' => some { f with unicode := on }
  | 'R' => some { f with crlf := on }
  | 'x' => some { f with extended := on }
  | _ => none

/-- Letters of flags up to a colon or a closing parenthesis, which is kept. No letter and no minus
sign may stand twice, and a letter has to follow the sign. -/
def flags? (f : Flags) (on : Bool) (seen : List Char) : List Char → Option (Flags × List Char)
  | [] => none
  | c :: rest =>
    if c = ':' ∨ c = ')' then
      if seen.head? = some '-' then none else some (f, c :: rest)
    else if seen.contains c then none
    else if c = '-' then flags? f false (c :: seen) rest
    else match f.set? on c with
      | some f => flags? f on (c :: seen) rest
      | none => none

/-- Whether a character may stand in the name of a group. -/
def isNameChar (first : Bool) (c : Char) : Bool :=
  c = '_' || Unicode.alphabetic.contains c.toNat ||
    (!first && (c = '.' || c = '[' || c = ']' ||
      [Unicode.Category.decimalNumber, .letterNumber, .otherNumber].any (·.ranges.contains c.toNat)))

/-- The name of a group, which ends with an angle bracket. -/
def name? (cs : List Char) : Option (List Char × List Char) := do
  let (name, rest) ← Text.splitChars? '>' cs
  match name with
  | [] => none
  | c :: more => if isNameChar true c ∧ more.all (isNameChar false) then some (name, rest) else none

def namedGroup? (p : Progress) (cs : List Char) : Option (Progress × List Char) := do
  let (name, rest) ← name? cs
  if p.names.contains name then none
  some ({ p.openGroup p.flags with names := name :: p.names }, rest)

/-- What follows an opening parenthesis: flags, a name, or the inside of a group. -/
def group? (p : Progress) (cs : List Char) : Option (Progress × List Char) :=
  match p.flags.skip cs with
  | '?' :: '=' :: _ => none
  | '?' :: '!' :: _ => none
  | '?' :: '<' :: '=' :: _ => none
  | '?' :: '<' :: '!' :: _ => none
  | '?' :: 'P' :: '<' :: rest => namedGroup? p rest
  | '?' :: '<' :: rest => namedGroup? p rest
  | '?' :: rest => do
    let (f, behind) ← flags? p.flags true [] rest
    match behind with
    | ')' :: after =>
      if rest.head? = some ')' then none else some ({ p.push .empty with flags := f }, after)
    | _ :: after => some (p.openGroup f, after)
    | [] => none
  | rest => some (p.openGroup p.flags, rest)

/-- A question mark behind a repetition makes it lazy, which changes nothing about what matches. -/
def lazyMark : List Char → List Char
  | '?' :: rest => rest
  | cs => cs

/-- A decimal number with blanks around it, below `2 ^ 32`. -/
def count? (f : Flags) (cs : List Char) : Option (Nat × List Char) :=
  go f [] (Text.trimStartChars cs) cs.length
where
  go (f : Flags) (digits : List Char) (cs : List Char) : Nat → Option (Nat × List Char)
    | 0 => finish digits cs
    | fuel + 1 =>
      match cs with
      | c :: rest =>
        if Text.isDigit c then go f (c :: digits) (f.skip rest) fuel else finish digits cs
      | [] => finish digits cs
  finish (digits cs : List Char) : Option (Nat × List Char) := do
    let n ← Text.digits? digits.reverse
    if n ≤ Text.maxU32 then some (n, Text.trimStartChars cs) else none

/-- The numbers of a repetition behind its opening brace. -/
def counts? (f : Flags) (cs : List Char) : Option ((Nat × Option Nat) × List Char) := do
  let (least, rest) ← count? f (f.skip cs)
  match rest with
  | '\x7d' :: rest => some ((least, some least), f.skip rest)
  | ',' :: rest =>
    match f.skip rest with
    | '\x7d' :: rest => some ((least, none), f.skip rest)
    | rest =>
      let (most, rest) ← count? f rest
      match rest with
      | '\x7d' :: rest => if least ≤ most then some ((least, some most), f.skip rest) else none
      | _ => none
  | _ => none

/-- Takes in the next part of a pattern. -/
def step? (p : Progress) (cs : List Char) : Option (Progress × List Char) :=
  let f := p.flags
  match cs with
  | [] => none
  | '(' :: rest => group? p rest
  | ')' :: rest => p.closeGroup?.map (·, rest)
  | '|' :: rest => some (p.branch, rest)
  | '[' :: rest => do
    let (set, nesting, rest) ← Bracket.ofText? f rest
    some (p.push (.chars set nesting), rest)
  | '?' :: rest => (p.repeat? 0 (some 1)).map (·, lazyMark rest)
  | '*' :: rest => (p.repeat? 0 none).map (·, lazyMark rest)
  | '+' :: rest => (p.repeat? 1 none).map (·, lazyMark rest)
  | '\x7b' :: rest => do
    let ((least, most), rest) ← counts? f rest
    (p.repeat? least most).map (·, lazyMark rest)
  | '\\' :: rest => do
    let (escape, rest) ← Escape.read? f rest
    some (p.push (← escaped? f escape), rest)
  | '.' :: rest => (dot? f).map fun node => (p.push node, rest)
  | '^' :: rest => some (p.push (.look (lineStart f)), rest)
  | '$' :: rest => some (p.push (.look (lineEnd f)), rest)
  | c :: rest => some (p.push (literal f c), rest)

def readFrom? : Nat → Progress → List Char → Option Progress
  | fuel, p, cs =>
    match p.flags.skip cs with
    | [] => some p
    | cs =>
      match fuel with
      | 0 => none
      | fuel + 1 =>
        match step? p cs with
        | some (p, rest) => readFrom? fuel p rest
        | none => none

/-- The tree of a pattern. -/
def read? (text : String) : Option Node := do
  let cs := text.toList
  let p ← readFrom? cs.length {} cs
  if p.outer.isEmpty then
    let node := p.inner
    if node.depth ≤ maxDepth ∧ node.size ≤ maxSize then some node else none
  else none

end TagGovernance.Pattern
