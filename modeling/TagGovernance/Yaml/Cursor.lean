/-!
# Places in a YAML text

A text is read forward, with a count of characters, lines and columns: what a character means may
hang on its column. White space is blanks, which are spaces and tabs, and five kinds of breaks.
-/

namespace TagGovernance.Yaml

/-- A place in a text: what stands behind it, and where it is. -/
structure Cursor where
  rest : List Char
  index : Nat := 0
  line : Nat := 0
  column : Nat := 0

def isBlank (c : Char) : Bool := c == ' ' || c == '\t'

/-- Breaks that stay what they are; the others are read as a line feed. -/
def isSeparator (c : Char) : Bool := c == '\u2028' || c == '\u2029'

def isBreak (c : Char) : Bool := c == '\n' || c == '\r' || c == '\x85' || isSeparator c

def isSpace (c : Char) : Bool := isBlank c || isBreak c

/-- The characters of names: ASCII letters and digits, hyphens and underscores. -/
def isNameChar (c : Char) : Bool := c.isAlphanum || c == '-' || c == '_'

/-- The characters that a text may have. -/
def isAllowed (c : Char) : Bool :=
  let n := c.toNat
  isSpace c || (0x20 ≤ n && n ≤ 0x7E) || (0xA0 ≤ n && n ≤ 0xFFFD) || 0x10000 ≤ n

namespace Cursor

def head? (c : Cursor) : Option Char := c.rest.head?

/-- Whether white space or the end of the text stands `n` characters ahead. -/
def spaceAt (n : Nat) (c : Cursor) : Bool := c.rest[n]?.all isSpace

/-- Goes over `n` characters that are no breaks. -/
def advance (n : Nat) (c : Cursor) : Cursor :=
  { c with rest := c.rest.drop n, index := c.index + n, column := c.column + n }

/-- The characters up to the first one that fails a test. -/
def span (test : Char → Bool) (c : Cursor) : List Char × Cursor :=
  let cs := c.rest.takeWhile test
  (cs, c.advance cs.length)

def skip (test : Char → Bool) (c : Cursor) : Cursor := (c.span test).2

/-- Goes over a comment to the end of its line. -/
def skipComment (c : Cursor) : Cursor :=
  if c.head? = some '#' then c.skip (fun x => !isBreak x) else c

/-- Goes over a break. -/
def takeBreak? (c : Cursor) : Option (Char × Cursor) :=
  match c.rest with
  | '\r' :: '\n' :: rest => some ('\n', ⟨rest, c.index + 2, c.line + 1, 0⟩)
  | x :: rest =>
    if isBreak x then
      some (if isSeparator x then x else '\n', ⟨rest, c.index + 1, c.line + 1, 0⟩)
    else none
  | [] => none

/-- Whether the line begins with three of a character, and white space behind them. -/
def atMarker (mark : Char) (c : Cursor) : Bool :=
  c.column == 0 && c.rest.take 3 == [mark, mark, mark] && c.spaceAt 3

/-- Whether a document begins or ends here. -/
def atDocument (c : Cursor) : Bool := c.atMarker '-' || c.atMarker '.'

end Cursor

end TagGovernance.Yaml
