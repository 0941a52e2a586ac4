import TagGovernance.Pattern.Class
import TagGovernance.Pattern.Node
import TagGovernance.Text.Blank

/-!
# Flags and escapes of patterns

What a backslash begins: a character, a class or a condition on the position. Without the Unicode
flag a pattern speaks of ASCII alone, and what could match half of a character is refused.
-/

namespace TagGovernance.Pattern

open Unicode (Ranges)

structure Flags where
  ignoreCase : Bool := false
  multiLine : Bool := false
  dotAll : Bool := false
  swapGreed : Bool := false
  unicode : Bool := true
  crlf : Bool := false
  /-- Blanks and comments in the pattern mean nothing. -/
  extended : Bool := false

/-- Passes over blanks, and over comments from `#` to the end of the line. -/
def skipBlanks (inComment : Bool) : List Char → List Char
  | [] => []
  | c :: rest =>
    if inComment then skipBlanks (c ≠ '\n') rest
    else if Text.isBlank c then skipBlanks false rest
    else if c = '#' then skipBlanks true rest
    else c :: rest

def Flags.skip (f : Flags) (cs : List Char) : List Char :=
  if f.extended then skipBlanks false cs else cs

/-- The case variants that a set is meant to have. -/
def Flags.fold (f : Flags) (set : Ranges) : Ranges :=
  if f.ignoreCase then (if f.unicode then set.closeCase else set.closeAsciiCase) else set

/-- The complement of a set, where it may be meant. -/
def Flags.negate? (f : Flags) (negated : Bool) (set : Ranges) : Option Ranges :=
  if negated then (if f.unicode then some set.complement else none) else some set

inductive Escape
  /-- A character; `byte` tells that it was given by two hexadecimal digits. -/
  | char (c : Char) (byte : Bool)
  | set (ranges : Ranges)
  | look (condition : Look)

namespace Escape

def charOf? (n : Nat) : Option Char :=
  if n ≤ Ranges.maxCodePoint ∧ ¬(0xD800 ≤ n ∧ n ≤ 0xDFFF) then some (Char.ofNat n) else none

/-- A number of exactly so many hexadecimal digits. -/
def fixedHex? (f : Flags) : Nat → Nat → List Char → Option (Nat × List Char)
  | 0, n, cs => some (n, cs)
  | count + 1, n, c :: rest => do
    let d ← Text.hexValue? c
    fixedHex? f count (16 * n + d) (f.skip rest)
  | _ + 1, _, [] => none

/-- What stands before a closing brace, without blanks if they mean nothing, and what follows. -/
def braced? (f : Flags) (cs : List Char) : Option (List Char × List Char) :=
  match Text.splitChars? '\x7d' cs with
  | some (inner, rest) =>
    if f.extended then
      let kept := skipAll inner inner.length
      some (kept, rest)
    else some (inner, rest)
  | none => none
where
  skipAll (cs : List Char) : Nat → List Char
    | 0 => []
    | fuel + 1 =>
      match skipBlanks false cs with
      | [] => []
      | c :: rest => c :: skipAll rest fuel

/-- A character by its number, with `digits` digits or in braces. -/
def hex? (f : Flags) (digits : Nat) (cs : List Char) : Option (Escape × List Char) := do
  match f.skip cs with
  | '\x7b' :: rest =>
    let (inner, rest) ← braced? f rest
    if inner.isEmpty then none
    let n ← inner.foldlM (fun n c => do some (16 * n + (← Text.hexValue? c))) 0
    some (.char (← charOf? n) false, f.skip rest)
  | cs =>
    let (n, rest) ← fixedHex? f digits 0 cs
    some (.char (← charOf? n) (digits = 2), rest)

/-- A Unicode property, with a name of one letter or in braces. -/
def property? (f : Flags) (negated : Bool) (cs : List Char) : Option (Escape × List Char) := do
  if ¬f.unicode then none
  let (name, rest) ← match f.skip cs with
    | '\x7b' :: rest => do
      let (inner, rest) ← braced? f rest
      some (String.ofList inner, rest)
    | c :: rest => if c = '\\' then none else some (String.singleton c, rest)
    | [] => none
  let (ranges, unequal) ← propertyClass? name
  let ranges ← f.negate? (negated != unequal) (f.fold ranges)
  some (.set ranges, f.skip rest)

def shortClass? (f : Flags) (negated : Bool) (c : ShortClass) : Option Escape :=
  (f.negate? negated (c.ranges f.unicode)).map .set

def word (f : Flags) : Ranges := ShortClass.word.ranges f.unicode

/-- The word borders that are named in braces. -/
def namedBorder? (f : Flags) : String → Option Look
  | "start" => some (.wordStart (word f))
  | "end" => some (.wordEnd (word f))
  | "start-half" => some (.wordStartHalf (word f))
  | "end-half" => some (.wordEndHalf (word f))
  | _ => none

/-- A word border; a name in braces may follow, but digits there are a repetition. -/
def wordBorder? (f : Flags) : List Char → Option (Escape × List Char)
  | '\x7b' :: rest =>
    match f.skip rest with
    | [] => none
    | c :: inner =>
      if c.isAlpha ∨ c = '-' then do
        let (name, rest) ← braced? f (c :: inner)
        some (.look (← namedBorder? f (String.ofList name)), rest)
      else some (.look (.wordBoundary (word f)), '\x7b' :: rest)
  | rest => some (.look (.wordBoundary (word f)), rest)

/-- Whether a character may be escaped to stand for itself. -/
def isEscapable (c : Char) : Bool :=
  c.toNat < 0x80 && !c.isAlphanum && c ≠ '<' && c ≠ '>'

/-- What stands behind a backslash. -/
def read? (f : Flags) : List Char → Option (Escape × List Char)
  | [] => none
  | c :: rest =>
    if isEscapable c then some (.char c false, rest)
    else match c with
      | 'x' => hex? f 2 rest
      | 'u' => hex? f 4 rest
      | 'U' => hex? f 8 rest
      | 'p' => property? f false rest
      | 'P' => property? f true rest
      | 'd' => (shortClass? f false .digit).map (·, rest)
      | 'D' => (shortClass? f true .digit).map (·, rest)
      | 's' => (shortClass? f false .space).map (·, rest)
      | 'S' => (shortClass? f true .space).map (·, rest)
      | 'w' => (shortClass? f false .word).map (·, rest)
      | 'W' => (shortClass? f true .word).map (·, rest)
      | 'a' => some (.char '\x07' false, rest)
      | 'f' => some (.char '\x0c' false, rest)
      | 't' => some (.char '\t' false, rest)
      | 'n' => some (.char '\n' false, rest)
      | 'r' => some (.char '\r' false, rest)
      | 'v' => some (.char '\x0b' false, rest)
      | 'A' => some (.look .textStart, rest)
      | 'z' => some (.look .textEnd, rest)
      | 'b' => wordBorder? f rest
      | 'B' => some (.look (.noWordBoundary (word f)), rest)
      | '<' => some (.look (.wordStart (word f)), rest)
      | '>' => some (.look (.wordEnd (word f)), rest)
      | _ => none

end Escape

end TagGovernance.Pattern
