import TagGovernance.Pattern.Escape

/-!
# Bracketed sets of patterns

A set in brackets lists characters, ranges, classes and further bracketed sets. Such lists are
combined by `&&`, `--` and `~~` from left to right. The case variants of a list are added before it
is combined or negated.
-/

namespace TagGovernance.Pattern

open Unicode (Ranges)

inductive SetOp
  | inter
  | diff
  | symmDiff
  deriving DecidableEq, Repr

def SetOp.apply : SetOp → Ranges → Ranges → Ranges
  | inter, r, s => r.inter s
  | diff, r, s => r.diff s
  | symmDiff, r, s => r.symmDiff s

/-- A bracket that is not closed yet: what stands left of the last operator, and what has been
listed since. `nesting` is the depth of the closed brackets in it. -/
structure OpenBracket where
  negated : Bool
  left : Option (Ranges × SetOp) := none
  listed : Ranges := .empty
  nesting : Nat := 0

namespace OpenBracket

def add (set : Ranges) (b : OpenBracket) : OpenBracket := { b with listed := b.listed.union set }

/-- The set of what stands in the bracket so far. -/
def combined (f : Flags) (b : OpenBracket) : Ranges :=
  match b.left with
  | none => b.listed
  | some (left, op) => op.apply (f.fold left) (f.fold b.listed)

def operator (f : Flags) (op : SetOp) (b : OpenBracket) : OpenBracket :=
  { b with left := some (b.combined f, op), listed := .empty }

end OpenBracket

namespace Bracket

/-- Hyphens in front are characters of the set. -/
def leadingHyphens (f : Flags) (b : OpenBracket) : Nat → List Char → OpenBracket × List Char
  | fuel + 1, '-' :: rest => leadingHyphens f (b.add (.single '-'.toNat)) fuel (f.skip rest)
  | _, cs => (b, cs)

/-- What follows an opening bracket before its list: a caret that negates it, then hyphens or a
closing bracket that stand for themselves. -/
def opening (f : Flags) (cs : List Char) : OpenBracket × List Char :=
  let cs := f.skip cs
  let (negated, cs) := match cs with
    | '^' :: rest => (true, f.skip rest)
    | _ => (false, cs)
  let (b, cs') := leadingHyphens f ⟨negated, none, .empty, 0⟩ cs.length cs
  match cs' with
  | ']' :: rest => if b.listed.bounds.isEmpty then (b.add (.single ']'.toNat), f.skip rest) else (b, cs')
  | _ => (b, cs')

/-- A class of POSIX behind its opening bracket. -/
def posix? (f : Flags) : List Char → Option (Option Ranges × List Char)
  | ':' :: rest => do
    let (negated, rest) := match rest with
      | '^' :: rest => (true, rest)
      | _ => (false, rest)
    let (name, rest) ← Text.splitChars? ':' rest
    match rest with
    | ']' :: rest =>
      let (_, set) ← posixClasses.find? (fun entry => entry.1.toList = name)
      some (f.negate? negated (f.fold set), rest)
    | _ => none
  | _ => none

/-- A character that may be listed; without the Unicode flag it has to be ASCII. -/
def listed? (f : Flags) (c : Char) : Option Nat :=
  if f.unicode ∨ c.toNat < 0x80 then some c.toNat else none

/-- One end of a range, or an item on its own. -/
def item? (f : Flags) : List Char → Option (Escape × List Char)
  | '\\' :: rest => Escape.read? f rest
  | c :: rest => some (.char c false, rest)
  | [] => none

def char? (f : Flags) : Escape → Option Nat
  | .char c _ => listed? f c
  | _ => none

def alone? (f : Flags) : Escape → Option Ranges
  | .char c _ => (listed? f c).map Ranges.single
  | .set set => some set
  | .look _ => none

/-- An item or a range of characters. A hyphen before a closing bracket or another hyphen makes no
range. -/
def range? (f : Flags) (cs : List Char) : Option (Ranges × List Char) := do
  let (first, rest) ← item? f cs
  match f.skip rest with
  | [] => none
  | c :: behind =>
    let next := f.skip behind
    if c ≠ '-' ∨ next.head? = some ']' ∨ next.head? = some '-' then
      some (← alone? f first, c :: behind)
    else
      let (last, rest) ← item? f next
      let a ← char? f first
      let b ← char? f last
      if a ≤ b then some (Ranges.between a b, rest) else none

/-- Reads up to the end of the outermost bracket; `inner` is the bracket being read. -/
def read? (f : Flags) : Nat → OpenBracket → List OpenBracket → List Char →
    Option (Ranges × Nat × List Char)
  | 0, _, _, _ => none
  | fuel + 1, inner, outer, cs =>
    match f.skip cs with
    | [] => none
    | '[' :: rest =>
      match posix? f rest with
      | some (some set, rest) => read? f fuel (inner.add set) outer rest
      | some (none, _) => none
      | none =>
        let (b, rest) := opening f rest
        read? f fuel b (inner :: outer) rest
    | ']' :: rest =>
      match f.negate? inner.negated (f.fold (inner.combined f)) with
      | none => none
      | some set =>
        match outer with
        | [] => some (set, inner.nesting + 1, rest)
        | b :: outer =>
          read? f fuel { b.add set with nesting := max b.nesting (inner.nesting + 1) } outer rest
    | '&' :: '&' :: rest => read? f fuel (inner.operator f .inter) outer rest
    | '-' :: '-' :: rest => read? f fuel (inner.operator f .diff) outer rest
    | '~' :: '~' :: rest => read? f fuel (inner.operator f .symmDiff) outer rest
    | cs =>
      match range? f cs with
      | some (set, rest) => read? f fuel (inner.add set) outer rest
      | none => none

/-- A bracketed set, its depth of brackets and what follows it; the text begins behind the first
bracket. -/
def ofText? (f : Flags) (cs : List Char) : Option (Ranges × Nat × List Char) :=
  let (b, rest) := opening f cs
  read? f (cs.length + 1) b [] rest

end Bracket

end TagGovernance.Pattern
