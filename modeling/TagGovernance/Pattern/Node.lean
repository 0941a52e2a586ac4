import TagGovernance.Unicode.Property

/-!
# Patterns as trees

A pattern is a tree over sets of characters and conditions on a position. What it matches is given
by the positions that can be reached: `Node.reach` takes the positions where a match of the tree may
begin to those where it may end.
-/

namespace TagGovernance.Pattern

open Unicode (Ranges)

/-- Conditions on a position of the text. -/
inductive Look
  | textStart
  | textEnd
  | lineStart
  | lineEnd
  /-- Line borders where a carriage return and a line feed together end a line. -/
  | crlfStart
  | crlfEnd
  | wordBoundary (word : Ranges)
  | noWordBoundary (word : Ranges)
  | wordStart (word : Ranges)
  | wordEnd (word : Ranges)
  | wordStartHalf (word : Ranges)
  | wordEndHalf (word : Ranges)

inductive Node
  | empty
  /-- One character of a set; `nesting` is how deep the brackets that it was written with are. -/
  | chars (set : Ranges) (nesting : Nat)
  | look (condition : Look)
  | repeated (least : Nat) (most : Option Nat) (node : Node)
  | group (node : Node)
  | concat (nodes : List Node)
  | choice (nodes : List Node)

namespace Look

def isIn (set : Ranges) : Option Char → Bool
  | some c => set.contains c.toNat
  | none => false

/-- Whether a condition holds between two characters, which are missing at the ends of the text. -/
def holds (before after : Option Char) : Look → Bool
  | textStart => before.isNone
  | textEnd => after.isNone
  | lineStart => before.isNone || before = some '\n'
  | lineEnd => after.isNone || after = some '\n'
  | crlfStart => before.isNone || before = some '\n' || (before = some '\r' && after ≠ some '\n')
  | crlfEnd => after.isNone || after = some '\r' || (after = some '\n' && before ≠ some '\r')
  | wordBoundary word => isIn word before != isIn word after
  | noWordBoundary word => isIn word before == isIn word after
  | wordStart word => !isIn word before && isIn word after
  | wordEnd word => isIn word before && !isIn word after
  | wordStartHalf word => !isIn word before
  | wordEndHalf word => !isIn word after

end Look

/-- Positions of a text in ascending order. -/
abbrev Positions := List Nat

namespace Positions

def insert (i : Nat) : Positions → Positions
  | [] => [i]
  | j :: rest => if i < j then i :: j :: rest else if i = j then j :: rest else j :: insert i rest

def union (a b : Positions) : Positions := a.foldl (fun s i => insert i s) b

end Positions

/-- The positions reached by any number of steps, at most `fuel` of them. -/
def closure (step : Positions → Positions) : Nat → Positions → Positions
  | 0, s => s
  | fuel + 1, s =>
    let next := s.union (step s)
    if next.length = s.length then s else closure step fuel next

/-- The positions reached by exactly `n` steps; from nowhere there is no step. -/
def exactly (step : Positions → Positions) : Nat → Positions → Positions
  | 0, s => s
  | n + 1, s => if s.isEmpty then s else exactly step n (step s)

namespace Node

mutual

def reach (text : Array Char) (s : Positions) : Node → Positions
  | empty => s
  | chars set _ => s.filterMap fun i =>
      match text[i]? with
      | some c => if set.contains c.toNat then some (i + 1) else none
      | none => none
  | look condition => s.filter fun i =>
      condition.holds (if i = 0 then none else text[i - 1]?) text[i]?
  | repeated least most node =>
    let begun := exactly (fun s => reach text s node) least s
    match most with
    | none => closure (fun s => reach text s node) (text.size + 1) begun
    | some most => closure (fun s => reach text s node) (most - least) begun
  | group node => reach text s node
  | concat nodes => reachAll text s nodes
  | choice nodes => reachAny text s nodes

/-- One tree behind the other. -/
def reachAll (text : Array Char) (s : Positions) : List Node → Positions
  | [] => s
  | node :: rest => reachAll text (reach text s node) rest

/-- One of the trees. -/
def reachAny (text : Array Char) (s : Positions) : List Node → Positions
  | [] => []
  | node :: rest => Positions.union (reach text s node) (reachAny text s rest)

end

/-- Whether the pattern matches somewhere in the text. -/
def isMatch (node : Node) (text : String) : Bool :=
  let chars := text.toList.toArray
  !(reach chars (List.range (chars.size + 1)) node).isEmpty

mutual

/-- How deep groups, repetitions, sequences, choices and brackets are nested. -/
def depth : Node → Nat
  | empty => 0
  | chars _ nesting => nesting
  | look _ => 0
  | repeated _ _ node => depth node + 1
  | group node => depth node + 1
  | concat nodes => depths nodes + 1
  | choice nodes => depths nodes + 1

def depths : List Node → Nat
  | [] => 0
  | node :: rest => max (depth node) (depths rest)

end

mutual

/-- Whether only the empty text is matched. -/
def isBlind : Node → Bool
  | empty => true
  | chars _ _ => false
  | look _ => true
  | repeated _ most node => most == some 0 || isBlind node
  | group node => isBlind node
  | concat nodes => areBlind nodes
  | choice nodes => areBlind nodes

def areBlind : List Node → Bool
  | [] => true
  | node :: rest => isBlind node && areBlind rest

end

/-- Bytes taken by one state of a compiled pattern, by one of its choices and by one of its ranges of
bytes, and by a range of characters that are several bytes long. -/
def stateSize : Nat := 32
def choiceSize : Nat := 4
def byteRangeSize : Nat := 8
def charRangeSize : Nat := 66

/-- The size of a set of characters. -/
def setSize (set : Ranges) : Nat :=
  match set.bounds with
  | [] => stateSize
  | [(a, b)] =>
    if b < 0x80 then stateSize
    else if a = b then stateSize * (if b < 0x800 then 2 else if b < 0x10000 then 3 else 4)
    else stateSize + charRangeSize
  | bounds =>
    if set.isBelow 0x7F then stateSize + byteRangeSize * bounds.length
    else stateSize + charRangeSize * bounds.length

mutual

/-- The size of a compiled pattern, in which a repeated part is compiled again for each time. What
matches the empty text alone need not be repeated more than once. -/
def size : Node → Nat
  | empty => stateSize
  | chars set _ => setSize set
  | look _ => stateSize
  | repeated least most node =>
    let least := if isBlind node then min least 1 else least
    let once := size node
    match most with
    | none => (max least 1) * once + stateSize + 2 * choiceSize
    | some most =>
      let most := if isBlind node then min most 1 else most
      least * once + (most - least) * (once + stateSize + 2 * choiceSize)
  | group node => size node + 2 * stateSize
  | concat nodes => sizes nodes
  | choice nodes => sizes nodes + 2 * stateSize + choiceSize * nodes.length

def sizes : List Node → Nat
  | [] => 0
  | node :: rest => size node + sizes rest

end

end Node

end TagGovernance.Pattern
