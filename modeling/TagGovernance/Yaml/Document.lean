import TagGovernance.Keyed
import TagGovernance.Yaml.Token

/-!
# YAML documents of one mapping

The document that a text holds, if it holds exactly one and that is a mapping of scalars to scalars,
or nothing. Any node may have an anchor; an alias stands for the scalar that its anchor was last
given to.
-/

namespace TagGovernance.Yaml

structure Scalar where
  style : Style
  tag : Option TagName
  text : String
  deriving DecidableEq, Repr

/-- A key or a value as it is written. -/
inductive Node
  | scalar (anchor : Option String) (scalar : Scalar)
  | alias (name : String)

/-- What comes before the root of a document. -/
structure Directives where
  version : Bool := false
  /-- Declared handles with what they stand for. -/
  handles : List (String × TagName) := []

namespace Directives

def standard : List (String × TagName) := [("!", octets "!"), ("!!", octets "tag:yaml.org,2002:")]

/-- The full name of a tag. -/
def resolve? (d : Directives) (tag : TagToken) : Option TagName :=
  if tag.handle = "" then some tag.rest
  else (Keyed.find? tag.handle (d.handles ++ standard)).map (· ++ tag.rest)

/-- Reads directives. There is at most one version, which is 1.1 or 1.2, and one declaration of a
handle. -/
def read? (d : Directives) : List Token → Option (Directives × List Token)
  | .version major minor :: rest =>
    if d.version || major ≠ 1 || (minor ≠ 1 && minor ≠ 2) then none
    else read? { d with version := true } rest
  | .handle handle start :: rest =>
    if (Keyed.find? handle d.handles).isSome then none
    else read? { d with handles := (handle, start) :: d.handles } rest
  | rest => some (d, rest)

end Directives

/-- The anchor and the tag of a node. -/
structure Properties where
  anchor : Option String := none
  tag : Option TagName := none

namespace Properties

def isEmpty (p : Properties) : Bool := p.anchor.isNone && p.tag.isNone

/-- Reads properties, which stand in either order. -/
def read? (d : Directives) : List Token → Option (Properties × List Token)
  | .anchor name :: .tag tag :: rest => do some (⟨some name, ← d.resolve? tag⟩, rest)
  | .tag tag :: .anchor name :: rest => do some (⟨some name, ← d.resolve? tag⟩, rest)
  | .anchor name :: rest => some (⟨some name, none⟩, rest)
  | .tag tag :: rest => do some (⟨none, ← d.resolve? tag⟩, rest)
  | rest => some ({}, rest)

/-- A scalar that is not written. -/
def empty (p : Properties) : Node := .scalar p.anchor ⟨.plain, p.tag, ""⟩

/-- The tag `!` says nothing about a scalar. -/
def scalar (p : Properties) (style : Style) (text : String) : Node :=
  .scalar p.anchor ⟨style, if p.tag = some (octets "!") then none else p.tag, text⟩

end Properties

namespace Node

/-- A node that is not there. -/
def missing : Node := Properties.empty {}

/-- Reads a scalar or an alias. -/
def read? (d : Directives) : List Token → Option (Node × List Token)
  | .alias name :: rest => some (.alias name, rest)
  | tokens => do
    let (p, rest) ← Properties.read? d tokens
    match rest with
    | .scalar style text :: rest => some (p.scalar style text, rest)
    | .blockStart :: _ | .flowStart :: _ => none
    | rest => if p.isEmpty then none else some (p.empty, rest)

/-- Reads a node that may be missing in front of some tokens. -/
def readBefore? (d : Directives) (ends : List Token) (tokens : List Token) :
    Option (Node × List Token) :=
  if tokens.head?.any ends.contains then some (missing, tokens) else read? d tokens

end Node

abbrev Entry := Node × Node

namespace Entry

/-- Reads the value behind a key. -/
def value? (d : Directives) (ends : List Token) : List Token → Option (Node × List Token)
  | .value :: rest => Node.readBefore? d ends rest
  | rest => some (Node.missing, rest)

/-- Reads the entries of a block mapping to its end. -/
def block? (d : Directives) : Nat → List Entry → List Token → Option (List Entry × List Token)
  | 0, _, _ => none
  | fuel + 1, entries, tokens =>
    match tokens with
    | .blockEnd :: rest => some (entries, rest)
    | .key :: rest => do
      let (key, rest) ← Node.readBefore? d [.key, .value, .blockEnd] rest
      let (value, rest) ← value? d [.key, .value, .blockEnd] rest
      block? d fuel (entries ++ [(key, value)]) rest
    | _ => none

/-- Reads an entry of a flow mapping. A key without an indicator has no value. -/
def flow? (d : Directives) : List Token → Option (Entry × List Token)
  | .key :: rest => do
    let (key, rest) ← Node.readBefore? d [.value, .comma, .flowEnd] rest
    let (value, rest) ← value? d [.comma, .flowEnd] rest
    some ((key, value), rest)
  | rest => do
    let (key, rest) ← Node.read? d rest
    some ((key, Node.missing), rest)

/-- Reads the entries of a flow mapping behind its beginning. A comma may stand behind the last
one. -/
def flows? (d : Directives) : Nat → List Entry → List Token → Option (List Entry × List Token)
  | 0, _, _ => none
  | fuel + 1, entries, tokens =>
    match tokens with
    | .flowEnd :: rest => some (entries, rest)
    | tokens => do
      let (entry, rest) ← flow? d tokens
      match rest with
      | .comma :: rest => flows? d fuel (entries ++ [entry]) rest
      | .flowEnd :: rest => some (entries ++ [entry], rest)
      | _ => none

end Entry

/-- What anchors were given to; a collection is `none`. -/
abbrev Anchors := List (String × Option Scalar)

namespace Anchors

/-- The scalar that a node stands for, and the anchors behind it. -/
def scalar? (anchors : Anchors) : Node → Option (Scalar × Anchors)
  | .scalar (some name) s => some (s, (name, some s) :: anchors)
  | .scalar none s => some (s, anchors)
  | .alias name => do
    let s ← ← Keyed.find? name anchors
    some (s, anchors)

/-- The scalars of entries in the order in which they are written. -/
def entries? (anchors : Anchors) : List Entry → Option (List (Scalar × Scalar))
  | [] => some []
  | (key, value) :: rest => do
    let (key, anchors) ← anchors.scalar? key
    let (value, anchors) ← anchors.scalar? value
    some ((key, value) :: (← entries? anchors rest))

end Anchors

namespace Document

/-- Reads a root that is a mapping of scalars, or an empty scalar. -/
def root? (d : Directives) (tokens : List Token) :
    Option (List (Scalar × Scalar) × List Token) := do
  let (p, rest) ← Properties.read? d tokens
  let anchors : Anchors := p.anchor.toList.map (·, none)
  let (entries, rest) ← match rest with
    | .blockStart :: rest => Entry.block? d (rest.length + 1) [] rest
    | .flowStart :: rest => Entry.flows? d (rest.length + 1) [] rest
    | .scalar _ _ :: _ => none
    | rest => if p.isEmpty then none else some ([], rest)
  some (← anchors.entries? entries, rest)

/-- Whether a document that is begun explicitly has no root. -/
def isOver : List Token → Bool
  | [] | .version _ _ :: _ | .handle _ _ :: _ | .documentStart :: _ | .documentEnd :: _ => true
  | _ => false

/-- Reads a document with its directives. Only one that has none can do without its start. -/
def read? (tokens : List Token) : Option (List (Scalar × Scalar) × List Token) := do
  let (d, rest) ← Directives.read? {} tokens
  match rest with
  | .documentStart :: rest => if isOver rest then some ([], rest) else root? d rest
  | [] => if tokens.isEmpty then some ([], []) else none
  | rest => if tokens.length = rest.length then root? d rest else none

/-- The entries of the only document of a text. -/
def ofText? (text : String) : Option (List (Scalar × Scalar)) := do
  let (entries, rest) ← read? (← tokens? text.toList)
  if rest.all (· = .documentEnd) then some entries else none

end Document

end TagGovernance.Yaml
