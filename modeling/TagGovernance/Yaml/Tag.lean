import TagGovernance.Text.Numeral
import TagGovernance.Yaml.Cursor

/-!
# YAML tags

A tag says what a node is. It is written with a handle that stands for the beginning of its name,
or in full between angles. Characters of a name may be given by their UTF-8 octets.
-/

namespace TagGovernance.Yaml

/-- The octets of a tag's name. -/
abbrev TagName := List UInt8

def octets (s : String) : TagName := s.toUTF8.data.toList

def TagName.text? (name : TagName) : Option String := String.fromUTF8? ⟨name.toArray⟩

/-- Whether a character can stand in a name; between angles brackets and commas can, too. -/
def isTagChar (verbatim : Bool) (x : Char) : Bool :=
  isNameChar x || ";/?:@&=+$.!~*'()".toList.contains x || (verbatim && ",[]".toList.contains x)

/-- Reads a percent sign and two hexadecimal digits. -/
def octet? (c : Cursor) : Option (UInt8 × Cursor) :=
  match c.rest with
  | '%' :: a :: b :: _ => do
    let n := 16 * (← Text.hexValue? a) + (← Text.hexValue? b)
    some (n.toUInt8, c.advance 3)
  | _ => none

/-- How many octets follow the first one of a character. -/
def followers? (first : UInt8) : Option Nat :=
  if first &&& 0x80 == 0 then some 0
  else if first &&& 0xE0 == 0xC0 then some 1
  else if first &&& 0xF0 == 0xE0 then some 2
  else if first &&& 0xF8 == 0xF0 then some 3
  else none

/-- Reads octets behind the first one of a character. -/
def following? : Nat → TagName → Cursor → Option (TagName × Cursor)
  | 0, done, c => some (done, c)
  | n + 1, done, c => do
    let (x, c) ← octet? c
    if x &&& 0xC0 == 0x80 then following? n (done ++ [x]) c else none

/-- Reads a character that is given by its octets. -/
def escapedChar? (c : Cursor) : Option (TagName × Cursor) := do
  let (first, c) ← octet? c
  following? (← followers? first) [first] c

/-- Reads the characters of a name. -/
def tagChars? (verbatim : Bool) : Nat → TagName → Cursor → Option (TagName × Cursor)
  | 0, _, _ => none
  | fuel + 1, done, c =>
    match c.head? with
    | some '%' => do
      let (xs, c) ← escapedChar? c
      tagChars? verbatim fuel (done ++ xs) c
    | some x =>
      if isTagChar verbatim x then tagChars? verbatim fuel (done ++ [x.toNat.toUInt8]) (c.advance 1)
      else some (done, c)
    | none => some (done, c)

/-- Reads a name that is not empty. -/
def tagName? (verbatim : Bool) (c : Cursor) : Option (TagName × Cursor) := do
  let (name, c) ← tagChars? verbatim (c.rest.length + 1) [] c
  if name.isEmpty then none else some (name, c)

/-- Reads a handle with an exclamation mark at either end. -/
def handle? (c : Cursor) : Option (String × Cursor) :=
  if c.head? = some '!' then
    let (name, next) := (c.advance 1).span isNameChar
    if next.head? = some '!' then some (String.ofList ('!' :: name ++ ['!']), next.advance 1)
    else none
  else none

/-- A tag as it is written. -/
structure TagToken where
  /-- What stands for the beginning of the name; nothing if the name is written in full. -/
  handle : String
  rest : TagName
  deriving DecidableEq, Repr

/-- Reads a tag at an exclamation mark. -/
def tagBody? (c : Cursor) : Option (TagToken × Cursor) :=
  if c.rest[1]? = some '<' then do
    let (name, c) ← tagName? true (c.advance 2)
    if c.head? = some '>' then some (⟨"", name⟩, c.advance 1) else none
  else match handle? c with
  | some (handle, c) => do
    let (rest, c) ← tagName? false c
    some (⟨handle, rest⟩, c)
  | none => do
    let (rest, c) ← tagChars? false (c.rest.length + 1) [] (c.advance 1)
    if rest.isEmpty then some (⟨"", octets "!"⟩, c) else some (⟨"!", rest⟩, c)

/-- Reads a tag, which has to end at white space or, in a flow collection, at a comma. -/
def tag? (inFlow : Bool) (c : Cursor) : Option (TagToken × Cursor) := do
  let (tag, c) ← tagBody? c
  if c.spaceAt 0 || (inFlow && c.head? = some ',') then some (tag, c) else none

end TagGovernance.Yaml
