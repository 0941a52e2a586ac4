import TagGovernance.Unicode.CaseFolding
import TagGovernance.Unicode.NamedProperty
import TagGovernance.Unicode.Script

/-!
# Character classes by name

The classes that a pattern can name: digits, white space and word characters, the classes of POSIX
between colons, and Unicode properties.
-/

namespace TagGovernance.Pattern

open Unicode (Ranges Category NamedProperty Script)

/-- The classes with one-letter names. -/
inductive ShortClass
  | digit
  | space
  | word
  deriving DecidableEq, Repr

def asciiWord : Ranges := Ranges.ofText "30-39 41-5A 5F 61-7A"

def ShortClass.ranges (unicode : Bool) : ShortClass → Ranges
  | digit => if unicode then Category.decimalNumberRanges else Ranges.ofText "30-39"
  | space => if unicode then Unicode.whiteSpace else Ranges.ofText "9-D 20"
  | word => if unicode then Unicode.wordCharacters else asciiWord

/-- The classes of POSIX, which hold ASCII characters alone. -/
def posixClasses : List (String × Ranges) :=
  [("alnum", Ranges.ofText "30-39 41-5A 61-7A"),
   ("alpha", Ranges.ofText "41-5A 61-7A"),
   ("ascii", Ranges.ofText "0-7F"),
   ("blank", Ranges.ofText "9 20"),
   ("cntrl", Ranges.ofText "0-1F 7F"),
   ("digit", Ranges.ofText "30-39"),
   ("graph", Ranges.ofText "21-7E"),
   ("lower", Ranges.ofText "61-7A"),
   ("print", Ranges.ofText "20-7E"),
   ("punct", Ranges.ofText "21-2F 3A-40 5B-60 7B-7E"),
   ("space", Ranges.ofText "9-D 20"),
   ("upper", Ranges.ofText "41-5A"),
   ("word", asciiWord),
   ("xdigit", Ranges.ofText "30-39 41-46 61-66")]

/-- The names of general categories, in their compared form. -/
def categoryNames : List (List String × List Category) :=
  [(["lu", "uppercaseletter"], [.uppercaseLetter]),
   (["ll", "lowercaseletter"], [.lowercaseLetter]),
   (["lt", "titlecaseletter"], [.titlecaseLetter]),
   (["lc", "casedletter"], [.uppercaseLetter, .lowercaseLetter, .titlecaseLetter]),
   (["lm", "modifierletter"], [.modifierLetter]),
   (["lo", "otherletter"], [.otherLetter]),
   (["l", "letter"],
    [.uppercaseLetter, .lowercaseLetter, .titlecaseLetter, .modifierLetter, .otherLetter]),
   (["mn", "nonspacingmark"], [.nonspacingMark]),
   (["mc", "spacingmark"], [.spacingMark]),
   (["me", "enclosingmark"], [.enclosingMark]),
   (["m", "mark", "combiningmark"], [.nonspacingMark, .spacingMark, .enclosingMark]),
   (["nd", "decimalnumber", "digit"], [.decimalNumber]),
   (["nl", "letternumber"], [.letterNumber]),
   (["no", "othernumber"], [.otherNumber]),
   (["n", "number"], [.decimalNumber, .letterNumber, .otherNumber]),
   (["pc", "connectorpunctuation"], [.connectorPunctuation]),
   (["pd", "dashpunctuation"], [.dashPunctuation]),
   (["ps", "openpunctuation"], [.openPunctuation]),
   (["pe", "closepunctuation"], [.closePunctuation]),
   (["pi", "initialpunctuation"], [.initialPunctuation]),
   (["pf", "finalpunctuation"], [.finalPunctuation]),
   (["po", "otherpunctuation"], [.otherPunctuation]),
   (["p", "punctuation", "punct"],
    [.connectorPunctuation, .dashPunctuation, .openPunctuation, .closePunctuation,
     .initialPunctuation, .finalPunctuation, .otherPunctuation]),
   (["sm", "mathsymbol"], [.mathSymbol]),
   (["sc", "currencysymbol"], [.currencySymbol]),
   (["sk", "modifiersymbol"], [.modifierSymbol]),
   (["so", "othersymbol"], [.otherSymbol]),
   (["s", "symbol"], [.mathSymbol, .currencySymbol, .modifierSymbol, .otherSymbol]),
   (["zs", "spaceseparator"], [.spaceSeparator]),
   (["zl", "lineseparator"], [.lineSeparator]),
   (["zp", "paragraphseparator"], [.paragraphSeparator]),
   (["z", "separator"], [.spaceSeparator, .lineSeparator, .paragraphSeparator]),
   (["cc", "control", "cntrl"], [.control]),
   (["cf", "format"], [.format]),
   (["co", "privateuse"], [.privateUse]),
   (["cn", "unassigned"], [.unassigned]),
   (["c", "other"], [.control, .format, .surrogate, .privateUse, .unassigned])]

/-- A name as it is compared: in lower case, without blanks, hyphens and underscores, and without
`is` before it unless only a `c` would be left. -/
def comparedName (name : String) : String :=
  let plain (cs : List Char) := (cs.filter fun c => c ≠ ' ' ∧ c ≠ '_' ∧ c ≠ '-' ∧ c.toNat < 0x80).map
    Char.toLower
  match name.toList with
  | i :: s :: rest =>
    if (i = 'i' ∨ i = 'I') ∧ (s = 's' ∨ s = 'S') then
      if plain rest = ['c'] then "isc" else String.ofList (plain rest)
    else String.ofList (plain (i :: s :: rest))
  | cs => String.ofList (plain cs)

def category? (name : String) : Option Ranges :=
  if name = "any" then some (Ranges.between 0 Ranges.maxCodePoint)
  else if name = "assigned" then some Category.assigned
  else if name = "ascii" then some (Ranges.between 0 0x7F)
  else (categoryNames.find? (fun entry => entry.1.contains name)).map fun entry =>
    Ranges.unions (entry.2.map Category.ranges)

def script? (name : String) : Option Ranges :=
  (Script.all.find? (fun s => comparedName s.code = name ∨ comparedName s.name = name)).map
    Script.ranges

/-- A property that is named alone. Three names are those of a category although they are short for
a property too. -/
def namedClass? (name : String) : Option Ranges :=
  let name := comparedName name
  let property :=
    if name = "cf" ∨ name = "sc" ∨ name = "lc" then none
    else NamedProperty.all.find? (fun p => p.names.contains name)
  match property with
  | some p => some p.ranges
  | none => (category? name).or (script? name)

/-- A property with its value. -/
def valuedClass? (property value : String) : Option Ranges :=
  let property := comparedName property
  if property = "gc" ∨ property = "generalcategory" then category? (comparedName value)
  else if property = "sc" ∨ property = "script" then script? (comparedName value)
  else none

/-- The class that stands between the braces of a property, and whether it is meant negated. -/
def propertyClass? (text : String) : Option (Ranges × Bool) :=
  let cut (sign : Char) := Text.splitFirst? sign text
  match cut '!' with
  | some (property, rest) =>
    match Text.afterStart? "=" rest with
    | some value => (valuedClass? property value).map (·, true)
    | none => plainOrValued cut
  | none => plainOrValued cut
where
  plainOrValued (cut : Char → Option (String × String)) : Option (Ranges × Bool) :=
    match cut ':' with
    | some (property, value) => (valuedClass? property value).map (·, false)
    | none =>
      match cut '=' with
      | some (property, value) => (valuedClass? property value).map (·, false)
      | none => (namedClass? text).map (·, false)

end TagGovernance.Pattern
