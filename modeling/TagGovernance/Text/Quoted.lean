import TagGovernance.Unicode.Property

/-!
# Quoted text with escapes

A text in double quotes in which every character can be told: quotes, backslashes and common
controls have an escape of their own, and a character that does not print or that joins the one
before it is given by its number.
-/

namespace TagGovernance.Text

def quotedChar (c : Char) : List Char :=
  if c = '\x00' then ['\\', '0']
  else if c = '\t' then ['\\', 't']
  else if c = '\r' then ['\\', 'r']
  else if c = '\n' then ['\\', 'n']
  else if c = '"' ∨ c = '\\' then ['\\', c]
  else if Unicode.graphemeExtend.contains c.toNat || !Unicode.printable.contains c.toNat then
    ['\\', 'u', '\x7b'] ++ hex c.toNat ++ ['\x7d']
  else [c]

def quote (s : String) : String := "\"" ++ String.ofList (s.toList.flatMap quotedChar) ++ "\""

end TagGovernance.Text
