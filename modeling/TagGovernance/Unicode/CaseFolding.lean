import TagGovernance.Unicode.Ranges

/-!
# Simple case folding

The simple case folding of Unicode takes each character to one that stands for all its case
variants. Two characters are variants of each other when they fold to the same one.
-/

namespace TagGovernance.Unicode

/-- Code points `first`, `first + step`, ... up to `last` fold to the code points that many places
further on or back. -/
structure FoldRun where
  first : Nat
  last : Nat
  step : Nat
  forward : Bool
  distance : Nat

namespace FoldRun

/-- Reads runs such as `41-5A+20`, `100-12E/2+1` and `1E9E-1DBF`; the last sign stands before the
distance. -/
def read (word : String) : FoldRun :=
  let (span, step) := match Text.splitFirst? '/' word with
    | some (span, behind) => (span ++ String.ofList (behind.toList.drop 1), 2)
    | none => (word, 1)
  let (bounds, forward, distance) := match Text.splitLast? '+' span with
    | some (bounds, distance) => (bounds, true, distance)
    | none => match Text.splitLast? '-' span with
      | some (bounds, distance) => (bounds, false, distance)
      | none => (span, true, "0")
  let (first, last) := match Text.splitFirst? '-' bounds with
    | some (first, last) => (first, last)
    | none => (bounds, bounds)
  ⟨readHex first, readHex last, step, forward, readHex distance⟩

def contains (run : FoldRun) (n : Nat) : Bool :=
  run.first ≤ n && n ≤ run.last && (n - run.first) % run.step == 0

def apply (run : FoldRun) (n : Nat) : Nat :=
  if run.forward then n + run.distance else n - run.distance

end FoldRun

def foldRuns : List FoldRun := (words
  "41-5A+20 B5+307 C0-D6+20 D8-DE+20 100-12E/2+1 132-136/2+1 139-147/2+1 14A-176/2+1 178-79
  179-17D/2+1 17F-10C 181+D2 182+1 184+1 186+CE 187+1 189-18A+CD 18B+1 18E+4F 18F+CA 190+CB
  191+1 193+CD 194+CF 196+D3 197+D1 198+1 19C+D3 19D+D5 19F+D6 1A0-1A4/2+1 1A6+DA 1A7+1 1A9+DA
  1AC+1 1AE+DA 1AF+1 1B1-1B2+D9 1B3+1 1B5+1 1B7+DB 1B8+1 1BC+1 1C4+2 1C5+1 1C7+2 1C8+1 1CA+2
  1CB-1DB/2+1 1DE-1EE/2+1 1F1+2 1F2+1 1F4+1 1F6-61 1F7-38 1F8-21E/2+1 220-82 222-232/2+1
  23A+2A2B 23B+1 23D-A3 23E+2A28 241+1 243-C3 244+45 245+47 246-24E/2+1 345+74 370+1 372+1 376+1
  37F+74 386+26 388-38A+25 38C+40 38E-38F+3F 391-3A1+20 3A3-3AB+20 3C2+1 3CF+8 3D0-1E 3D1-19
  3D5-F 3D6-16 3D8-3EE/2+1 3F0-36 3F1-30 3F4-3C 3F5-40 3F7+1 3F9-7 3FA+1 3FD-3FF-82 400-40F+50
  410-42F+20 460-480/2+1 48A-4BE/2+1 4C0+F 4C1-4CD/2+1 4D0-52E/2+1 531-556+30 10A0-10C5+1C60
  10C7+1C60 10CD+1C60 13F8-13FD-8 1C80-184E 1C81-184D 1C82-1844 1C83-1C84-1842 1C85-1843
  1C86-183C 1C87-1824 1C88+89C3 1C90-1CBA-BC0 1CBD-1CBF-BC0 1E00-1E94/2+1 1E9B-3A 1E9E-1DBF
  1EA0-1EFE/2+1 1F08-1F0F-8 1F18-1F1D-8 1F28-1F2F-8 1F38-1F3F-8 1F48-1F4D-8 1F59-1F5F/2-8
  1F68-1F6F-8 1F88-1F8F-8 1F98-1F9F-8 1FA8-1FAF-8 1FB8-1FB9-8 1FBA-1FBB-4A 1FBC-9 1FBE-1C05
  1FC8-1FCB-56 1FCC-9 1FD8-1FD9-8 1FDA-1FDB-64 1FE8-1FE9-8 1FEA-1FEB-70 1FEC-7 1FF8-1FF9-80
  1FFA-1FFB-7E 1FFC-9 2126-1D5D 212A-20BF 212B-2046 2132+1C 2160-216F+10 2183+1 24B6-24CF+1A
  2C00-2C2F+30 2C60+1 2C62-29F7 2C63-EE6 2C64-29E7 2C67-2C6B/2+1 2C6D-2A1C 2C6E-29FD 2C6F-2A1F
  2C70-2A1E 2C72+1 2C75+1 2C7E-2C7F-2A3F 2C80-2CE2/2+1 2CEB+1 2CED+1 2CF2+1 A640-A66C/2+1
  A680-A69A/2+1 A722-A72E/2+1 A732-A76E/2+1 A779+1 A77B+1 A77D-8A04 A77E-A786/2+1 A78B+1
  A78D-A528 A790+1 A792+1 A796-A7A8/2+1 A7AA-A544 A7AB-A54F A7AC-A54B A7AD-A541 A7AE-A544
  A7B0-A512 A7B1-A52A A7B2-A515 A7B3+3A0 A7B4-A7C2/2+1 A7C4-30 A7C5-A543 A7C6-8A38 A7C7+1 A7C9+1
  A7D0+1 A7D6+1 A7D8+1 A7F5+1 AB70-ABBF-97D0 FF21-FF3A+20 10400-10427+28 104B0-104D3+28
  10570-1057A+27 1057C-1058A+27 1058C-10592+27 10594-10595+27 10C80-10CB2+40 118A0-118BF+20
  16E40-16E5F+20 1E900-1E921+22").map FoldRun.read

/-- All code points of a run with what they fold to. -/
def FoldRun.pairs (run : FoldRun) : List (Nat × Nat) :=
  (List.range (run.last - run.first + 1)).filterMap fun i =>
    let n := run.first + i
    if run.contains n then some (n, run.apply n) else none

/-- All code points that do not fold to themselves, with what they fold to. -/
def foldPairs : List (Nat × Nat) := foldRuns.flatMap FoldRun.pairs

/-- A set with all case variants of its members. -/
def Ranges.closeCase (r : Ranges) : Ranges :=
  let hits := (foldPairs.filter fun (n, folded) => r.contains n || r.contains folded).map Prod.snd
  let variants := foldPairs.filter fun (_, folded) => hits.contains folded
  r.union (Ranges.ofBounds (variants.flatMap fun (n, folded) => [(n, n), (folded, folded)]))

/-- A set of ASCII characters with both cases of its letters. -/
def Ranges.closeAsciiCase (r : Ranges) : Ranges :=
  let variants := (List.range 26).filter fun i => r.contains (0x41 + i) || r.contains (0x61 + i)
  r.union (Ranges.ofBounds (variants.flatMap fun i => [(0x41 + i, 0x41 + i), (0x61 + i, 0x61 + i)]))

end TagGovernance.Unicode
