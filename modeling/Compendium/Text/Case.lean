import Compendium.Text.Basic
import Compendium.Text.CaseTables

/-!
# Upper and lower case

`lower` is the full lower-case mapping of a text, in which a capital sigma at
the end of a word becomes `ς`.  `lowerChar` and `upperChar` map single
characters without looking around, and the `ascii` functions leave everything
outside ASCII alone.
-/

namespace Compendium.Text

/-- The image of a code point under a case mapping given by tables. -/
def mapCase (runs : List CaseRun) (sequences : List (Nat × List Nat)) (c : Nat) : List Nat :=
  match sequences.find? fun s => s.1 = c with
  | some s => s.2
  | none => [(runs.findSome? fun r => r.apply? c).getD c]

/-- The lower case of one character, on its own. -/
def lowerChar (c : Char) : List Char :=
  if c.toNat < 0x80 then [c.toLower]
  else (mapCase lowerRuns lowerSequences c.toNat).map Char.ofNat

/-- The upper case of one character, on its own. -/
def upperChar (c : Char) : List Char :=
  if c.toNat < 0x80 then [c.toUpper]
  else (mapCase upperRuns upperSequences c.toNat).map Char.ofNat

end Compendium.Text

namespace Compendium.Chars

open Compendium.Text

/-- Whether the next character that counts for case has case. -/
def meetsCased (s : List Char) : Bool :=
  match s.dropWhile isCaseIgnorable with
  | c :: _ => isCased c
  | [] => false

/-- Lower case of a text whose characters `before`, last one first, stand in
front of it. -/
def lowerAfter (before : List Char) : List Char → List Char
  | [] => []
  | c :: rest =>
    (if c = 'Σ' then (if meetsCased before && !meetsCased rest then ['ς'] else ['σ'])
      else lowerChar c) ++ lowerAfter (c :: before) rest

/-- Lower case of a whole text. -/
def lower (s : List Char) : List Char :=
  lowerAfter [] s

/-- Upper case for the first character only. -/
def capitalize : List Char → List Char
  | [] => []
  | c :: rest => upperChar c ++ rest

end Compendium.Chars

namespace Compendium.Text

/-- Lower case of a whole text. -/
def lower (s : String) : String :=
  String.ofList (Chars.lower s.toList)

/-- ASCII letters in lower case, all else unchanged. -/
def asciiLower (s : String) : String :=
  String.ofList (s.toList.map Char.toLower)

/-- ASCII letters in upper case, all else unchanged. -/
def asciiUpper (s : String) : String :=
  String.ofList (s.toList.map Char.toUpper)

/-- Upper case for the first character of a text. -/
def capitalize (s : String) : String :=
  String.ofList (Chars.capitalize s.toList)

/-- Upper case for the first character of each word; words are joined by one space. -/
def titleCase (s : String) : String :=
  " ".intercalate ((words s).map capitalize)

end Compendium.Text
