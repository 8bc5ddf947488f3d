import Compendium.Text.Basic

/-!
# Numbers and lists in prose
-/

namespace Compendium.Phrase

/-- A number with its English ordinal ending. -/
def ordinal (n : Int) : String :=
  let tens := Int.tmod n 100
  let ending :=
    if 11 ≤ tens && tens ≤ 13 then "th"
    else match Int.tmod n 10 with
      | 1 => "st"
      | 2 => "nd"
      | 3 => "rd"
      | _ => "th"
  toString n ++ ending

/-- A number with its sign, `+` for zero too. -/
def signed (n : Int) : String :=
  if n < 0 then toString n else "+" ++ toString n

/-- A list in prose: `a`, `a or b`, `a, b, or c`. -/
def conjunction (word : String) : List String → String
  | [] => ""
  | [a] => a
  | [a, b] => a ++ " " ++ word ++ " " ++ b
  | items => ", ".intercalate items.dropLast ++ ", " ++ word ++ " " ++ items.getLastD ""

/-- The level and school of a spell, such as `3rd-level Evocation`, as far as they
are known. -/
def spellLevel? (level : Option Int) (school : Option String) : Option String :=
  match level, school with
  | none, school => school
  | some level, some school =>
    some (if level = 0 then school ++ " cantrip" else ordinal level ++ "-level " ++ school)
  | some level, none => some (if level = 0 then "Cantrip" else ordinal level ++ "-level spell")

/-- Puts a comma in front of every group of three digits but the first. -/
def group (digits : List Char) : List Char :=
  match digits with
  | [] => []
  | c :: rest =>
    if rest.length % 3 = 0 && !rest.isEmpty then c :: ',' :: group rest else c :: group rest

/-- An integer with its digits in groups of three. -/
def thousands (n : Int) : String :=
  (if n < 0 then "-" else "") ++ String.ofList (group (toString n.natAbs).toList)

/-- An amount of copper pieces in the largest coin that makes it a whole number. -/
def coins (copper : Int) : String :=
  if copper % 100 = 0 then thousands (copper / 100) ++ " gp"
  else if copper % 10 = 0 then thousands (copper / 10) ++ " sp"
  else thousands copper ++ " cp"

end Compendium.Phrase
