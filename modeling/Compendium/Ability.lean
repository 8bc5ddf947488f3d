import Compendium.Decimal.Integer
import Compendium.Phrase
import Compendium.Text.Case

/-!
# Ability scores
-/

namespace Compendium.Ability

/-- The keys of the six scores, in display order. -/
def keys : List String :=
  ["str", "dex", "con", "int", "wis", "cha"]

/-- The full name for a key in any ASCII case; other text stays as it is. -/
def fullName (code : String) : String :=
  match Text.asciiLower code with
  | "str" => "Strength"
  | "dex" => "Dexterity"
  | "con" => "Constitution"
  | "int" => "Intelligence"
  | "wis" => "Wisdom"
  | "cha" => "Charisma"
  | _ => code

/-- The modifier of a score: half of what it has above ten, rounded down.  The
subtraction stops at the least signed 64-bit number. -/
def modifier (score : Int) : Int :=
  (if score - 10 < -Decimal.int64Bound then -Decimal.int64Bound else score - 10) / 2

/-- A score with its modifier. -/
def scoreText (score : Int) : String :=
  toString score ++ " (" ++ Phrase.signed (modifier score) ++ ")"

end Compendium.Ability
