import Compendium.Error
import Compendium.Text.Case

/-!
# Categories

The families of entities.  Each has an identifier, a directory of its own in the
output, and a label for people.
-/

namespace Compendium

/-- A family of entities. -/
inductive Category where
  | spell
  | creature
  | item
  | equipment
  | playerClass
  | subclass
  | species
  | background
  | feat
  | rule
  | condition
  | action
  | vehicle
  | trap
  | deck
  | table
  deriving DecidableEq, Repr, Inhabited

namespace Category

/-- Every category, in output order. -/
def all : List Category :=
  [spell, creature, item, equipment, playerClass, subclass, species, background, feat, rule,
    condition, action, vehicle, trap, deck, table]

theorem mem_all (c : Category) : c ∈ all := by
  cases c <;> simp [all]

/-- The place of a category in output order. -/
def rank (c : Category) : Nat :=
  all.idxOf c

/-- The identifier used in index files and on the command line. -/
def id : Category → String
  | spell => "spell"
  | creature => "creature"
  | item => "item"
  | equipment => "equipment"
  | playerClass => "class"
  | subclass => "subclass"
  | species => "species"
  | background => "background"
  | feat => "feat"
  | rule => "rule"
  | condition => "condition"
  | action => "action"
  | vehicle => "vehicle"
  | trap => "trap"
  | deck => "deck"
  | table => "table"

/-- The output directory. -/
def dir : Category → String
  | spell => "spells"
  | creature => "bestiary"
  | item => "items"
  | equipment => "equipment"
  | playerClass => "classes"
  | subclass => "subclasses"
  | species => "species"
  | background => "backgrounds"
  | feat => "feats"
  | rule => "rules"
  | condition => "conditions"
  | action => "actions"
  | vehicle => "vehicles"
  | trap => "traps"
  | deck => "decks"
  | table => "tables"

/-- The label of the category's listing. -/
def label : Category → String
  | spell => "Spells"
  | creature => "Bestiary"
  | item => "Magic Items"
  | equipment => "Equipment"
  | playerClass => "Classes"
  | subclass => "Subclasses"
  | species => "Species"
  | background => "Backgrounds"
  | feat => "Feats"
  | rule => "Rules"
  | condition => "Conditions"
  | action => "Actions"
  | vehicle => "Vehicles"
  | trap => "Traps & Hazards"
  | deck => "Decks"
  | table => "Tables"

/-- The category with an identifier. -/
def ofId? (name : String) : Option Category :=
  all.find? fun c => c.id = name

/-- The category whose records stand under a key of a corpus. -/
def ofCorpusKey? : String → Option Category
  | "spell" => some spell
  | "monster" => some creature
  | "item" => some item
  | "magicvariant" => some item
  | "baseitem" => some equipment
  | "class" => some playerClass
  | "subclass" => some subclass
  | "race" => some species
  | "species" => some species
  | "background" => some background
  | "feat" => some feat
  | "variantrule" => some rule
  | "condition" => some condition
  | "disease" => some condition
  | "status" => some condition
  | "action" => some action
  | "vehicle" => some vehicle
  | "trap" => some trap
  | "hazard" => some trap
  | "deck" => some deck
  | "table" => some table
  | _ => none

/-- The category to whose documents references with a tag lead. -/
def ofReferenceTag? : String → Option Category
  | "spell" => some spell
  | "creature" => some creature
  | "item" => some item
  | "class" => some playerClass
  | "subclass" => some subclass
  | "race" => some species
  | "background" => some background
  | "feat" => some feat
  | "variantrule" => some rule
  | "condition" => some condition
  | "disease" => some condition
  | "status" => some condition
  | "action" => some action
  | "vehicle" => some vehicle
  | "trap" => some trap
  | "hazard" => some trap
  | "deck" => some deck
  | "table" => some table
  | _ => none

/-- Reads a category from its identifier, its directory or a corpus key, in any
ASCII case. -/
def parse (text : String) : Except Error Category :=
  let name := Text.asciiLower (Text.trim text)
  match (all.find? fun c => c.id = name || c.dir = name) <|> ofCorpusKey? name with
  | some c => .ok c
  | none => .error (.unknownCategory text)

end Category

end Compendium
