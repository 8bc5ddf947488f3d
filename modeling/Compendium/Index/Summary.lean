import Compendium.Entry
import Compendium.Phrase

/-!
# Summaries

One line on an entry, from its facets alone.
-/

namespace Compendium.Summary

/-- Words with spaces between them; blank ones are left out. -/
def joinWords (parts : List String) : String :=
  " ".intercalate ((parts.map Text.trim).filter fun part => !part.isEmpty)

/-- Phrases with commas between them; empty ones are left out. -/
def joinPhrases (parts : List String) : String :=
  ", ".intercalate (parts.filter fun part => !part.isEmpty)

/-- A facet as text, and nothing for a missing one. -/
def textOf (f : Facets) (key : String) : String :=
  (f.text? key).getD ""

/-- A text facet in a phrase. -/
def phrase (f : Facets) (key : String) (wording : String → String) : String :=
  ((f.text? key).map wording).getD ""

/-- An integer facet in a phrase. -/
def count (f : Facets) (key : String) (wording : String → String) : String :=
  ((f.int? key).map fun n => wording (toString n)).getD ""

/-- The summary before trimming. -/
def draft (f : Facets) : Category → String
  | .spell => (Phrase.spellLevel? (f.int? "level") (f.text? "school")).getD ""
  | .creature => joinWords [phrase f "cr" ("CR " ++ ·), textOf f "size", textOf f "type"]
  | .item => ware f
  | .equipment => ware f
  | .playerClass => count f "hit_die" ("Hit die d" ++ ·)
  | .subclass => phrase f "class" (· ++ " subclass")
  | .species => joinPhrases [textOf f "size", count f "speed" ("speed " ++ · ++ " ft.")]
  | .background => phrase f "skills" ("Skills: " ++ ·)
  | .feat =>
    ((f.text? "feat_category") <|> (f.text? "prerequisite").map ("Prerequisite: " ++ ·)).getD ""
  | .rule => textOf f "rule_type"
  | .condition => ""
  | .action => textOf f "time"
  | .vehicle => joinWords [textOf f "size", textOf f "vehicle_type"]
  | .trap => joinPhrases [textOf f "trap_type", count f "tier" ("tier " ++ ·)]
  | .deck => count f "cards" (· ++ " cards")
  | .table =>
    match f.int? "columns", f.int? "rows" with
    | some columns, some rows => toString columns ++ " columns, " ++ toString rows ++ " rows"
    | _, _ => ""
where
  /-- The summary of an item or a piece of equipment. -/
  ware (f : Facets) : String :=
    joinWords [textOf f "rarity", Text.lower (textOf f "item_type")] ++
      if f.flag "attunement" then " (requires attunement)" else ""

/-- The summary of an entry with these facets. -/
def ofFacets (category : Category) (f : Facets) : String :=
  Text.trim (draft f category)

end Compendium.Summary
