import Compendium.Block
import Compendium.Markdown.Blocks
import Compendium.Render.Style

/-!
# Blocks without blocks inside

Images, links, formulas, dice, code and references, from their fields alone.
-/

namespace Compendium.Render

open Compendium.Markdown (joinBlocks codeSpan codeBlock)

/-- The label of an image: its title, its description or the name of its file. -/
def imageLabel (s : Style) (r : Record) : String :=
  match r.str? "title" <|> r.str? "altText" with
  | some title => s.expand title
  | none =>
    ((r.object? "href").bind fun href =>
      (href.str? "path" <|> href.str? "url").map (Text.afterLast '/')).getD ""

/-- An image as a placeholder, with the credit under it. -/
def image (s : Style) (r : Record) : String :=
  let label := imageLabel s r
  let placeholder := if label.isEmpty then "*[Image]*" else "*[Image: " ++ label ++ "]*"
  match r.str? "credit" with
  | some credit => placeholder ++ "\n\n*Credit: " ++ s.expand credit ++ "*"
  | none => placeholder

/-- Where a link leads: a path inside the books, or an address. -/
def linkTarget? (href : Record) : Option String :=
  if href.str? "type" = some "internal" then
    (href.str? "path").map fun path =>
      match href.str? "hash" with
      | some hash => path ++ "#" ++ hash
      | none => path
  else href.str? "url"

/-- A link; without text it shows its target, and without target only its text. -/
def linkBlock (s : Style) (r : Record) : String :=
  let text := ((r.str? "text").map s.expand).getD ""
  match (r.object? "href").bind linkTarget? with
  | some target => Markdown.link (if text.isEmpty then target else text) target
  | none => text

/-- The abilities a formula uses. -/
def abilityNames (r : Record) : List String :=
  (r.strings "attributes").map Ability.fullName

/-- The abilities a spellcasting formula uses. -/
def spellAbility (r : Record) : String :=
  let names := abilityNames r
  if names.isEmpty then "spellcasting ability" else "/".intercalate names

/-- The name in front of a spellcasting formula. -/
def formulaName (s : Style) (r : Record) : String :=
  (r.name?.map s.expand).getD "Spell"

/-- The difficulty of saving throws against spells. -/
def saveFormula (s : Style) (r : Record) : String :=
  "**" ++ formulaName s r ++ " save DC** = 8 + your proficiency bonus + your " ++
    spellAbility r ++ " modifier"

/-- The modifier of attacks with spells. -/
def attackFormula (s : Style) (r : Record) : String :=
  "**" ++ formulaName s r ++ " attack modifier** = your proficiency bonus + your " ++
    spellAbility r ++ " modifier"

/-- A formula in words, with the abilities it may use. -/
def genericFormula (s : Style) (r : Record) : String :=
  let text := ((r.str? "text").map s.expand).getD ""
  let names := abilityNames r
  let formula :=
    if names.isEmpty then text
    else Text.trim (text ++ " your " ++ " or ".intercalate names ++ " modifier")
  match r.name? with
  | some name => "**" ++ s.expand name ++ "** = " ++ formula
  | none => formula

/-- The plain name that a reference to a statblock shows. -/
def statblockName? (s : Style) (r : Record) : Option String :=
  (r.str? "displayName" <|> r.name? <|> (r.object? "data").bind Record.name?).map s.plainText

/-- The tag that says what a reference to a statblock refers to. -/
def statblockTag (r : Record) : String :=
  (r.str? "tag" <|> r.str? "dataType" <|> r.str? "prop").getD "creature"

/-- A statblock as a reference to the document of its name. -/
def statblock (s : Style) (r : Record) : String :=
  match statblockName? s r with
  | none => ""
  | some name =>
    let reference :=
      match Category.ofReferenceTag? (statblockTag r) with
      | some category =>
        if s.links then Inline.documentLink name category (Slug.slug name) else Style.bold name
      | none => Style.bold name
    "*See the " ++ reference ++ " statblock.*"

/-- A pointer to a feature, by the first part of its identifier. -/
def seeAlso (s : Style) (r : Record) (key : String) : String :=
  match ((r.str? key).map fun uid => Text.trim (Text.before '|' uid)).bind Text.nonEmpty? with
  | some name => "*See: " ++ s.expand name ++ "*"
  | none => ""

/-- One term of a dice expression; a term without faces is none. -/
def diceTerm? (term : Record) : Option String :=
  (term.int? "faces").map fun faces =>
    let count := (term.int? "number" <|> term.int? "count").getD 1
    let modifier := match term.int? "modifier" with
      | some m => if m = 0 then "" else Phrase.signed m
      | none => ""
    toString count ++ "d" ++ toString faces ++ modifier

/-- A dice expression as code. -/
def dice (r : Record) : String :=
  let terms := match r.get? "toRoll" with
    | some (.str e) => [Text.trim e]
    | some (.arr terms) => (terms.filterMap Json.record?).filterMap diceTerm?
    | _ => []
  codeSpan (" + ".intercalate terms)

/-- Preformatted text as a code block. -/
def code (r : Record) : String :=
  (((r.get? "preformatted").bind Json.str?).map codeBlock).getD ""

/-- A bonus with its sign, and a unit behind it. -/
def bonus (r : Record) (unit : String) : String :=
  ((r.int? "value").map fun n => Phrase.signed n ++ unit).getD ""

end Compendium.Render
