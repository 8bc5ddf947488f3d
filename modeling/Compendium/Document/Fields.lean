import Compendium.Document.Layout
import Compendium.Render.Tree

/-!
# Fields that many documents have

Sizes, speeds, times, damage, proficiencies and ability increases, as text.
-/

namespace Compendium.Document

open Compendium.Render (Style)

/-- The name in front of the first pipe of an identifier. -/
def referenceName (uid : String) : String :=
  Text.trim (Text.before '|' uid)

/-- The texts of a list in lower case, trimmed, sorted and each once. -/
def lowerList (texts : List String) : List String :=
  Text.sortDistinct
    ((texts.map fun t => Text.lower (Text.trim t)).filter fun t => !t.isEmpty)

/-! ### Sizes -/

/-- The name for a code of a size. -/
def sizeName : String → String
  | "F" => "Fine"
  | "D" => "Diminutive"
  | "T" => "Tiny"
  | "S" => "Small"
  | "M" => "Medium"
  | "L" => "Large"
  | "H" => "Huge"
  | "G" => "Gargantuan"
  | "C" => "Colossal"
  | "V" => "Varies"
  | other => other

/-- The sizes a record has. -/
def sizes (r : Record) : List String :=
  match r.get? "size" with
  | some (.str code) => [sizeName code]
  | some (.arr codes) => (codes.filterMap Json.str?).map sizeName
  | _ => []

/-- The sizes as prose. -/
def size? (r : Record) : Option String :=
  let sizes := sizes r
  if sizes.isEmpty then none else some (Phrase.conjunction "or" sizes)

/-! ### Speeds -/

/-- The ways to move, in display order. -/
def movementModes : List String :=
  ["walk", "burrow", "climb", "fly", "swim"]

/-- The amount of one speed: a number, a number under a condition, or `true` for
as much as walking. -/
def speedAmount? (s : Style) : Json → Option String
  | .num n => some (n.text ++ " ft.")
  | .bool true => some "equal to your walking speed"
  | .obj fields =>
    let inner : Record := ⟨fields⟩
    (inner.int? "number").map fun n =>
      match inner.str? "condition" with
      | some condition => toString n ++ " ft. " ++ s.expand condition
      | none => toString n ++ " ft."
  | _ => none

/-- One speed with its mode; walking goes without saying. -/
def speedPart? (s : Style) (r : Record) (mode : String) : Option String :=
  ((r.get? mode).bind (speedAmount? s)).map fun amount =>
    let hover := mode = "fly" && (r.flag "canHover" || r.flag "hover")
    (if mode = "walk" then amount else mode ++ " " ++ amount) ++ (if hover then " (hover)" else "")

/-- The speeds of a value. -/
def speedText? (s : Style) : Json → Option String
  | .num n => some (n.text ++ " ft.")
  | .str t => Text.nonEmpty? (s.expand t)
  | .obj fields => Text.joined? ", " (movementModes.filterMap (speedPart? s ⟨fields⟩))
  | _ => none

/-- The speeds of a record. -/
def speed? (s : Style) (r : Record) : Option String :=
  (r.get? "speed").bind (speedText? s)

/-- Whether a value gives a speed to a mode. -/
def givesSpeed : Json → Bool
  | .bool b => b
  | _ => true

/-- The modes in which a record moves. -/
def movement (r : Record) : List String :=
  match r.get? "speed" with
  | some (.num _) => ["walk"]
  | some (.obj fields) =>
    movementModes.filter fun mode => ((Record.get? ⟨fields⟩ mode).map givesSpeed).getD false
  | _ => []

/-- The walking speed in feet. -/
def walkingSpeed? (r : Record) : Option Int :=
  match r.get? "speed" with
  | some (.num n) => n.int64?
  | some (.obj fields) =>
    match Record.get? ⟨fields⟩ "walk" with
    | some (.num n) => n.int64?
    | some (.obj inner) => (Record.get? ⟨inner⟩ "number").bind Json.int64?
    | _ => none
  | _ => none

/-! ### Times -/

/-- A number of units of time; the plain unit `special` stands for itself. -/
def timeSpan (number : Int) (unit : String) : String :=
  let unit := if unit = "bonus" then "bonus action" else unit
  if unit = "special" then "Special"
  else if number = 1 then "1 " ++ unit
  else toString number ++ " " ++ unit ++ "s"

/-- One time that something takes. -/
def timePart? (s : Style) : Json → Option String
  | .str t => some (s.expand t)
  | .obj fields =>
    let time : Record := ⟨fields⟩
    (time.str? "unit").map fun unit =>
      timeSpan ((time.int? "number").getD 1) unit ++
        match time.str? "condition" with
        | some condition => ", which you take " ++ s.expand condition
        | none => ""
  | _ => none

/-- The times that something takes. -/
def time? (s : Style) (r : Record) : Option String :=
  Text.joined? " or "
    (((r.array "time").filterMap (timePart? s)).filter fun part => !part.isEmpty)

/-! ### Damage -/

/-- The type of damage for a code. -/
def damageType? : String → Option String
  | "A" => some "acid"
  | "B" => some "bludgeoning"
  | "C" => some "cold"
  | "F" => some "fire"
  | "O" => some "force"
  | "L" => some "lightning"
  | "N" => some "necrotic"
  | "P" => some "piercing"
  | "I" => some "poison"
  | "Y" => some "psychic"
  | "R" => some "radiant"
  | "S" => some "slashing"
  | "T" => some "thunder"
  | _ => none

/-- The types of damage that a record is tagged with. -/
def taggedDamage (r : Record) : List String :=
  Text.sortDistinct ((r.strings "damageTags").filterMap damageType?)

/-! ### Lists -/

/-- The text of an element: a string, a number, or what an object is called. -/
def elementText? (s : Style) : Json → Option String
  | .str t => some (s.expand t)
  | .num n => some n.text
  | .obj fields =>
    let r : Record := ⟨fields⟩
    (r.str? "full" <|> r.str? "special" <|> r.str? "entry" <|> r.name? <|>
      r.str? "proficiency").map s.expand
  | _ => none

/-- The texts of the elements that have one. -/
def elementTexts (s : Style) (values : List Json) : List String :=
  (values.filterMap (elementText? s)).filter fun t => !t.isEmpty

/-- The texts of an array field, between commas. -/
def listText? (s : Style) (r : Record) (key : String) : Option String :=
  Text.joined? ", " (elementTexts s (r.array key))

/-! ### Proficiencies -/

/-- Drops every copy of `any` in front. -/
def dropAny : List Char → List Char
  | 'a' :: 'n' :: 'y' :: rest => dropAny rest
  | s => s

/-- Options to choose from. -/
def choiceText? (choose : Record) : Option String :=
  (Text.joined? ", "
    ((choose.strings "from").map fun option => Text.titleCase (referenceName option))).map
    fun options => "choose " ++ toString ((choose.int? "count").getD 1) ++ " from " ++ options

/-- One proficiency: one by name, a number of any kind, or a choice. -/
def proficiency? (s : Style) (f : String × Json) : Option String :=
  match f.2 with
  | .bool true => some (Text.titleCase (s.plainText (referenceName f.1)))
  | .num n =>
    if Text.beginsWith "any" f.1 then
      let kind := Text.lower (String.ofList (dropAny f.1.toList))
      some ("any " ++ n.text ++ (if kind.isEmpty then " of your choice" else " " ++ kind))
    else none
  | .obj fields => if f.1 = "choose" then choiceText? ⟨fields⟩ else none
  | _ => none

/-- Alternatives, one a record; blank ones are left out. -/
def alternatives? (sep : String) (texts : List String) : Option String :=
  Text.joined? sep (texts.filter fun t => !t.isEmpty)

/-- The proficiencies in an array field; its records are alternatives. -/
def proficiencies? (s : Style) (r : Record) (key : String) : Option String :=
  alternatives? "; or "
    ((r.records key).map fun p => ", ".intercalate (p.fields.filterMap (proficiency? s)))

/-! ### Ability increases -/

/-- The weights of a choice among abilities: some to this one, some to that. -/
def weightedText? (weighted : Record) : Option String :=
  let names := (weighted.strings "from").map Ability.fullName
  let weights := ((weighted.array "weights").filterMap Json.int64?).map Phrase.signed
  if names.isEmpty || weights.isEmpty then none
  else some (Phrase.conjunction "and" weights ++ " among " ++ Phrase.conjunction "or" names)

/-- An increase of abilities that may be chosen. -/
def chosenIncrease? (choose : Record) : Option String :=
  match choose.object? "weighted" with
  | some weighted => weightedText? weighted
  | none =>
    let names := (choose.strings "from").map Ability.fullName
    if names.isEmpty then none
    else
      let count := (choose.int? "count").getD 1
      some (Phrase.signed ((choose.int? "amount").getD 1) ++ " to " ++
        (if count = 1 then "" else toString count ++ " of ") ++ Phrase.conjunction "or" names)

/-- The increases that one record gives. -/
def increases (r : Record) : List String :=
  (Ability.keys.filterMap fun key =>
    (r.int? key).map fun bonus => Ability.fullName key ++ " " ++ Phrase.signed bonus) ++
    ((r.object? "choose").bind chosenIncrease?).toList

/-- The ability increases of a record; its alternatives are records of their own. -/
def abilityIncreases? (r : Record) : Option String :=
  alternatives? "; or " ((r.records "ability").map fun a => ", ".intercalate (increases a))

/-! ### Sections -/

/-- The ability scores as a table, if there are any. -/
def abilityTable? (r : Record) : Option String :=
  let scores := Ability.keys.map r.int?
  if scores.all Option.isNone then none
  else
    some ("| " ++ " | ".intercalate (Ability.keys.map Text.asciiUpper) ++ " |\n" ++
      Markdown.separatorRow (Ability.keys.map fun _ => ":---:") ++ "\n| " ++
      " | ".intercalate (scores.map fun score => (score.map Ability.scoreText).getD "—") ++ " |")

/-- The one block of a section that is called like the section gives way to what
stands inside it, so that the title is not repeated. -/
def withoutRepeatedTitle (title : String) (v : Json) : Json :=
  let single := match v with
    | .arr [item] => item
    | other => other
  match single.record? with
  | some r =>
    if (r.name?.map Text.asciiLower) = some (Text.asciiLower title) then r.children?.getD v else v
  | none => v

/-- A field under a heading, or nothing when it renders as nothing. -/
def titledSection (s : Style) (r : Record) (title key : String) : String :=
  match r.get? key with
  | none => ""
  | some v =>
    let body := Render.value s (withoutRepeatedTitle title v) 1
    if body.isEmpty then "" else s.heading title 0 0 ++ "\n\n" ++ body

/-- Named blocks as paragraphs led by their names, other values as they render. -/
def featureText (s : Style) (v : Json) : String :=
  match v.record?.filter fun r => r.name?.isSome with
  | some r => Render.namedEntry s r 1 .boldItalic
  | none => Render.value s v 1

/-- A heading over items, or nothing when there are none. -/
def group (s : Style) (title : String) (intro : Option String) (items : List String) : String :=
  if items.isEmpty then ""
  else Markdown.joinBlocks (s.heading title 0 0 :: (intro.toList ++ items))

end Compendium.Document
