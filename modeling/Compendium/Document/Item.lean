import Compendium.Document.Fields

/-!
# Items

Magic items and equipment share one layout.
-/

namespace Compendium.Document.Item

open Compendium.Render (Style)

/-- The kind of item for a code. -/
def kindOfCode? : String → Option String
  | "M" => some "melee weapon"
  | "R" => some "ranged weapon"
  | "A" => some "ammunition"
  | "AF" => some "ammunition"
  | "LA" => some "light armor"
  | "MA" => some "medium armor"
  | "HA" => some "heavy armor"
  | "S" => some "shield"
  | "G" => some "adventuring gear"
  | "P" => some "potion"
  | "RD" => some "rod"
  | "RG" => some "ring"
  | "SC" => some "scroll"
  | "WD" => some "wand"
  | "ST" => some "staff"
  | "INS" => some "musical instrument"
  | "AT" => some "artisan's tools"
  | "T" => some "tools"
  | "GS" => some "gaming set"
  | "SCF" => some "spellcasting focus"
  | "TAH" => some "tack and harness"
  | "TG" => some "trade good"
  | "MNT" => some "mount"
  | "VEH" => some "vehicle (land)"
  | "AIR" => some "vehicle (air)"
  | "SHP" => some "vehicle (water)"
  | "FD" => some "food and drink"
  | "EXP" => some "explosive"
  | "$" => some "treasure"
  | "$C" => some "treasure"
  | "$A" => some "treasure"
  | "$G" => some "treasure"
  | "OTH" => some "other"
  | _ => none

/-- The kind of item, such as `Martial melee weapon`. -/
def kind? (r : Record) : Option String :=
  let label := (r.str? "type").bind fun code => kindOfCode? (referenceName code)
  let weapon := (r.str? "weaponCategory").map Text.lower
  let text :=
    if r.flag "wondrous" then some "wondrous item"
    else match label, weapon with
      | some label, some weapon => some (weapon ++ " " ++ label)
      | some label, none => some label
      | none, some weapon => some (weapon ++ " weapon")
      | none, none => if r.flag "staff" then some "staff" else none
  text.map Text.capitalize

/-- The rarity, unless there is none to speak of. -/
def rarity? (r : Record) : Option String :=
  (r.str? "rarity").filter fun rarity =>
    Text.asciiLower rarity ≠ "none" && Text.asciiLower rarity ≠ "unknown"

/-- What attunement an item requires. -/
def attunement? (s : Style) (r : Record) : Option String :=
  match r.get? "reqAttune" with
  | some (.bool true) => some "requires attunement"
  | some (.str text) =>
    if Text.isBlank text then none else some ("requires attunement " ++ s.expand text)
  | _ => none

/-- The line under the title. -/
def subtitle? (s : Style) (r : Record) : Option String :=
  let line := ", ".intercalate ((kind? r).toList ++ (rarity? r).toList)
  match attunement? s r with
  | some attunement =>
    some (if line.isEmpty then Text.capitalize attunement else line ++ " (" ++ attunement ++ ")")
  | none => Text.nonEmpty? line

/-- The weight in pounds. -/
def weight? (_ : Style) (r : Record) : Option String :=
  match r.get? "weight" with
  | some (.num n) => some (n.display ++ " lb.")
  | _ => none

/-- The value in copper pieces. -/
def copper? (r : Record) : Option Int :=
  (r.int? "value").filter fun v => 0 < v

/-- The type of damage. -/
def itemDamage? (r : Record) : Option String :=
  (r.str? "dmgType").bind damageType?

/-- The damage of a weapon. -/
def damage? (_ : Style) (r : Record) : Option String :=
  (r.str? "dmg1").map fun dice =>
    dice ++ ((itemDamage? r).map (" " ++ ·)).getD "" ++
      ((r.str? "dmg2").map fun versatile => " (versatile " ++ versatile ++ ")").getD ""

/-! ### Properties -/

/-- The name of a weapon's property. -/
def propertyOfCode? : String → Option String
  | "A" => some "ammunition"
  | "AF" => some "ammunition (firearm)"
  | "BF" => some "burst fire"
  | "F" => some "finesse"
  | "H" => some "heavy"
  | "L" => some "light"
  | "LD" => some "loading"
  | "R" => some "reach"
  | "RLD" => some "reload"
  | "S" => some "special"
  | "T" => some "thrown"
  | "2H" => some "two-handed"
  | "V" => some "versatile"
  | _ => none

/-- The code of a property, plain or inside an object. -/
def propertyCode? : Json → Option String
  | .str code => some (referenceName code)
  | .obj fields => ((fields.lookup "uid").bind Json.str?).map referenceName
  | _ => none

/-- The codes of a record's properties. -/
def propertyCodes (r : Record) : List String :=
  (r.array "property").filterMap propertyCode?

/-- Whether a property is about shooting or throwing. -/
def isRanged (code : String) : Bool :=
  code = "T" || code = "A" || code = "AF"

/-- A property with the range or the damage that belongs to it. -/
def propertyText? (r : Record) (code : String) : Option String :=
  (propertyOfCode? code).map fun name =>
    let detail :=
      if isRanged code then (r.str? "range").map ("range " ++ ·)
      else if code = "V" then r.str? "dmg2"
      else none
    Text.capitalize name ++ (detail.map fun d => " (" ++ d ++ ")").getD ""

/-- The properties. -/
def properties? (_ : Style) (r : Record) : Option String :=
  Text.joined? ", " ((propertyCodes r).filterMap (propertyText? r))

/-- The range, unless a property shows it. -/
def range? (_ : Style) (r : Record) : Option String :=
  if (propertyCodes r).any isRanged then none else (r.str? "range").map (· ++ " ft.")

/-! ### Armor and charges -/

/-- The armor class. -/
def armorClass? (_ : Style) (r : Record) : Option String :=
  (r.int? "ac").map fun ac =>
    match (r.str? "type").map referenceName with
    | some "LA" => toString ac ++ " + Dex modifier"
    | some "MA" => toString ac ++ " + Dex modifier (max 2)"
    | some "S" => "+" ++ toString ac
    | _ => toString ac

/-- The charges, and when they come back. -/
def charges? (_ : Style) (r : Record) : Option String :=
  (r.text? "charges").map fun charges =>
    match r.str? "recharge" with
    | some "dawn" => charges ++ " (regains charges daily at dawn)"
    | some "dusk" => charges ++ " (regains charges daily at dusk)"
    | some "midnight" => charges ++ " (regains charges daily at midnight)"
    | _ => charges

/-! ### Facets and layout -/

/-- The facets of an item. -/
def facets (s : Style) (r : Record) : Facets :=
  Facets.empty
    |>.insert? "rarity" ((rarity? r).map fun rarity => .text (Text.lower rarity))
    |>.insert? "item_type" ((kind? r).map .text)
    |>.insert "attunement" (.flag (attunement? s r).isSome)
    |>.insert "wondrous" (.flag (r.flag "wondrous"))
    |>.insert? "damage_types" ((itemDamage? r).map fun damage => .list [damage])
    |>.insert "properties" (.list ((propertyCodes r).filterMap propertyOfCode?))
    |>.insert? "weight" ((r.float? "weight").map .number)
    |>.insert? "value_cp" ((copper? r).map .int)

/-- The layout of items. -/
def layout : Layout where
  subtitle? := subtitle?
  parts := [
    .lines [
      ⟨"Weight", weight?⟩,
      ⟨"Value", fun _ r => (copper? r).map Phrase.coins⟩,
      ⟨"Damage", damage?⟩,
      ⟨"Properties", properties?⟩,
      ⟨"Range", range?⟩,
      ⟨"Armor Class", armorClass?⟩,
      ⟨"Strength", fun _ r => (r.text? "strength").map ("Str " ++ ·)⟩,
      ⟨"Stealth", fun _ r => if r.flag "stealth" then some "Disadvantage" else none⟩,
      ⟨"Charges", charges?⟩],
    .rule,
    .entries "entries",
    .entries "additionalEntries"]
  facets := facets

end Compendium.Document.Item
