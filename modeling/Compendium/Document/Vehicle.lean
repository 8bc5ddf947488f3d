import Compendium.Document.Fields

/-!
# Vehicles, traps and hazards
-/

namespace Compendium.Document

open Compendium.Render (Style)

namespace Vehicle

/-- The kind of vehicle for a code. -/
def kindOfCode? : String → Option String
  | "SHIP" => some "ship"
  | "SPELLJAMMER" => some "spelljammer"
  | "ELEMENTAL_AIRSHIP" => some "elemental airship"
  | "INFWAR" => some "infernal war machine"
  | "CREATURE" => some "creature"
  | "OBJECT" => some "object"
  | _ => none

/-- The kind of a vehicle. -/
def kind? (r : Record) : Option String :=
  (r.str? "vehicleType").bind kindOfCode?

/-- The line under the title. -/
def subtitle? (_ : Style) (r : Record) : Option String :=
  (Text.nonEmpty? (" ".intercalate ((size? r).toList ++ (kind? r).toList))).map Text.capitalize

/-- How many creatures fit on board. -/
def creatureCapacity? (_ : Style) (r : Record) : Option String :=
  Text.joined? ", " ([("capCrew", "crew"), ("capPassenger", "passengers")].filterMap
    fun (key, label) => (r.int? key).map fun n => toString n ++ " " ++ label)

/-- A weight in tons. -/
def tons (x : Float) : String :=
  match Decimal.integer? x with
  | some n => if n = 1 then "1 ton" else Phrase.thousands (Decimal.clampInt64 n) ++ " tons"
  | none => Decimal.plain.text x ++ " tons"

/-- How much cargo fits on board. -/
def cargoCapacity? (_ : Style) (r : Record) : Option String :=
  match r.get? "capCargo" with
  | some (.num n) => some (tons n.toFloat)
  | some (.str text) => some text
  | _ => none

/-- The pace, by the hour and by the day. -/
def pace? (_ : Style) (r : Record) : Option String :=
  (r.int? "pace").map fun mph =>
    toString mph ++ " miles per hour (" ++ toString (Decimal.wrapInt64 (mph * 24)) ++
      " miles per day)"

/-- The armor class, of the hull first. -/
def armorClass? (_ : Style) (r : Record) : Option String :=
  (((r.object? "hull").bind fun hull => hull.int? "ac") <|> r.int? "ac").map toString

/-- The hit points, of the hull first, with the damage they shrug off. -/
def hitPoints? (_ : Style) (r : Record) : Option String :=
  match r.object? "hull" <|> r.object? "hp" with
  | some hull =>
    (hull.int? "hp").map fun hp =>
      toString hp ++
        ((hull.int? "dt").map fun dt => " (damage threshold " ++ toString dt ++ ")").getD ""
  | none => (r.int? "hp").map toString

/-- Puts a count into the label of a paragraph's name: in front of the first end
of a label that ends in a period. -/
def withCount (count : Int) : List Char → List Char
  | [] => []
  | c :: rest =>
    if ['.', '*', '*', '*'].isPrefixOf (c :: rest) then
      (" (" ++ toString count ++ ")").toList ++ c :: rest
    else c :: withCount count rest

/-- A feature of a vehicle, with its count if there are several. -/
def feature (s : Style) (v : Json) : String :=
  let text := featureText s v
  match (v.record?.filter fun r => r.name?.isSome).bind fun r => r.int? "count" with
  | some count => if 1 < count then String.ofList (withCount count text.toList) else text
  | none => text

/-- The groups of features, with their headings. -/
def features (s : Style) (r : Record) : String :=
  Markdown.joinBlocks
    ([("Traits", "trait"), ("Actions", "action"), ("Weapons", "weapon"),
      ("Other Features", "other")].map fun (title, key) =>
        group s title none (((r.array key).map (feature s)).filter fun text => !text.isEmpty))

/-- The facets of a vehicle. -/
def facets (_ : Style) (r : Record) : Facets :=
  Facets.empty
    |>.insert? "vehicle_type" ((kind? r).map .text)
    |>.insert? "size" ((sizes r).head?.map .text)
    |>.insert "terrain" (.list (Text.sortDistinct ((r.strings "terrain").map Text.lower)))

/-- The layout of vehicles. -/
def layout : Layout where
  subtitle? := subtitle?
  parts := [
    .lines [
      ⟨"Dimensions", fun s r => Text.joined? " by " (elementTexts s (r.array "dimensions"))⟩,
      ⟨"Creature Capacity", creatureCapacity?⟩,
      ⟨"Cargo Capacity", cargoCapacity?⟩,
      ⟨"Travel Pace", pace?⟩,
      ⟨"Speed", speed?⟩,
      ⟨"Armor Class", armorClass?⟩,
      ⟨"Hit Points", hitPoints?⟩,
      ⟨"Damage Immunities", fun s r => listText? s r "immune"⟩,
      ⟨"Condition Immunities", fun s r => listText? s r "conditionImmune"⟩],
    .abilityScores,
    .rule,
    .entries "entries",
    .custom features]
  facets := facets

end Vehicle

namespace Trap

/-- The kind of trap or hazard for a code. -/
def kindOfCode? : String → Option String
  | "MECH" => some "Mechanical trap"
  | "MAG" => some "Magic trap"
  | "SMPL" => some "Simple trap"
  | "CMPX" => some "Complex trap"
  | "TRP" => some "Trap"
  | "HAZ" => some "Hazard"
  | "WTH" => some "Weather"
  | "ENV" => some "Environmental hazard"
  | "WLD" => some "Wilderness hazard"
  | "GEN" => some "Generic"
  | "EST" => some "Eldritch storm"
  | _ => none

/-- The kind of a trap or hazard. -/
def kind? (r : Record) : Option String :=
  (r.str? "trapHazType").bind kindOfCode?

/-- The first rating. -/
def rating? (r : Record) : Option Record :=
  (r.array "rating").head?.bind Json.record?

/-- The tier, of the record itself first. -/
def tier? (r : Record) : Option Int :=
  r.int? "tier" <|> (rating? r).bind fun rating => rating.int? "tier"

/-- The threat, of the record itself first. -/
def threat? (r : Record) : Option String :=
  r.str? "threat" <|> (rating? r).bind fun rating => rating.str? "threat"

/-- The line under the title. -/
def subtitle? (_ : Style) (r : Record) : Option String :=
  (kind? r).map fun kind =>
    kind ++ ((tier? r).map fun tier => " (tier " ++ toString tier ++ ")").getD ""

/-- The facets of a trap. -/
def facets (_ : Style) (r : Record) : Facets :=
  Facets.empty
    |>.insert? "trap_type" ((kind? r).map .text)
    |>.insert? "tier" ((tier? r).map .int)
    |>.insert? "threat" ((threat? r).map fun threat => .text (Text.lower threat))

/-- The layout of traps and hazards. -/
def layout : Layout where
  subtitle? := subtitle?
  parts := [
    .lines [
      ⟨"Tier", fun _ r => (tier? r).map toString⟩,
      ⟨"Threat", fun _ r => (threat? r).map Text.capitalize⟩,
      ⟨"Initiative", fun _ r => r.text? "initiative"⟩],
    .rule,
    .entries "entries",
    .titled "Trigger" "trigger",
    .titled "Effect" "effect",
    .titled "Active Elements" "eActive",
    .titled "Dynamic Elements" "eDynamic",
    .titled "Constant Elements" "eConstant",
    .titled "Countermeasures" "countermeasures"]
  facets := facets

end Trap

end Compendium.Document
