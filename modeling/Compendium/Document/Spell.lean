import Compendium.Document.Fields

/-!
# Spells
-/

namespace Compendium.Document.Spell

open Compendium.Render (Style)

/-- The name for a code of a school. -/
def schoolName : String → String
  | "A" => "Abjuration"
  | "C" => "Conjuration"
  | "D" => "Divination"
  | "E" => "Enchantment"
  | "V" => "Evocation"
  | "I" => "Illusion"
  | "N" => "Necromancy"
  | "T" => "Transmutation"
  | "P" => "Psionic"
  | other => other

/-- The school. -/
def school? (r : Record) : Option String :=
  (r.str? "school").map schoolName

/-- Whether the spell can be cast as a ritual. -/
def isRitual (r : Record) : Bool :=
  ((r.object? "meta").map fun m => m.flag "ritual").getD false

/-- The line under the title. -/
def subtitle? (_ : Style) (r : Record) : Option String :=
  (Phrase.spellLevel? (r.int? "level") (school? r)).map fun line =>
    if isRitual r then line ++ " (ritual)" else line

/-! ### Range -/

/-- The name of one unit of length. -/
def oneUnit : String → String
  | "feet" => "foot"
  | "miles" => "mile"
  | other => other

/-- The distance to a point. -/
def pointRange? (distance : Record) : Option String :=
  (distance.str? "type").map fun
    | "self" => "Self"
    | "touch" => "Touch"
    | "sight" => "Sight"
    | "unlimited" => "Unlimited"
    | "plane" => "Unlimited (same plane)"
    | unit =>
      match distance.int? "amount" with
      | some n => if n = 1 then "1 " ++ oneUnit unit else toString n ++ " " ++ unit
      | none => unit

/-- The range of a spell; a shape extends from the caster. -/
def range? (_ : Style) (r : Record) : Option String := do
  let range ← r.object? "range"
  match (range.str? "type").getD "point" with
  | "special" => return "Special"
  | "point" => pointRange? (← range.object? "distance")
  | shape =>
    let distance ← range.object? "distance"
    let amount ← distance.int? "amount"
    return "Self (" ++ toString amount ++ "-" ++ oneUnit ((distance.str? "type").getD "feet") ++
      " " ++ shape ++ ")"

/-! ### Components -/

/-- Whether a spell needs material. -/
def needsMaterial (components : Record) : Bool :=
  match components.get? "m" with
  | some (.str _) => true
  | some (.obj _) => true
  | some (.bool b) => b
  | _ => false

/-- The codes of the components. -/
def componentCodes (components : Record) : List String :=
  [("V", components.flag "v"), ("S", components.flag "s"), ("M", needsMaterial components),
    ("R", components.flag "r")].filterMap fun (code, present) => if present then some code else none

/-- What a spell does with costly material. -/
def materialNotes (material : Record) : List String :=
  let cost := match material.int? "cost" with
    | some n => if 0 < n then ["worth " ++ Phrase.coins n] else []
    | none => []
  cost ++ if material.flag "consume" then ["consumed"] else []

/-- The material a spell needs. -/
def material? (s : Style) (components : Record) : Option String :=
  match components.get? "m" with
  | some (.str text) => some (s.expand text)
  | some (.obj fields) =>
    let material : Record := ⟨fields⟩
    let text := (material.str? "text").map s.expand
    match Text.joined? ", " (materialNotes material) with
    | none => text
    | some notes =>
      some (match text with
        | some text => text ++ "; " ++ notes
        | none => notes)
  | _ => none

/-- One component. -/
def component (s : Style) (components : Record) (code : String) : String :=
  if code = "M" then
    match material? s components with
    | some material => "M (" ++ material ++ ")"
    | none => "M"
  else code

/-- The components. -/
def components? (s : Style) (r : Record) : Option String :=
  (r.object? "components").bind fun components =>
    Text.joined? ", " ((componentCodes components).map (component s components))

/-! ### Duration -/

/-- What ends a permanent spell. -/
def ending : String → String
  | "dispel" => "dispelled"
  | "trigger" => "triggered"
  | "discharge" => "discharged"
  | other => other

/-- A span of time, and whether it needs concentration or may be cut short. -/
def timedText (d span : Record) : String :=
  let amount := (span.int? "amount").getD 1
  let unit := (span.str? "type").getD "round"
  let text := if amount = 1 then "1 " ++ unit else toString amount ++ " " ++ unit ++ "s"
  if d.flag "concentration" then "Concentration, up to " ++ text
  else if span.flag "upTo" then "Up to " ++ text
  else text

/-- One way a spell lasts. -/
def durationPart? (s : Style) (d : Record) : Option String :=
  match d.str? "type" with
  | none => none
  | some "instant" => some "Instantaneous"
  | some "special" => some "Special"
  | some "permanent" =>
    let ends := (d.strings "ends").map ending
    some (if ends.isEmpty then "Permanent" else "Until " ++ Phrase.conjunction "or" ends)
  | some "timed" => (d.object? "duration").map (timedText d)
  | some other => some (s.expand other)

/-- How long a spell lasts. -/
def duration? (s : Style) (r : Record) : Option String :=
  let parts := (r.records "duration").filterMap (durationPart? s)
  if parts.isEmpty then none else some (Phrase.conjunction "or" parts)

/-! ### Classes -/

/-- The name of a class in a list of classes. -/
def className? : Json → Option String
  | .str uid => some (referenceName uid)
  | .obj fields => Record.name? ⟨fields⟩
  | _ => none

/-- The classes that have the spell, sorted. -/
def classNames (r : Record) : List String :=
  match r.object? "classes" with
  | some classes => Text.sortDistinct ((classes.array "fromClassList").filterMap className?)
  | none => []

/-! ### Facets and layout -/

/-- The types of damage: by name, or by tags when none is named. -/
def damageTypes (r : Record) : List String :=
  let named := lowerList (r.strings "damageInflict")
  if named.isEmpty then taggedDamage r else named

/-- The facets of a spell. -/
def facets (_ : Style) (r : Record) : Facets :=
  let components := r.object? "components"
  let codes := (components.map componentCodes).getD []
  let cost := (components.bind fun c => c.object? "m").bind fun m => m.int? "cost"
  Facets.empty
    |>.insert? "level" ((r.int? "level").map .int)
    |>.insert? "school" ((school? r).map .text)
    |>.insert "classes" (.list (classNames r))
    |>.insert "ritual" (.flag (isRitual r))
    |>.insert "concentration" (.flag ((r.records "duration").any fun d => d.flag "concentration"))
    |>.insert "damage_types" (.list (damageTypes r))
    |>.insert "conditions" (.list (lowerList (r.strings "conditionInflict")))
    |>.insert "components" (.text (", ".intercalate codes))
    |>.insert? "material_cost_cp" (cost.map .int)

/-- The layout of spells. -/
def layout : Layout where
  subtitle? := subtitle?
  parts := [
    .lines [
      ⟨"Casting Time", time?⟩,
      ⟨"Range", range?⟩,
      ⟨"Components", components?⟩,
      ⟨"Duration", duration?⟩,
      ⟨"Classes", fun _ r => Text.joined? ", " (classNames r)⟩],
    .rule,
    .entries "entries",
    .titled "At Higher Levels" "entriesHigherLevel"]
  facets := facets

end Compendium.Document.Spell
