import Compendium.Document.Fields

/-!
# Classes and subclasses
-/

namespace Compendium.Document

open Compendium.Render (Style)

/-! ### Features by level -/

/-- A feature and the level at which it is gained. -/
structure FeatureRef where
  name : String
  level : Int

/-- Reads a reference to a feature: its name in front of the first pipe, its
level behind the pipe of the given number. -/
def FeatureRef.ofJson? (key : String) (levelField : Nat) (v : Json) : Option FeatureRef := do
  let uid ← match v with
    | .str uid => some uid
    | .obj fields => (fields.lookup key).bind Json.str?
    | _ => none
  let parts := Text.splitOn '|' uid
  let name ← Text.nonEmpty? (Text.trim (parts.headD ""))
  let level ← Decimal.parseInt64? (Text.trim (← parts[levelField]?)).toList
  return ⟨name, level⟩

/-- The references to features in an array field. -/
def featureRefs (r : Record) (field key : String) (levelField : Nat) : List FeatureRef :=
  (r.array field).filterMap (FeatureRef.ofJson? key levelField)

/-- The levels at which features are gained, each once, in ascending order. -/
def featureLevels (refs : List FeatureRef) : List Int :=
  ((refs.map FeatureRef.level).mergeSort fun a b => a ≤ b).eraseReps

/-- The features of one level as a list item. -/
def featureLine (s : Style) (refs : List FeatureRef) (level : Int) : String :=
  "- **" ++ Phrase.ordinal level ++ " level**: " ++
    ", ".intercalate ((refs.filter fun f => f.level = level).map fun f => s.plainText f.name)

/-- The features by level, under a heading. -/
def featureList (s : Style) (refs : List FeatureRef) : String :=
  match Text.joined? "\n" ((featureLevels refs).map (featureLine s refs)) with
  | some lines => s.heading "Features" 0 0 ++ "\n\n" ++ lines
  | none => ""

namespace PlayerClass

/-- The faces of the hit die. -/
def hitDie? (r : Record) : Option Int :=
  (r.object? "hd").bind fun hd => hd.int? "faces"

/-- The hit die in words. -/
def hitDieText? (_ : Style) (r : Record) : Option String :=
  (hitDie? r).map fun faces =>
    "d" ++ toString faces ++ " per " ++ Text.lower (r.name?.getD "") ++ " level"

/-- The saving throws in which a class is proficient. -/
def saves (r : Record) : List String :=
  (r.strings "proficiency").map Ability.fullName

/-- Proficiencies at the start. -/
def starting? (key : String) (s : Style) (r : Record) : Option String :=
  (r.object? "startingProficiencies").bind fun start => listText? s start key

/-- The ability a class casts spells with. -/
def spellAbility? (r : Record) : Option String :=
  (r.str? "spellcastingAbility").map Ability.fullName

/-! ### The table of levels -/

/-- A group of columns of the table of levels. -/
structure ColumnGroup where
  labels : List Json
  rows : List Json

/-- Reads a group; spell slots stand in for missing rows. -/
def ColumnGroup.ofRecord (r : Record) : ColumnGroup :=
  let rows := r.array "rows"
  ⟨r.array "colLabels", if rows.isEmpty then r.array "rowsSpellProgression" else rows⟩

/-- The cells of a group in a row; a dash stands where there is none. -/
def ColumnGroup.cells (g : ColumnGroup) (row : Nat) : List Json :=
  let cells := ((g.rows[row]?).bind Json.arr?).getD []
  (List.range g.labels.length).map fun column => cells[column]?.getD (.str "—")

/-- The groups of columns side by side, with a column for the level in front. -/
def levelTable (groups : List ColumnGroup) : Json :=
  let levels := (groups.map fun g => g.rows.length).foldl max 0
  .obj [
    ("colLabels", .arr (.str "Level" :: groups.flatMap ColumnGroup.labels)),
    ("rows", .arr ((List.range levels).map fun (i : Nat) =>
      .arr (.str (Phrase.ordinal (i + 1)) :: groups.flatMap fun g => g.cells i))),
    ("type", .str "table")]

/-- The table of levels, under a heading. -/
def classTable (s : Style) (r : Record) : String :=
  let groups := (r.records "classTableGroups").map ColumnGroup.ofRecord
  if groups.isEmpty then ""
  else s.heading "Class Table" 0 0 ++ "\n\n" ++ Render.value s (levelTable groups) 1

/-- The features of a class. -/
def features (s : Style) (r : Record) : String :=
  featureList s (featureRefs r "classFeatures" "classFeature" 3)

/-- The facets of a class. -/
def facets (_ : Style) (r : Record) : Facets :=
  Facets.empty
    |>.insert? "hit_die" ((hitDie? r).map .int)
    |>.insert "saves" (.list (saves r))
    |>.insert? "spellcasting_ability" ((spellAbility? r).map .text)

/-- The layout of classes. -/
def layout : Layout where
  subtitle? := fun _ _ => some "Class"
  parts := [
    .lines [
      ⟨"Hit Die", hitDieText?⟩,
      ⟨"Saving Throws", fun _ r => Text.joined? ", " (saves r)⟩,
      ⟨"Armor", starting? "armor"⟩,
      ⟨"Weapons", starting? "weapons"⟩,
      ⟨"Tools", starting? "tools"⟩,
      ⟨"Skills", fun s r =>
        (r.object? "startingProficiencies").bind fun start => proficiencies? s start "skills"⟩,
      ⟨"Spellcasting Ability", fun _ r => spellAbility? r⟩],
    .custom classTable,
    .rule,
    .entries "entries",
    .custom features]
  facets := facets

end PlayerClass

namespace Subclass

/-- The features of a subclass. -/
def features (s : Style) (r : Record) : String :=
  featureList s (featureRefs r "subclassFeatures" "subclassFeature" 5)

/-- The facets of a subclass. -/
def facets (_ : Style) (r : Record) : Facets :=
  Facets.empty
    |>.insert? "class" ((r.str? "className").map .text)
    |>.insert? "short_name" ((r.str? "shortName").map .text)

/-- The layout of subclasses. -/
def layout : Layout where
  subtitle? := fun _ r => some (((r.str? "className").map (· ++ " subclass")).getD "Subclass")
  parts := [
    .lines [
      ⟨"Class", fun _ r => r.str? "className"⟩,
      ⟨"Short Name", fun _ r => r.str? "shortName"⟩],
    .rule,
    .entries "entries",
    .custom features]
  facets := facets

end Subclass

end Compendium.Document
