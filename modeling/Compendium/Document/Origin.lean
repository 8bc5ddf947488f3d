import Compendium.Document.Fields

/-!
# Species, backgrounds and feats
-/

namespace Compendium.Document

open Compendium.Render (Style)

namespace Species

/-- The facets of a species. -/
def facets (_ : Style) (r : Record) : Facets :=
  Facets.empty
    |>.insert? "size" ((sizes r).head?.map .text)
    |>.insert? "speed" ((walkingSpeed? r).map .int)
    |>.insert? "darkvision" ((r.int? "darkvision").map .int)
    |>.insert "movement" (.list (movement r))

/-- The layout of species. -/
def layout : Layout where
  subtitle? := fun _ _ => some "Species"
  parts := [
    .lines [
      ⟨"Size", fun _ r => size? r⟩,
      ⟨"Speed", speed?⟩,
      ⟨"Ability Scores", fun _ r => abilityIncreases? r⟩,
      ⟨"Darkvision", fun _ r => (r.int? "darkvision").map fun n => toString n ++ " ft."⟩,
      ⟨"Languages", fun s r => proficiencies? s r "languageProficiencies"⟩],
    .rule,
    .entries "entries"]
  facets := facets

end Species

namespace Background

/-- The skill that a field grants for certain. -/
def grantedSkill? : String × Json → Option String
  | (key, .bool true) => some (Text.titleCase (referenceName key))
  | _ => none

/-- The skills that a background grants for certain. -/
def grantedSkills (r : Record) : List String :=
  Text.sortDistinct
    ((r.records "skillProficiencies").flatMap fun p => p.fields.filterMap grantedSkill?)

/-- The layout of backgrounds. -/
def layout : Layout where
  subtitle? := fun _ _ => some "Background"
  parts := [
    .lines [
      ⟨"Skill Proficiencies", fun s r => proficiencies? s r "skillProficiencies"⟩,
      ⟨"Tool Proficiencies", fun s r => proficiencies? s r "toolProficiencies"⟩,
      ⟨"Languages", fun s r => proficiencies? s r "languageProficiencies"⟩,
      ⟨"Ability Scores", fun _ r => abilityIncreases? r⟩,
      ⟨"Feat", fun s r => proficiencies? s r "feats"⟩],
    .rule,
    .entries "entries"]
  facets := fun _ r => Facets.empty |>.insert "skills" (.list (grantedSkills r))

end Background

namespace Feat

/-- The kind of feat for a code. -/
def kindOfCode? : String → Option String
  | "G" => some "General"
  | "O" => some "Origin"
  | "FS" => some "Fighting Style"
  | "FS:P" => some "Fighting Style"
  | "FS:R" => some "Fighting Style"
  | "EB" => some "Epic Boon"
  | _ => none

/-- The kind of a feat. -/
def kind? (r : Record) : Option String :=
  (r.str? "category").bind kindOfCode?

/-! ### Prerequisites -/

/-- The level a feat requires, perhaps in a class. -/
def levelNeed? (p : Record) : Option String :=
  match p.get? "level" with
  | some (.num n) => some ("Level " ++ n.text)
  | some (.obj fields) =>
    let level : Record := ⟨fields⟩
    (level.int? "level").map fun n =>
      match (level.object? "class").bind Record.name? with
      | some name => Phrase.ordinal n ++ " level " ++ name
      | none => "Level " ++ toString n
  | _ => none

/-- Parts as alternatives, if there are any. -/
def anyOf? (parts : List String) : Option String :=
  if parts.isEmpty then none else some (Phrase.conjunction "or" parts)

/-- The ability scores a feat requires. -/
def abilityNeed? (p : Record) : Option String :=
  anyOf? ((p.records "ability").flatMap fun a => a.fields.filterMap fun (key, v) =>
    v.int64?.map fun n => Ability.fullName key ++ " " ++ toString n)

/-- What an element of a list of names is called. -/
def neededName? : Json → Option String
  | .str uid => some (Text.titleCase (referenceName uid))
  | .obj fields =>
    let r : Record := ⟨fields⟩
    r.name?.map fun name =>
      Text.titleCase name ++ ((r.str? "subrace").map fun sub => " (" ++ sub ++ ")").getD ""
  | _ => none

/-- The names in an array field, as alternatives. -/
def namesNeed? (p : Record) (key : String) : Option String :=
  anyOf? ((p.array key).filterMap neededName?)

/-- The proficiencies a feat requires. -/
def proficiencyNeeds (p : Record) : List String :=
  (p.records "proficiency").flatMap fun q => q.fields.filterMap fun (kind, v) =>
    v.str?.map fun what => "Proficiency with " ++ what ++ " " ++ kind

/-- What one record of prerequisites requires. -/
def needs (s : Style) (p : Record) : List String :=
  (levelNeed? p).toList ++ (abilityNeed? p).toList ++
    ["race", "species", "background", "feat"].filterMap (namesNeed? p) ++
    (if p.flag "spellcasting" || p.flag "spellcasting2020" then
      ["The ability to cast at least one spell"] else []) ++
    proficiencyNeeds p ++ ((p.str? "other").map s.expand).toList

/-- The prerequisites of a feat; its records are alternatives. -/
def prerequisite? (s : Style) (r : Record) : Option String :=
  anyOf? (((r.records "prerequisite").map fun p => ", ".intercalate (needs s p)).filter
    fun text => !text.isEmpty)

/-- The facets of a feat. -/
def facets (s : Style) (r : Record) : Facets :=
  Facets.empty
    |>.insert? "feat_category" ((kind? r).map .text)
    |>.insert? "prerequisite" ((prerequisite? s r).map fun text => .text (s.plainText text))

/-- The layout of feats. -/
def layout : Layout where
  subtitle? := fun _ r => some (((kind? r).map (· ++ " feat")).getD "Feat")
  parts := [
    .lines [
      ⟨"Prerequisite", prerequisite?⟩,
      ⟨"Ability Increase", fun _ r => abilityIncreases? r⟩],
    .rule,
    .entries "entries"]
  facets := facets

end Feat

end Compendium.Document
