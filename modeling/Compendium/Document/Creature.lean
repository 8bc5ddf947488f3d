import Compendium.Document.Challenge
import Compendium.Document.Defense

/-!
# Creatures
-/

namespace Compendium.Document.Creature

open Compendium.Render (Style)

/-! ### Type and alignment -/

/-- The type of creature, without its tags. -/
def baseType? (r : Record) : Option String :=
  match r.get? "type" with
  | some (.str kind) => some kind
  | some (.obj fields) =>
    match fields.lookup "type" with
    | some (.str kind) => some kind
    | some (.obj choose) =>
      let options := (((choose.lookup "choose").bind Json.arr?).getD []).filterMap Json.str?
      if options.isEmpty then none else some (Phrase.conjunction "or" options)
    | _ => none
  | _ => none

/-- A tag of a type. -/
def typeTag? : Json → Option String
  | .str tag => some tag
  | .obj fields =>
    let tag : Record := ⟨fields⟩
    (tag.str? "tag").map fun name => ((tag.str? "prefix").map (· ++ " ")).getD "" ++ name
  | _ => none

/-- The type of creature with its swarm and its tags. -/
def creatureType? (r : Record) : Option String :=
  (baseType? r).map fun base =>
    match r.object? "type" with
    | none => base
    | some details =>
      let text := match details.str? "swarmSize" with
        | some size => "swarm of " ++ sizeName size ++ " " ++ base ++ "s"
        | none => base
      text ++ ((Text.joined? ", " ((details.array "tags").filterMap typeTag?)).map
        fun tags => " (" ++ tags ++ ")").getD ""

/-- The word for a code of an alignment. -/
def alignmentWord? : String → Option String
  | "L" => some "lawful"
  | "N" => some "neutral"
  | "NX" => some "neutral"
  | "NY" => some "neutral"
  | "C" => some "chaotic"
  | "G" => some "good"
  | "E" => some "evil"
  | "U" => some "unaligned"
  | "A" => some "any alignment"
  | _ => none

/-- The phrase for codes that stand for many alignments at once. -/
def wideAlignment? (codes : List String) : Option String :=
  let has (code : String) : Bool := codes.contains code
  let axes := has "L" && has "NX" && has "C"
  let morals := has "G" && has "NY" && has "E"
  let n := codes.length
  if n = 5 && morals && !has "L" then some "any non-lawful alignment"
  else if n = 5 && morals && !has "C" then some "any non-chaotic alignment"
  else if n = 5 && axes && !has "G" then some "any non-good alignment"
  else if n = 5 && axes && !has "E" then some "any non-evil alignment"
  else if n = 4 && axes && has "G" then some "any good alignment"
  else if n = 4 && axes && has "E" then some "any evil alignment"
  else if n = 4 && morals && has "L" then some "any lawful alignment"
  else if n = 4 && morals && has "C" then some "any chaotic alignment"
  else if 6 ≤ n then some "any alignment"
  else none

/-- The alignment that codes spell. -/
def alignmentOfCodes? (codes : List String) : Option String :=
  if codes.isEmpty then none
  else if codes.contains "A" then some "any alignment"
  else match wideAlignment? codes with
    | some phrase => some phrase
    | none =>
      let words := codes.filterMap alignmentWord?
      if words = ["neutral", "neutral"] then some "neutral" else Text.joined? " " words

/-- One of several alignments, with its chance. -/
def alignmentOption? (s : Style) (option : Record) : Option String :=
  match option.str? "special" with
  | some special => some (s.expand special)
  | none =>
    (alignmentOfCodes? (option.strings "alignment")).map fun text =>
      text ++ ((option.int? "chance").map fun n => " (" ++ toString n ++ "%)").getD ""

/-- The alignment; a list of records holds alternatives. -/
def alignment? (s : Style) (r : Record) : Option String :=
  let values := r.array "alignment"
  if !values.isEmpty && values.all fun v => v.record?.isSome then
    let options := (r.records "alignment").filterMap (alignmentOption? s)
    if options.isEmpty then none else some (Phrase.conjunction "or" options)
  else alignmentOfCodes? (r.strings "alignment")

/-- The line under the title. -/
def subtitle? (s : Style) (r : Record) : Option String :=
  let head := " ".intercalate ((size? r).toList ++ (creatureType? r).toList)
  match alignment? s r with
  | none => Text.nonEmpty? head
  | some alignment =>
    some (if head.isEmpty then Text.capitalize alignment else head ++ ", " ++ alignment)

/-! ### Defenses -/

/-- One armor class, with where it comes from. -/
def armorPart? (s : Style) : Json → Option String
  | .num n => some n.text
  | .obj fields =>
    let ac : Record := ⟨fields⟩
    match ac.str? "special" with
    | some special => some (s.expand special)
    | none =>
      (ac.int? "ac").map fun n =>
        toString n ++ ((listText? s ac "from").map fun source => " (" ++ source ++ ")").getD "" ++
          ((ac.str? "condition").map fun condition => " " ++ s.expand condition).getD ""
  | _ => none

/-- The armor class. -/
def armorClass? (s : Style) (r : Record) : Option String :=
  Text.joined? ", " ((r.array "ac").filterMap (armorPart? s))

/-- The hit points. -/
def hitPoints? (s : Style) (r : Record) : Option String :=
  (r.object? "hp").bind fun hp =>
    match hp.str? "special" with
    | some special => some (s.expand special)
    | none =>
      (hp.int? "average").map fun average =>
        toString average ++
          ((hp.str? "formula").map fun formula => " (" ++ Text.trim formula ++ ")").getD ""

/-! ### Details -/

/-- A bonus with its sign; other text stays as it is. -/
def bonusText (bonus : String) : String :=
  match Decimal.parseInt64? (Chars.trim bonus.toList) with
  | some n => Phrase.signed n
  | none => Text.trim bonus

/-- The bonuses to saving throws. -/
def savingThrows? (_ : Style) (r : Record) : Option String :=
  (r.object? "save").bind fun saves =>
    Text.joined? ", " (Ability.keys.filterMap fun key =>
      (saves.text? key).map fun bonus => Text.capitalize key ++ " " ++ bonusText bonus)

/-- A skill with its bonus. -/
def skill? (f : String × Json) : Option (String × String) :=
  match f.2 with
  | .str bonus => some (Text.titleCase f.1, bonusText bonus)
  | .num n => some (Text.titleCase f.1, bonusText n.text)
  | _ => none

/-- Pairs in order of their first parts, then of their second ones. -/
def pairLe (a b : String × String) : Bool :=
  a.1 < b.1 || (a.1 = b.1 && a.2 ≤ b.2)

/-- The bonuses to skills, by name. -/
def skills? (_ : Style) (r : Record) : Option String :=
  (r.object? "skill").bind fun skills =>
    Text.joined? ", " (((skills.fields.filterMap skill?).mergeSort pairLe).map
      fun (name, bonus) => name ++ " " ++ bonus)

/-- The senses, with passive perception last. -/
def senses? (s : Style) (r : Record) : Option String :=
  Text.joined? ", " (elementTexts s (r.array "senses") ++
    ((r.int? "passive").map fun n => "passive Perception " ++ toString n).toList)

/-- The languages; a dash for none. -/
def languages? (s : Style) (r : Record) : Option String :=
  if r.has "languages" then some ((listText? s r "languages").getD "—") else none

/-- The bonus that goes with the challenge rating. -/
def proficiency? (_ : Style) (r : Record) : Option String :=
  ((Challenge.Rating.ofRecord? r).bind fun c => Challenge.parse? c.text).map fun rating =>
    Phrase.signed (Challenge.proficiencyBonus rating)

/-! ### Actions -/

/-- What a creature is called in running text. -/
def subject (s : Style) (r : Record) : String :=
  let name := (r.name?.map s.plainText).getD ""
  if r.flag "isNamedCreature" then name
  else "the " ++ (r.str? "shortName").getD (Text.lower name)

/-- The text in front of legendary actions. -/
def legendaryIntro (s : Style) (r : Record) : String :=
  match r.get? "legendaryHeader" with
  | some header => Render.value s header 1
  | none =>
    let name := Text.capitalize (subject s r)
    name ++ " can take " ++ toString ((r.int? "legendaryActions").getD 3) ++
      " legendary actions, choosing from the options below. Only one legendary action can be " ++
      "used at a time and only at the end of another creature's turn. " ++ name ++
      " regains spent legendary actions at the start of its turn."

/-- A heading over the items that are not blank. -/
def actionGroup (s : Style) (title : String) (intro : Option String) (items : List String) :
    String :=
  group s title intro (items.filter fun item => !Text.isBlank item)

/-- The features in an array field. -/
def featuresOf (s : Style) (r : Record) (key : String) : List String :=
  (r.array key).map (featureText s)

/-- The groups of actions, in the order of a statblock. -/
def actions (s : Style) (r : Record) : String :=
  Markdown.joinBlocks [
    actionGroup s "Traits" none (featuresOf s r "trait"),
    actionGroup s "Spellcasting" none
      ((r.records "spellcasting").map fun block => Render.spellcasting s block 1),
    actionGroup s "Actions" none (featuresOf s r "action"),
    actionGroup s "Bonus Actions" none (featuresOf s r "bonus"),
    actionGroup s "Reactions" none (featuresOf s r "reaction"),
    actionGroup s "Legendary Actions" (some (legendaryIntro s r)) (featuresOf s r "legendary"),
    actionGroup s "Mythic Actions"
      ((r.get? "mythicHeader").map fun header => Render.value s header 1)
      (featuresOf s r "mythic")]

/-! ### Facets and layout -/

/-- The facets of a creature. -/
def facets (_ : Style) (r : Record) : Facets :=
  let rating := (Challenge.Rating.ofRecord? r).map fun c => c.text
  Facets.empty
    |>.insert? "cr_value" ((rating.bind Challenge.parse?).map .number)
    |>.insert? "cr" (rating.map .text)
    |>.insert? "type" ((baseType? r).map fun kind => .text (Text.lower kind))
    |>.insert? "size" ((sizes r).head?.map .text)
    |>.insert "movement" (.list (movement r))
    |>.insert "immunities" (.list (Defense.names r "immune"))
    |>.insert "resistances" (.list (Defense.names r "resist"))
    |>.insert "conditions" (.list (lowerList (r.strings "conditionInflict")))
    |>.insert "damage_types" (.list (taggedDamage r))
    |>.insert "legendary" (.flag !(r.array "legendary").isEmpty)
    |>.insert "environment" (.list (lowerList (r.strings "environment")))

/-- The layout of creatures. -/
def layout : Layout where
  subtitle? := subtitle?
  parts := [
    .lines [⟨"Armor Class", armorClass?⟩, ⟨"Hit Points", hitPoints?⟩, ⟨"Speed", speed?⟩],
    .abilityScores,
    .lines [
      ⟨"Saving Throws", savingThrows?⟩,
      ⟨"Skills", skills?⟩,
      ⟨"Damage Vulnerabilities", Defense.field? "vulnerable"⟩,
      ⟨"Damage Resistances", Defense.field? "resist"⟩,
      ⟨"Damage Immunities", Defense.field? "immune"⟩,
      ⟨"Condition Immunities", Defense.field? "conditionImmune"⟩,
      ⟨"Senses", senses?⟩,
      ⟨"Languages", languages?⟩,
      ⟨"Challenge", fun _ r => (Challenge.Rating.ofRecord? r).map Challenge.Rating.display⟩,
      ⟨"Proficiency Bonus", proficiency?⟩],
    .rule,
    .custom actions,
    .entries "entries"]
  facets := facets

end Compendium.Document.Creature
