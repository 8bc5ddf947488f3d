import Compendium.Ability
import Compendium.Category
import Compendium.Decimal.Integer
import Compendium.Markdown.Code
import Compendium.Markdown.Link
import Compendium.Slug

/-!
# What tags mean

`Kind.ofName` sorts the names of tags into kinds, and `render` gives the text
that takes the place of a tag whose arguments are already expanded.
-/

namespace Compendium.Inline

/-- How text is set off. -/
inductive Emphasis where
  | bold
  | italic
  | strike
  | code
  | plain
  deriving DecidableEq, Repr

/-- Fixed phrases that announce what follows. -/
inductive Marker where
  | hit
  | miss
  | hitOrMiss
  | saveFail
  | saveSuccess
  | saveSuccessOrFail
  | trigger
  | response
  deriving DecidableEq, Repr

/-- The phrase of a marker. -/
def Marker.phrase : Marker → String
  | hit => "Hit:"
  | miss => "Miss:"
  | hitOrMiss => "Hit or Miss:"
  | saveFail => "Failure:"
  | saveSuccess => "Success:"
  | saveSuccessOrFail => "Failure or Success:"
  | trigger => "Trigger:"
  | response => "Response:"

/-- A kind of tag. -/
inductive Kind where
  /-- The first argument, set off. -/
  | wrap (emphasis : Emphasis)
  /-- A reference to another entity: set off, or linked. -/
  | reference (emphasis : Emphasis)
  /-- A dice expression. -/
  | dice
  /-- A dice expression that grows; the third argument is the die it grows by. -/
  | scaleDice
  /-- A bonus with its sign. -/
  | hit
  /-- The difficulty of a saving throw. -/
  | dc
  /-- A kind of attack. -/
  | attack
  /-- A kind of attack, worded as a roll. -/
  | attackRoll
  /-- A saving throw of an ability. -/
  | save
  /-- The rolls on which something recharges. -/
  | recharge
  /-- A chance in percent. -/
  | chance
  /-- A fixed phrase in italics. -/
  | marker (m : Marker)
  /-- A fixed text. -/
  | literal (text : String)
  /-- A tag that only annotates its first argument. -/
  | passThrough
  /-- A link to the second argument. -/
  | link
  /-- Any other tag; its first argument. -/
  | unknown
  deriving DecidableEq, Repr

/-- The tags of references that are set in italics. -/
def italicReferences : List String :=
  ["spell", "item", "book", "adventure", "class", "subclass", "feat", "background", "race",
    "optfeature", "deity", "vehicle", "vehupgrade", "trap", "hazard", "variantrule", "deck", "card",
    "table", "reward", "object", "disease", "status", "psionic", "cult", "boon", "charoption",
    "recipe", "facility", "itemMastery", "classFeature", "subclassFeature", "legroup", "language"]

/-- The tags of references that are not set off. -/
def plainReferences : List String :=
  ["condition", "skill", "sense", "action", "quickref"]

/-- The tags that only annotate. -/
def annotations : List String :=
  ["filter", "5etools", "area", "color", "highlight", "font", "style", "u", "underline", "sup",
    "sub", "help", "unit", "loader", "homebrew", "footnote", "kbd", "tip"]

/-- The tags of every other kind. -/
def namedKinds : List (String × Kind) :=
  [("b", .wrap .bold), ("bold", .wrap .bold), ("i", .wrap .italic), ("italic", .wrap .italic),
    ("note", .wrap .italic), ("s", .wrap .strike), ("strike", .wrap .strike),
    ("s2", .wrap .strike), ("strikeDouble", .wrap .strike), ("code", .wrap .code),
    ("dice", .dice), ("damage", .dice), ("autodice", .dice), ("scaledice", .scaleDice),
    ("scaledamage", .scaleDice), ("hit", .hit), ("d20", .hit), ("dc", .dc), ("atk", .attack),
    ("atkr", .attackRoll), ("actSave", .save), ("recharge", .recharge), ("chance", .chance),
    ("h", .marker .hit), ("m", .marker .miss), ("hom", .marker .hitOrMiss),
    ("actSaveFail", .marker .saveFail), ("actSaveSuccess", .marker .saveSuccess),
    ("actSaveSuccessOrFail", .marker .saveSuccessOrFail), ("actTrigger", .marker .trigger),
    ("actResponse", .marker .response),
    ("hitYourSpellAttack", .literal "your spell attack modifier"),
    ("coinflip", .literal "flip a coin"), ("creature", .reference .bold), ("link", .link)]

/-- The kind of a tag. -/
def Kind.ofName (name : String) : Kind :=
  match namedKinds.lookup name with
  | some kind => kind
  | none =>
    if name ∈ italicReferences then .reference .italic
    else if name ∈ plainReferences then .reference .plain
    else if name ∈ annotations then .passThrough
    else .unknown

/-- How tags expand. -/
structure Mode where
  /-- Whether references become links. -/
  links : Bool
  /-- Whether all markup is left out, links too. -/
  plain : Bool
  deriving DecidableEq, Repr

/-- Tags expand to Markdown. -/
def Mode.markdown (links : Bool) : Mode := ⟨links, false⟩

/-- Sets a text off. -/
def emphasize (mode : Mode) (emphasis : Emphasis) (text : String) : String :=
  if text.isEmpty || mode.plain then text
  else match emphasis with
    | .bold => "**" ++ text ++ "**"
    | .italic => "*" ++ text ++ "*"
    | .strike => "~~" ++ text ++ "~~"
    | .code => Markdown.codeSpan text
    | .plain => text

/-- The argument that holds the text to show for a reference. -/
def displayIndex : String → Nat
  | "classFeature" => 5
  | "subclassFeature" => 7
  | "subclass" => 4
  | "card" => 3
  | "deity" => 3
  | _ => 2

/-- The argument at a place, trimmed; `fallback` if it is missing or blank. -/
def argumentOr (args : List String) (n : Nat) (fallback : String) : String :=
  ((args[n]?.map Text.trim).bind Text.nonEmpty?).getD fallback

/-- A link to the document that a name has in a category. -/
def documentLink (display : String) (category : Category) (slug : String) : String :=
  "[" ++ display ++ "](../" ++ category.dir ++ "/" ++ slug ++ ".md)"

/-- The text of a reference to `target`. -/
def referenceText (mode : Mode) (emphasis : Emphasis) (tag target display : String) : String :=
  match Category.ofReferenceTag? tag with
  | some category =>
    let slug := Slug.slug target
    if !mode.plain && mode.links && !slug.isEmpty then documentLink display category slug
    else emphasize mode emphasis display
  | none => emphasize mode emphasis display

/-- A bonus with its sign. -/
def bonusText (arg : String) : String :=
  match Decimal.parseInt64? (arg.toList.dropWhile (· = '+')) with
  | some n => Phrase.signed n
  | none =>
    match arg.toList with
    | [] => ""
    | c :: _ => if c = '+' || c = '-' then arg else "+" ++ arg

/-- The parts of a text between commas, trimmed; blank ones are left out. -/
def commaParts (text : String) : List String :=
  ((Text.splitOn ',' text).map Text.trim).filter fun part => !part.isEmpty

/-- Phrases for codes of attacks, melee before ranged. -/
def attackPhrases : List (String × String) :=
  [("m", "Melee Attack"), ("r", "Ranged Attack"), ("mw", "Melee Weapon Attack"),
    ("rw", "Ranged Weapon Attack"), ("ms", "Melee Spell Attack"), ("rs", "Ranged Spell Attack"),
    ("m,r", "Melee or Ranged Attack"), ("mw,rw", "Melee or Ranged Weapon Attack"),
    ("ms,rs", "Melee or Ranged Spell Attack")]

/-- Phrases for codes of attack rolls. -/
def attackRollPhrases : List (String × String) :=
  [("m", "Melee Attack Roll"), ("r", "Ranged Attack Roll"), ("m,r", "Melee or Ranged Attack Roll")]

/-- The codes of an attack in lower case, melee before ranged, neighbours that
are equal written once. -/
def attackCodes (text : String) : List String :=
  let codes := (commaParts text).map Text.asciiLower
  let melee (code : String) : Bool := Text.beginsWith "m" code
  (codes.filter melee ++ codes.filter fun code => !melee code).eraseReps

/-- The phrase for codes of an attack; `generic` for codes that have none. -/
def attackPhrase (phrases : List (String × String)) (generic : String) (text : String) : String :=
  ((phrases.lookup (",".intercalate (attackCodes text))).getD generic) ++ ":"

/-- The announcement of a saving throw. -/
def savePhrase (text : String) : String :=
  let abilities := (commaParts text).map Ability.fullName
  if abilities.isEmpty then "Saving Throw:"
  else " or ".intercalate abilities ++ " Saving Throw:"

/-- The text that takes the place of a tag, from its name and its expanded
arguments. -/
def render (mode : Mode) (name : String) (args : List String) : String :=
  let first := Text.trim (args.headD "")
  match Kind.ofName name with
  | .wrap emphasis => emphasize mode emphasis first
  | .reference emphasis =>
    referenceText mode emphasis name first (argumentOr args (displayIndex name) first)
  | .dice => emphasize mode .code first
  | .scaleDice => emphasize mode .code (argumentOr args 2 first)
  | .hit => bonusText first
  | .dc => if first.isEmpty then "DC" else "DC " ++ first
  | .attack => emphasize mode .italic (attackPhrase attackPhrases "Attack" first)
  | .attackRoll => emphasize mode .italic (attackPhrase attackRollPhrases "Attack Roll" first)
  | .save => emphasize mode .italic (savePhrase first)
  | .recharge =>
    if first.isEmpty || first = "6" then "(Recharge 6)" else "(Recharge " ++ first ++ "-6)"
  | .chance => if first.isEmpty then "" else first ++ "%"
  | .marker m => emphasize mode .italic m.phrase ++ " "
  | .literal text => text
  | .passThrough => first
  | .unknown => first
  | .link =>
    let target := Text.trim (args[1]?.getD "")
    if mode.plain || target.isEmpty then first
    else Markdown.link (if first.isEmpty then target else first) target

end Compendium.Inline
