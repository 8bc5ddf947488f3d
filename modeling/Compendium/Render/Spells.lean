import Compendium.Block
import Compendium.Markdown.Blocks
import Compendium.Render.Style

/-!
# Lists of spells

The bullets of a spellcasting block: spells cast at will, a number of times a
period, with slots of a level, and as rituals.
-/

namespace Compendium.Render

/-- The spells of a list, expanded; blank ones are left out. -/
def spellList (s : Style) (spells : List Json) : String :=
  ", ".intercalate
    (((spells.filterMap Json.str?).map s.expand).filter fun spell => !spell.isEmpty)

/-- A bullet, unless its list is empty. -/
def spellBullet? (label list : String) : Option String :=
  if list.isEmpty then none else some ("- " ++ label ++ ": " ++ list)

/-- Spells that share a number of uses; `each` tells that every one has as many. -/
structure UseGroup where
  uses : Int
  each : Bool
  spells : List Json

/-- Reads a number of uses, such as `3` or `1e`, and its spells. -/
def UseGroup.ofField? (f : String × Json) : Option UseGroup :=
  (Decimal.parseInt64? (Chars.dropEndWhile (· = 'e') f.1.toList)).map fun n =>
    ⟨n, f.1.toList.getLast? = some 'e', f.2.elements⟩

/-- More uses come first, and `each` before the others of one number. -/
def UseGroup.precedes (a b : UseGroup) : Bool :=
  b.uses < a.uses || (a.uses = b.uses && (a.each || !b.each))

/-- The bullets of spells cast a number of times a period. -/
def useBullets (s : Style) (r : Record) (key period : String) : List String :=
  let groups := ((r.object? key).map Record.fields).getD []
  ((groups.filterMap UseGroup.ofField?).mergeSort UseGroup.precedes).filterMap fun g =>
    spellBullet? (toString g.uses ++ "/" ++ period ++ (if g.each then " each" else ""))
      (spellList s g.spells)

/-- The label of spells of a level. -/
def levelLabel (level : Int) (group : Record) : String :=
  if level = 0 then "Cantrips (at will)"
  else
    Phrase.ordinal level ++ " level" ++
      match group.int? "slots" with
      | some n => if n = 1 then " (1 slot)" else " (" ++ toString n ++ " slots)"
      | none => ""

/-- A level and the spells of it. -/
def levelGroup? (f : String × Json) : Option (Int × Record) := do
  return (← Decimal.parseInt64? f.1.toList, ← f.2.record?)

/-- The bullets of spells cast with slots, in order of level. -/
def levelBullets (s : Style) (r : Record) : List String :=
  let groups := ((r.object? "spells").map Record.fields).getD []
  ((groups.filterMap levelGroup?).mergeSort fun a b => a.1 ≤ b.1).filterMap fun (level, group) =>
    spellBullet? (levelLabel level group) (spellList s (group.array "spells"))

/-- All bullets of a spellcasting block. -/
def spellBullets (s : Style) (r : Record) : List String :=
  (spellBullet? "At will" (spellList s (r.array "will"))).toList ++
    useBullets s r "daily" "day" ++ useBullets s r "rest" "rest" ++
    useBullets s r "weekly" "week" ++ levelBullets s r ++
    (spellBullet? "Rituals" (spellList s (r.array "ritual"))).toList

/-- A spellcasting block between its lead and its closing text. -/
def spellcastingBlock (s : Style) (r : Record) (lead closing : String) : String :=
  Markdown.joinBlocks
    [Markdown.namedParagraph .boldItalic (s.expand (r.name?.getD "Spellcasting")) lead,
      "\n".intercalate (spellBullets s r), closing]

end Compendium.Render
