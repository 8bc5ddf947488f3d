import Compendium.Render.Leaf
import Compendium.Render.Spells
import Compendium.Render.Table

/-!
# Rendering trees

`value` renders any part of the tree inside a record at a depth; the depth only
moves headings.  It is a machine word and grows by one with each block, so below the
last depth lies the first one again.  Malformed or missing parts render as nothing, so
rendering never fails.
-/

namespace Compendium.Render

open Compendium.Markdown

/-- A sidebar: a bold title over its body, quoted. -/
def sidebar (title : Option String) (body : String) : String :=
  quoteLines (joinBlocks ((title.map Style.bold).toList ++ [body]))

/-- Who said a quotation, and where. -/
def attribution? (s : Style) (r : Record) : Option String :=
  (r.str? "by").map fun who =>
    "— " ++ s.expand who ++
      match r.str? "from" with
      | some work => ", *" ++ s.expand work ++ "*"
      | none => ""

/-- A body under the heading that a record's name makes. -/
def underHeading (s : Style) (r : Record) (depth : UInt64) (extra : Nat) (body : String) : String :=
  match r.name? with
  | some name => joinBlocks [s.heading name depth extra, body]
  | none => body

/-- A body led by a record's name. -/
def ledByName (s : Style) (r : Record) (style : NameStyle) (body : String) : String :=
  match r.name? with
  | some name => namedParagraph style (s.expand name) body
  | none => body

/-- The kinds of blocks whose name leads a list item. -/
def namesListItem : BlockKind → Bool
  | .item | .itemSub | .itemSpell | .entries | .entry | .sectionBlock => true
  | _ => false

/-- A list item led by a name. -/
def namedBullet? (s : Style) (name body : String) : Option String :=
  let label := Style.bold (Text.dropEndWhile (fun c => c = '.' || c = ':') (s.expand name))
  bullet? (if body.isEmpty then label else label ++ ": " ++ body)

mutual

/-- A value of the tree at a depth. -/
def value (s : Style) (v : Json) (depth : UInt64) : String :=
  match v with
  | .null => ""
  | .bool b => s.expand (if b then "true" else "false")
  | .num n => s.expand n.display
  | .str t => s.expand t
  | .arr items => joinBlocks (items.attach.map fun ⟨item, _⟩ => value s item depth)
  | .obj fields => block s ⟨fields⟩ depth
termination_by (sizeOf v, 3)

/-- A block at a depth. -/
def block (s : Style) (r : Record) (depth : UInt64) : String :=
  match r.kind with
  | .sectionBlock => underHeading s r depth 0 (children s r (depth + 1))
  | .entry => underHeading s r depth 0 (children s r (depth + 1))
  | .entries => underHeading s r depth 1 (children s r (depth + 1))
  | .variantInner => underHeading s r depth 1 (children s r (depth + 1))
  | .options => children s r depth
  | .homebrew => children s r depth
  | .wrapper => field s r "wrapped" depth
  | .list => list s r depth
  | .table => table s r depth
  | .tableGroup =>
    joinBlocks ((r.name?.map fun name => Style.bold (s.expand name)).toList ++
      (r.records "tables").attach.map fun ⟨t, _⟩ => table s t depth)
  | .row => " | ".intercalate ((r.array "row").attach.map fun ⟨c, _⟩ => cell s c depth)
  | .cell => cellText s r depth
  | .inset => sidebar (r.name?.map s.expand) (children s r (depth + 1))
  | .flowBlock => sidebar (r.name?.map s.expand) (children s r (depth + 1))
  | .variant =>
    sidebar (r.name?.map fun name => "Variant: " ++ s.expand name) (children s r (depth + 1))
  | .insetReadaloud =>
    sidebar (r.name?.map s.expand) (mapLines italicizeLine (children s r (depth + 1)))
  | .quote =>
    quoteLines (joinBlocks (children s r (depth + 1) :: (attribution? s r).toList))
  | .variantSub => ledByName s r .boldItalic (children s r (depth + 1))
  | .item => ledByName s r .bold (children s r (depth + 1))
  | .itemSub => ledByName s r .italic (children s r (depth + 1))
  | .itemSpell => ledByName s r .plain (children s r (depth + 1))
  | .inline => runIn s r depth
  | .inlineBlock => runIn s r depth
  | .image => image s r
  | .gallery => joinBlocks ((r.records "images").map (image s))
  | .link => linkBlock s r
  | .abilityDc => saveFormula s r
  | .abilityAttackMod => attackFormula s r
  | .abilityGeneric => genericFormula s r
  | .statblock => statblock s r
  | .statblockInline => statblock s r
  | .hr => "---"
  | .bonus => bonus r ""
  | .bonusSpeed => bonus r " ft."
  | .dice => dice r
  | .code => code r
  | .flowchart => joinBlocks (elements s r "blocks" (depth + 1))
  | .spellcasting =>
    spellcastingBlock s r (field s r "headerEntries" (depth + 1))
      (field s r "footerEntries" (depth + 1))
  | .refClassFeature => seeAlso s r "classFeature"
  | .refSubclassFeature => seeAlso s r "subclassFeature"
  | .refOptionalFeature => seeAlso s r "optionalfeature"
  | .unknown =>
    if r.children?.isSome then underHeading s r depth 1 (children s r (depth + 1)) else ""
termination_by (sizeOf r, 2)
decreasing_by
  all_goals grind [Record.sizeOf_array, Record.sizeOf_records]

/-- What stands inside a block. -/
def children (s : Style) (r : Record) (depth : UInt64) : String :=
  match _h : r.children? with
  | some v => value s v depth
  | none => ""
termination_by (sizeOf r, 0)
decreasing_by
  have := Record.sizeOf_children? _h
  omega

/-- One field of a block. -/
def field (s : Style) (r : Record) (key : String) (depth : UInt64) : String :=
  match _h : r.get? key with
  | some v => value s v depth
  | none => ""
termination_by (sizeOf r, 0)
decreasing_by
  have := Record.sizeOf_get? _h
  omega

/-- The elements of an array field. -/
def elements (s : Style) (r : Record) (key : String) (depth : UInt64) : List String :=
  (r.array key).attach.map fun ⟨v, _⟩ => value s v depth
termination_by (sizeOf r, 0)
decreasing_by
  have := Record.sizeOf_array ‹_ ∈ _›
  omega

/-- Entries run together; texts among them keep their own spacing. -/
def runIn (s : Style) (r : Record) (depth : UInt64) : String :=
  Text.trim (String.join ((r.array "entries").attach.map fun ⟨v, _⟩ =>
    match v.str? with
    | some text => Inline.expand s.mode text
    | none => value s v depth))
termination_by (sizeOf r, 0)
decreasing_by
  have := Record.sizeOf_array ‹_ ∈ _›
  omega

/-- A bulleted list. -/
def list (s : Style) (r : Record) (depth : UInt64) : String :=
  "\n".intercalate
    ((r.array "items").attach.filterMap fun ⟨v, _⟩ => listItem s v (depth + 1))
termination_by (sizeOf r, 0)
decreasing_by
  have := Record.sizeOf_array ‹_ ∈ _›
  omega

/-- An item of a list: a list inside it, a named block or any other value. -/
def listItem (s : Style) (v : Json) (depth : UInt64) : Option String :=
  match _h : v.record? with
  | none => bullet? (value s v depth)
  | some r =>
    if r.kind = .list then (Text.nonEmpty? (list s r depth)).map indent
    else
      match if namesListItem r.kind then r.name? else none with
      | some name => namedBullet? s name (children s r depth)
      | none => bullet? (value s v depth)
termination_by (sizeOf v, 4)
decreasing_by
  all_goals grind [Record.sizeOf_record?]

/-- A cell record: a range of rolls, or what stands inside it. -/
def cellText (s : Style) (r : Record) (depth : UInt64) : String :=
  match r.object? "roll" with
  | some roll => rollRange roll
  | none => children s r (depth + 1)
termination_by (sizeOf r, 1)

/-- A cell, escaped for its row. -/
def cell (s : Style) (v : Json) (depth : UInt64) : String :=
  escapeCell
    (match _h : v.record? with
    | none => value s v (depth + 1)
    | some r => if r.kind = .cell then cellText s r depth else value s v (depth + 1))
termination_by (sizeOf v, 4)
decreasing_by
  all_goals grind [Record.sizeOf_record?]

/-- A table with its caption, introduction, footnotes and closing text. -/
def table (s : Style) (r : Record) (depth : UInt64) : String :=
  Grid.withParts
    { labels := (r.array "colLabels").attach.map fun ⟨c, _⟩ => cell s c depth
      rows := (tableRows r).attach.map fun ⟨row, _⟩ =>
        row.attach.map fun ⟨c, _⟩ => cell s c depth
      styles := r.strings "colStyles" }
    (((r.str? "caption").map fun caption => Style.bold (s.expand caption)).getD "")
    (field s r "intro" depth) (elements s r "footnotes" depth) (field s r "outro" depth)
termination_by (sizeOf r, 1)
decreasing_by
  all_goals grind [Record.sizeOf_array, sizeOf_tableRows]

end

theorem children_of_some {s : Style} {r : Record} {v : Json} (h : r.children? = some v)
    (depth : UInt64) : children s r depth = value s v depth := by
  rw [children]
  split
  · next w hw =>
    obtain rfl : w = v := Option.some.inj (hw.symm.trans h)
    rfl
  · next hnone => simp [h] at hnone

theorem children_of_none {s : Style} {r : Record} (h : r.children? = none) (depth : UInt64) :
    children s r depth = "" := by
  rw [children]
  split
  · next v hv => simp [h] at hv
  · rfl

theorem field_of_none {s : Style} {r : Record} {key : String} (h : r.get? key = none)
    (depth : UInt64) : field s r key depth = "" := by
  rw [field]
  split
  · next v hv => simp [h] at hv
  · rfl

/-- A record as a spellcasting block. -/
def spellcasting (s : Style) (r : Record) (depth : UInt64) : String :=
  spellcastingBlock s r (field s r "headerEntries" (depth + 1))
    (field s r "footerEntries" (depth + 1))

/-- A record as a paragraph led by its name. -/
def namedEntry (s : Style) (r : Record) (depth : UInt64) (style : NameStyle) : String :=
  ledByName s r style (children s r (depth + 1))

end Compendium.Render
