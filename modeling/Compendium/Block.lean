import Compendium.Record

/-!
# Blocks

The tree inside a record is made of texts, lists and typed blocks.  The kind of
a block is named by its `type`; an object without one is a run of entries if it
has any.
-/

namespace Compendium

/-- The kind of a block. -/
inductive BlockKind where
  /-- Named part with a heading. -/
  | sectionBlock
  /-- Named part with a heading one level further down. -/
  | entries
  /-- Named part with a heading, under another name. -/
  | entry
  /-- Bulleted list. -/
  | list
  /-- Table with column labels. -/
  | table
  /-- Tables under one name. -/
  | tableGroup
  /-- Styled table row. -/
  | row
  /-- Table cell, perhaps a range of rolls. -/
  | cell
  /-- Sidebar. -/
  | inset
  /-- Text to be read aloud. -/
  | insetReadaloud
  /-- Quotation with an attribution. -/
  | quote
  /-- Sidebar with a variant rule. -/
  | variant
  /-- Named part of a variant rule. -/
  | variantInner
  /-- Named paragraph of a variant rule. -/
  | variantSub
  /-- Alternatives. -/
  | options
  /-- Paragraph led by its name in bold. -/
  | item
  /-- Paragraph led by its name in italics. -/
  | itemSub
  /-- Paragraph led by its plain name. -/
  | itemSpell
  /-- Children run together. -/
  | inline
  /-- Children run together as a paragraph. -/
  | inlineBlock
  /-- Image. -/
  | image
  /-- Several images. -/
  | gallery
  /-- Link. -/
  | link
  /-- Formula of a saving throw's difficulty. -/
  | abilityDc
  /-- Formula of an attack modifier. -/
  | abilityAttackMod
  /-- Formula of another kind. -/
  | abilityGeneric
  /-- Reference to a statblock. -/
  | statblock
  /-- Statblock in place; shown as a reference. -/
  | statblockInline
  /-- Horizontal rule. -/
  | hr
  /-- Bonus with its sign. -/
  | bonus
  /-- Bonus to a speed. -/
  | bonusSpeed
  /-- Dice expression. -/
  | dice
  /-- Preformatted text. -/
  | code
  /-- Steps in order. -/
  | flowchart
  /-- One step of a flowchart. -/
  | flowBlock
  /-- Wrapper around children. -/
  | homebrew
  /-- Wrapper around one value. -/
  | wrapper
  /-- Spells by how they are cast. -/
  | spellcasting
  /-- Pointer to a class feature. -/
  | refClassFeature
  /-- Pointer to a subclass feature. -/
  | refSubclassFeature
  /-- Pointer to an optional feature. -/
  | refOptionalFeature
  /-- Any other kind. -/
  | unknown
  deriving DecidableEq, Repr

/-- The names of the kinds. -/
def BlockKind.names : List (String × BlockKind) :=
  [("section", .sectionBlock), ("entries", .entries), ("entry", .entry), ("list", .list),
    ("table", .table), ("tableGroup", .tableGroup), ("row", .row), ("cell", .cell),
    ("inset", .inset), ("insetReadaloud", .insetReadaloud), ("quote", .quote),
    ("variant", .variant), ("variantInner", .variantInner), ("variantSub", .variantSub),
    ("options", .options), ("item", .item), ("itemSub", .itemSub), ("itemSpell", .itemSpell),
    ("inline", .inline), ("inlineBlock", .inlineBlock), ("image", .image), ("gallery", .gallery),
    ("link", .link), ("abilityDc", .abilityDc), ("abilityAttackMod", .abilityAttackMod),
    ("abilityGeneric", .abilityGeneric), ("statblock", .statblock),
    ("statblockInline", .statblockInline), ("hr", .hr), ("bonus", .bonus),
    ("bonusSpeed", .bonusSpeed), ("dice", .dice), ("code", .code), ("flowchart", .flowchart),
    ("flowBlock", .flowBlock), ("homebrew", .homebrew), ("wrapper", .wrapper),
    ("spellcasting", .spellcasting), ("refClassFeature", .refClassFeature),
    ("refSubclassFeature", .refSubclassFeature), ("refOptionalfeature", .refOptionalFeature)]

/-- The kind with a name. -/
def BlockKind.ofType (name : String) : BlockKind :=
  (names.lookup name).getD .unknown

/-- The kind of block a record is. -/
def Record.kind (r : Record) : BlockKind :=
  match r.type? with
  | some name => BlockKind.ofType name
  | none => if r.has "entries" then .entries else .unknown

/-- A value as a part of the tree inside a record. -/
inductive Node where
  | text (t : String)
  | list (items : List Json)
  | block (kind : BlockKind) (r : Record)
  | empty

/-- Reads a value as a part of the tree. -/
def Node.ofJson : Json → Node
  | .str s => .text s
  | .num n => .text n.display
  | .bool b => .text (if b then "true" else "false")
  | .arr items => .list items
  | .obj fields => .block (Record.kind ⟨fields⟩) ⟨fields⟩
  | .null => .empty

end Compendium
