import Compendium.Inline.Expansion

/-!
# Rendering styles

The options under which records become Markdown: whether references are links,
and the level of the headings at depth zero.
-/

namespace Compendium.Render

open Compendium.Inline (Mode)

/-- The deepest level of a heading. -/
def maxLevel : Nat := 6

/-- The options of rendering. -/
structure Style where
  links : Bool
  base : Nat
  one_le_base : 1 ≤ base
  base_le_six : base ≤ 6

namespace Style

/-- A style whose base level is brought into the range of headings. -/
def make (links : Bool) (level : Nat) : Style :=
  ⟨links, max 1 (min level 6), by omega, by omega⟩

/-- The level of headings at depth zero, under a title of level one. -/
def defaultLevel : Nat := 2

instance : Inhabited Style := ⟨make false defaultLevel⟩

/-- How tags expand. -/
def mode (s : Style) : Mode :=
  .markdown s.links

/-- Expands the tags of a text and trims it. -/
def expand (s : Style) (text : String) : String :=
  Text.trim (Inline.expand s.mode text)

/-- Expands the tags of a text and takes all markup away. -/
def plainText (s : Style) (text : String) : String :=
  Inline.expand ⟨s.links, true⟩ text

/-- The level of a heading, at most six. -/
def level (s : Style) (depth : UInt64) (extra : Nat) : Nat :=
  min (s.base + depth.toNat + extra) maxLevel

/-- A heading. -/
def heading (s : Style) (title : String) (depth : UInt64) (extra : Nat) : String :=
  Text.replicate (s.level depth extra) '#' ++ " " ++ s.expand title

/-- Text in bold. -/
def bold (text : String) : String :=
  "**" ++ text ++ "**"

end Style

end Compendium.Render
