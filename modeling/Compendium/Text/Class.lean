import Compendium.Text.ClassTables

/-!
# Classes of characters

Tests for the Unicode properties that names and prose are read by.  ASCII is
answered directly; every other character is looked up in the tables.
-/

namespace Compendium.Text

/-- Whether a code point lies in one of the ranges. -/
def inRanges (ranges : List (Nat × Nat)) (c : Nat) : Bool :=
  ranges.any fun r => r.1 ≤ c && c ≤ r.2

/-- White space, as Unicode's `White_Space` has it. -/
def isSpace (c : Char) : Bool :=
  let n := c.toNat
  (0x09 ≤ n && n ≤ 0x0D) || n == 0x20 || n == 0x85 || n == 0xA0 || n == 0x1680 ||
    (0x2000 ≤ n && n ≤ 0x200A) || n == 0x2028 || n == 0x2029 || n == 0x202F || n == 0x205F ||
    n == 0x3000

/-- A letter, a number or another alphabetic character of any script. -/
def isAlphanumeric (c : Char) : Bool :=
  if c.toNat < 0x80 then c.isAlphanum else inRanges alphanumericRanges c.toNat

/-- A character that has case: upper, lower or title. -/
def isCased (c : Char) : Bool :=
  if c.toNat < 0x80 then c.isAlpha else inRanges casedRanges c.toNat

/-- A character that a search for neighbouring letters looks through. -/
def isCaseIgnorable (c : Char) : Bool :=
  inRanges caseIgnorableRanges c.toNat

theorem isAlphanumeric_of_lt {c : Char} (h : c.toNat < 0x80) : isAlphanumeric c = c.isAlphanum := by
  rw [isAlphanumeric, if_pos h]

end Compendium.Text
