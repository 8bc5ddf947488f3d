import Compendium.Document.Challenge
import Compendium.Text.Case

/-!
# Orders of keys

The groups of a cross reference come in the order of their keys.  Each order
falls back on the order of texts, so that keys compare as equal only if they are
the same text or, for numbers, have the same place.
-/

namespace Compendium.Index

/-- Texts without regard to case, then as they stand. -/
def byText : String → String → Ordering :=
  compareLex (compareOn Text.lower) (compareOn id)

/-- Texts with a place in front of those without one, by their places; the others
as texts. -/
def byPlace (place? : String → Option Int) (a b : String) : Ordering :=
  match place? a, place? b with
  | some m, some n => compare m n
  | some _, none => .lt
  | none, some _ => .gt
  | none, none => byText a b

/-- Numbers by value, then other texts. -/
def byNumber : String → String → Ordering :=
  byPlace fun text => Decimal.place? text.toList

/-- Challenge ratings by value, then other texts. -/
def byRating : String → String → Ordering :=
  byPlace Challenge.place?

/-- The rarities in ascending order of power. -/
def rarities : List String :=
  ["none", "common", "uncommon", "rare", "very rare", "legendary", "artifact", "varies"]

/-- The place of a rarity; an unknown one stands last. -/
def rarityRank (rarity : String) : Nat :=
  rarities.idxOf (Text.asciiLower rarity)

/-- Rarities by power, then as texts. -/
def byRarity : String → String → Ordering :=
  compareLex (compareOn rarityRank) byText

end Compendium.Index
