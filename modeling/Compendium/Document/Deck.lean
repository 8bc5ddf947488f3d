import Compendium.Document.Fields

/-!
# Decks and tables
-/

namespace Compendium.Document

open Compendium.Render (Style)

namespace Deck

/-- A card and how often it is in the deck. -/
def card? : Json → Option (String × Int)
  | .str uid => some (referenceName uid, 1)
  | .obj fields =>
    let card : Record := ⟨fields⟩
    (card.str? "uid").map fun uid => (referenceName uid, max ((card.int? "count").getD 1) 1)
  | _ => none

/-- The cards that have a name. -/
def cards (r : Record) : List (String × Int) :=
  ((r.array "cards").filterMap card?).filter fun card => !card.1.isEmpty

/-- A card as a list item. -/
def cardLine (card : String × Int) : String :=
  "- " ++ card.1 ++ (if card.2 = 1 then "" else " (×" ++ toString card.2 ++ ")")

/-- The list of cards. -/
def cardList (s : Style) (r : Record) : String :=
  match Text.joined? "\n" ((cards r).map cardLine) with
  | some lines => s.heading "Cards" 0 0 ++ "\n\n" ++ lines
  | none => ""

/-- The number of cards. -/
def size (r : Record) : Int :=
  Decimal.sumInt64 0 ((cards r).map Prod.snd)

/-- The layout of decks. -/
def layout : Layout where
  subtitle? := fun _ _ => some "Deck"
  parts := [.rule, .entries "entries", .custom cardList]
  facets := fun _ r =>
    Facets.empty |>.insert? "cards" (if 0 < size r then some (.int (size r)) else none)

end Deck

namespace Table

/-- A lone table, or every table of a group. -/
def body (s : Style) (r : Record) : String :=
  match r.array "tables" with
  | [] => Render.table s r 0
  | tables => Markdown.joinBlocks (tables.map fun table => Render.value s table 0)

/-- The columns and rows of a table: columns by the labels and the rows that are
arrays, rows as they are listed. -/
def shape (table : Record) : Nat × Nat :=
  let rows := table.array "rows"
  let widths := (rows.filterMap Json.arr?).map List.length
  (widths.foldl max (table.array "colLabels").length, rows.length)

/-- The widest table of a group, and the rows of all. -/
def groupShape (r : Record) : Nat × Nat :=
  match r.array "tables" with
  | [] => shape r
  | tables =>
    ((tables.filterMap Json.record?).map shape).foldl
      (fun total s => (max total.1 s.1, total.2 + s.2)) (0, 0)

/-- The facets of a table. -/
def facets (_ : Style) (r : Record) : Facets :=
  let (columns, rows) := groupShape r
  if 0 < columns then
    Facets.empty |>.insert "columns" (.int columns) |>.insert "rows" (.int rows)
  else Facets.empty

/-- The layout of tables. -/
def layout : Layout where
  subtitle? := fun _ _ => some "Table"
  parts := [.rule, .custom body]
  facets := facets

end Table

end Compendium.Document
