import Compendium.Block
import Compendium.Markdown.Blocks
import Compendium.Markdown.TableRow

/-!
# Tables

Which values are the cells of a table, and how rendered cells become a grid.
The grid is as wide as its widest row; only the header is filled up.
-/

namespace Compendium.Render

/-- The cells of a row: an array, an object with an array `row`, or a lone text
or number. -/
def rowCells? (row : Json) : Option (List Json) :=
  match row with
  | .arr cells => some cells
  | .obj fields => (Record.get? ⟨fields⟩ "row").bind Json.arr?
  | .str _ => some [row]
  | .num _ => some [row]
  | _ => none

/-- The rows of a table. -/
def tableRows (r : Record) : List (List Json) :=
  (r.array "rows").filterMap rowCells?

theorem sizeOf_rowCells {row c : Json} {cells : List Json} (h : rowCells? row = some cells)
    (hc : c ∈ cells) : sizeOf c ≤ sizeOf row := by
  cases row with
  | arr items =>
    cases h
    have := List.sizeOf_lt_of_mem hc
    simp; omega
  | obj fields =>
    obtain ⟨v, hv, he⟩ := Option.bind_eq_some_iff.1 h
    have hlt := Record.sizeOf_get? hv
    cases v <;> simp [Json.arr?] at he
    subst he
    have := List.sizeOf_lt_of_mem hc
    simp at hlt ⊢; omega
  | str s => cases h; simp at hc; subst hc; exact Nat.le_refl _
  | num n => cases h; simp at hc; subst hc; exact Nat.le_refl _
  | null => cases h
  | bool b => cases h

theorem sizeOf_tableRows {r : Record} {row : List Json} {c : Json} (h : row ∈ tableRows r)
    (hc : c ∈ row) : sizeOf c < sizeOf r := by
  obtain ⟨v, hv, he⟩ := List.mem_filterMap.1 h
  exact Nat.lt_of_le_of_lt (sizeOf_rowCells he hc) (Record.sizeOf_array hv)

/-- A bound of a range of rolls.  On percentile tables it has two digits, and a
hundred reads `00`. -/
def rollBound (padded : Bool) (n : Int) : String :=
  if !padded then toString n
  else if n = 100 then "00"
  else if 0 ≤ n && n < 10 then "0" ++ toString n
  else toString n

/-- A range of rolls. -/
def rollRange (roll : Record) : String :=
  let bound := rollBound (roll.flag "pad")
  match roll.int? "exact", roll.int? "min", roll.int? "max" with
  | some n, _, _ => bound n
  | none, some least, some greatest =>
    if least = greatest then bound least else bound least ++ "-" ++ bound greatest
  | none, some least, none => bound least ++ "+"
  | none, none, _ => ""

/-- The alignment that a column's style asks for. -/
def alignment (style : String) : String :=
  if Text.contains "text-center" style then ":---:"
  else if Text.contains "text-right" style then "---:"
  else "---"

/-- A table whose cells are rendered and escaped. -/
structure Grid where
  labels : List String
  rows : List (List String)
  styles : List String

/-- The number of columns. -/
def Grid.columns (g : Grid) : Nat :=
  g.rows.foldl (fun n row => max n row.length) g.labels.length

/-- The header, filled up with empty cells. -/
def Grid.header (g : Grid) : List String :=
  g.labels ++ List.replicate (g.columns - g.labels.length) ""

/-- The lines of a table. -/
def Grid.lines (g : Grid) : List String :=
  Markdown.formatRow g.header ::
    Markdown.separatorRow ((List.range g.columns).map fun i => alignment (g.styles[i]?.getD "")) ::
    g.rows.map Markdown.formatRow

/-- A table between its other parts.  A table without columns is nothing. -/
def Grid.withParts (g : Grid) (caption intro : String) (footnotes : List String)
    (outro : String) : String :=
  if g.columns = 0 then ""
  else
    let notes := (footnotes.filter fun n => !n.isEmpty).map fun n => "*" ++ n ++ "*"
    Markdown.joinBlocks
      [caption, intro, "\n".intercalate g.lines, "\n".intercalate notes, outro]

end Compendium.Render
