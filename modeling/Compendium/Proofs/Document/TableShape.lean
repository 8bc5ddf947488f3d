import Mathlib.Order.MinMax
import Compendium.Document.Deck
import Compendium.Proofs.Document.SpellLine
import Compendium.Proofs.Render.Table

/-!
# The shape of a table

A table is described twice: by the grid in its document, and by the facets for its columns and rows.
The grid accepts rows of several forms and takes its width from all of them; the facets count all
listed rows and take the width from the labels and the rows that are arrays.  So the facets never
give too many columns and never too few rows, and they describe the grid exactly if every listed row
is accepted and no wider than a label or an array accounts for (`Fits`).

* `table_facets_describe_iff`: the grid that a document shows, and when the facets describe it.
-/

namespace Compendium.Document.Table

open Compendium.Render (Style Grid tableGrid tableRows tableColumns rowCells?)
open Markdown (splitRow formatRow separatorRow)

/-! ### Widths -/

theorem le_foldl_max_iff {widths : List Nat} {n m : Nat} :
    m ≤ widths.foldl max n ↔ m ≤ n ∨ ∃ width ∈ widths, m ≤ width := by
  induction widths generalizing n with
  | nil => simp
  | cons width rest ih =>
    simp only [List.foldl_cons, ih, le_max_iff, or_assoc, List.mem_cons, exists_eq_or_imp]

variable {r : Record} {n : Nat}

/-- Whether a number of cells is no more than there are labels, or elements of a row that is an
array. -/
def Fits (r : Record) (n : Nat) : Prop :=
  n ≤ (r.array "colLabels").length ∨ ∃ items, .arr items ∈ r.array "rows" ∧ n ≤ items.length

theorem le_shape_iff : n ≤ (shape r).1 ↔ Fits r n := by
  simp only [shape, le_foldl_max_iff, Fits, List.mem_map, exists_exists_and_eq_and,
    List.mem_filterMap, Json.arr?_eq_some_iff, exists_eq_right]

theorem le_tableColumns_iff : n ≤ tableColumns r ↔
    n ≤ (r.array "colLabels").length ∨ ∃ cells ∈ tableRows r, n ≤ cells.length := by
  simp only [tableColumns, ← Render.foldl_max_eq, le_foldl_max_iff, List.mem_map,
    exists_exists_and_eq_and]

/-- **The facets never give too many columns.** -/
theorem shape_le_tableColumns (r : Record) : (shape r).1 ≤ tableColumns r := by
  rcases le_shape_iff.1 (Nat.le_refl (shape r).1) with hlabels | ⟨items, hrow, hitems⟩
  · exact le_tableColumns_iff.2 (Or.inl hlabels)
  · exact le_tableColumns_iff.2 (Or.inr ⟨items, List.mem_filterMap.2 ⟨_, hrow, rfl⟩, hitems⟩)

/-- They give all columns exactly if every accepted row fits. -/
theorem shape_eq_tableColumns_iff :
    (shape r).1 = tableColumns r ↔ ∀ cells ∈ tableRows r, Fits r cells.length := by
  constructor
  · intro heq cells hcells
    rw [← le_shape_iff, heq]
    exact le_tableColumns_iff.2 (Or.inr ⟨cells, hcells, Nat.le_refl _⟩)
  · intro hfits
    refine Nat.le_antisymm (shape_le_tableColumns r) (le_shape_iff.2 ?_)
    rcases le_tableColumns_iff.1 (Nat.le_refl (tableColumns r)) with hlabels | ⟨cells, hcells, hle⟩
    · exact Or.inl hlabels
    · exact le_shape_iff.1 (Nat.le_trans hle (le_shape_iff.2 (hfits cells hcells)))

/-! ### Numbers of rows -/

/-- **The facets never give too few rows.** -/
theorem length_tableRows_le (r : Record) : (tableRows r).length ≤ (shape r).2 :=
  List.length_filterMap_le _ _

theorem length_tableRows_eq_iff :
    (tableRows r).length = (shape r).2 ↔ ∀ row ∈ r.array "rows", (rowCells? row).isSome = true := by
  rw [tableRows, shape, List.length_filterMap_eq_countP, List.countP_eq_length]

/-! ### Facets -/

section Facets

variable (s : Style)

theorem facets_of_tables_eq_nil (h : r.array "tables" = []) : facets s r =
    if 0 < (shape r).1 then
      Facets.empty |>.insert "columns" (.int (shape r).1) |>.insert "rows" (.int (shape r).2)
    else Facets.empty := by
  rw [facets, groupShape, h]

theorem get?_facets_of_pos (h : r.array "tables" = []) (hpos : 0 < (shape r).1) :
    (facets s r).get? "columns" = some (.int (shape r).1) ∧
      (facets s r).get? "rows" = some (.int (shape r).2) := by
  rw [facets_of_tables_eq_nil s h, if_pos hpos]
  constructor
  · rw [Facets.get?_insert_of_ne _ (by decide), Facets.get?_insert_self _ rfl]
  · rw [Facets.get?_insert_self _ rfl]

theorem get?_facets_of_zero (h : r.array "tables" = []) (hzero : (shape r).1 = 0) (key : String) :
    (facets s r).get? key = none := by
  rw [facets_of_tables_eq_nil s h, if_neg (by omega)]
  rfl

end Facets

/-- Facets that give the number of cells in the header of a grid, and the number of lines under it,
exactly if the grid has columns. -/
structure Describes (f : Facets) (g : Grid) : Prop where
  absent : g.columns = 0 → f.get? "columns" = none ∧ f.get? "rows" = none
  columns : g.columns ≠ 0 →
    f.get? "columns" = some (.int (splitRow (formatRow g.header)).length)
  rows : g.columns ≠ 0 → f.get? "rows" = some (.int (g.rows.map formatRow).length)

theorem describes_iff (s : Style) (h : r.array "tables" = []) :
    Describes (facets s r) (tableGrid s r 0) ↔ tableColumns r = 0 ∨
      (shape r).1 = tableColumns r ∧ (tableRows r).length = (shape r).2 := by
  have hcolumns := Render.columns_tableGrid s r 0
  have hrows : ((tableGrid s r 0).rows.map formatRow).length = (tableRows r).length := by
    rw [tableGrid, List.length_map, List.length_map]
  have hle := shape_le_tableColumns r
  by_cases hzero : tableColumns r = 0
  · have hnone := get?_facets_of_zero s h (Nat.le_zero.1 (hzero ▸ hle))
    refine iff_of_true ⟨fun _ => ⟨hnone _, hnone _⟩, ?_, ?_⟩ (Or.inl hzero)
    · exact fun hne => absurd (hcolumns.trans hzero) hne
    · exact fun hne => absurd (hcolumns.trans hzero) hne
  · have hne : (tableGrid s r 0).columns ≠ 0 := by rwa [hcolumns]
    have hheader : (splitRow (formatRow (tableGrid s r 0).header)).length = tableColumns r := by
      rw [Grid.splitRow_header (Render.ofCells_tableGrid s r 0) hne, Grid.length_header, hcolumns]
    constructor
    · intro hdescribes
      have hwidth := hdescribes.columns hne
      have hlength := hdescribes.rows hne
      rw [hheader] at hwidth
      rw [hrows] at hlength
      have hpos : 0 < (shape r).1 := by
        by_contra hnot
        rw [get?_facets_of_zero s h (by omega)] at hwidth
        cases hwidth
      obtain ⟨hgiven, hlisted⟩ := get?_facets_of_pos s h hpos
      have hwidth := hgiven.symm.trans hwidth
      have hlength := hlisted.symm.trans hlength
      simp only [Option.some.injEq, Facet.int.injEq, Int.natCast_inj] at hwidth hlength
      exact Or.inr ⟨hwidth, hlength.symm⟩
    · rintro (hcontra | ⟨hwidth, hlength⟩)
      · exact absurd hcontra hzero
      · obtain ⟨hgiven, hlisted⟩ := get?_facets_of_pos s h (by omega)
        refine ⟨fun hc => absurd hc hne, fun _ => ?_, fun _ => ?_⟩
        · rw [hheader, ← hwidth, hgiven]
        · rw [hrows, hlength, hlisted]

/-- **When the facets of a table describe it.**  The document of a record without a group of tables
shows nothing if the grid of its labels and rows has no columns, and otherwise it shows the lines of
that grid.  The facets never give more columns than the header has cells and never fewer rows than
there are lines under it.  They describe the grid exactly if it has no columns, or every listed row
is accepted and has no more cells than there are labels, or elements of a row that is an array: a
styled row or a lone text that is wider does not count for the columns, and a listed value that is
no row does count for the rows. -/
theorem table_facets_describe_iff (s : Style) (r : Record) (h : r.array "tables" = []) :
    let grid := tableGrid s r 0
    (body s r = "" ↔ grid.columns = 0) ∧
    (grid.columns ≠ 0 → ∃ before after, Text.splitOn '\n' (body s r) =
      before ++ (formatRow grid.header :: separatorRow grid.alignments ::
        grid.rows.map formatRow) ++ after) ∧
    (∀ columns, (facets s r).get? "columns" = some (.int columns) → columns ≤ grid.columns) ∧
    (∀ rows, (facets s r).get? "rows" = some (.int rows) → grid.rows.length ≤ rows) ∧
    (Describes (facets s r) grid ↔ grid.columns = 0 ∨
      ∀ row ∈ r.array "rows", ∃ cells, rowCells? row = some cells ∧ Fits r cells.length) := by
  intro grid
  have hcolumns : grid.columns = tableColumns r := Render.columns_tableGrid s r 0
  have hbody : body s r = Render.table s r 0 := by rw [body, h]
  have hrows : grid.rows.length = (tableRows r).length := List.length_map _
  refine ⟨?_, ?_, ?_, ?_, ?_⟩
  · rw [hbody, hcolumns, Render.table_eq_empty_iff]
  · intro hne
    rw [hbody, Render.table_eq]
    exact Grid.lines_withParts (Render.ofCells_tableGrid s r 0) hne _ _ _ _
  · intro columns hget
    rcases Nat.eq_zero_or_pos (shape r).1 with hzero | hpos
    · rw [get?_facets_of_zero s h hzero] at hget
      cases hget
    · rw [(get?_facets_of_pos s h hpos).1] at hget
      cases hget
      rw [hcolumns]
      exact Int.ofNat_le.2 (shape_le_tableColumns r)
  · intro rows hget
    rcases Nat.eq_zero_or_pos (shape r).1 with hzero | hpos
    · rw [get?_facets_of_zero s h hzero] at hget
      cases hget
    · rw [(get?_facets_of_pos s h hpos).2] at hget
      cases hget
      rw [hrows]
      exact Int.ofNat_le.2 (length_tableRows_le r)
  · rw [describes_iff s h, hcolumns, shape_eq_tableColumns_iff, length_tableRows_eq_iff]
    refine or_congr_right ⟨?_, ?_⟩
    · rintro ⟨hfits, hsome⟩ row hrow
      obtain ⟨cells, hcells⟩ := Option.isSome_iff_exists.1 (hsome row hrow)
      exact ⟨cells, hcells, hfits cells (List.mem_filterMap.2 ⟨row, hrow, hcells⟩)⟩
    · intro hall
      refine ⟨fun cells hcells => ?_, fun row hrow => ?_⟩
      · obtain ⟨row, hrow, hread⟩ := List.mem_filterMap.1 hcells
        obtain ⟨_, hread', hfits⟩ := hall row hrow
        obtain rfl := Option.some.inj (hread'.symm.trans hread)
        exact hfits
      · obtain ⟨cells, hcells, -⟩ := hall row hrow
        rw [hcells, Option.isSome_some]

/-- Rows of all forms that fit: a styled row as wide as the array behind it, a lone text and a lone
number. -/
theorem table_facets_describe_iff_trinkets :
    let s := Style.make true 2
    let styled : Json := .obj [("row", .arr [.num (.int 1), .str "a|b"]), ("type", .str "row")]
    let plain : Json := .arr [.str "2", .str "A crystal"]
    let r : Record := ⟨[("colLabels", .arr [.str "d4"]),
      ("rows", .arr [styled, plain, .str "none", .num (.int 4)])]⟩
    r.array "tables" = [] ∧ Describes (facets s r) (tableGrid s r 0) ∧
      (facets s r).get? "columns" = some (.int 2) ∧ (facets s r).get? "rows" = some (.int 4) := by
  intro s styled plain r
  have h : r.array "tables" = [] := rfl
  have hrows : r.array "rows" = [styled, plain, .str "none", .num (.int 4)] := rfl
  have hone : Fits r 1 := Or.inl (by decide)
  have htwo : Fits r 2 := Or.inr ⟨_, hrows ▸ List.mem_cons_of_mem _ List.mem_cons_self, by decide⟩
  obtain ⟨-, -, -, -, hiff⟩ := table_facets_describe_iff s r h
  refine ⟨h, hiff.2 (Or.inr ?_), rfl, rfl⟩
  rw [hrows]
  simp only [List.forall_mem_cons]
  exact ⟨⟨_, rfl, htwo⟩, ⟨_, rfl, htwo⟩, ⟨_, rfl, hone⟩, ⟨_, rfl, hone⟩, by simp⟩

/-- **A styled row that is wider than the labels, and a listed value that is no row**: the grid has
two columns and one row, and the facets say one column and two rows. -/
theorem table_facets_miscount :
    let s := Style.make true 2
    let r : Record := ⟨[("colLabels", .arr [.str "d4"]),
      ("rows", .arr [.obj [("row", .arr [.str "1", .str "A goblin hand"]), ("type", .str "row")],
        .null])]⟩
    r.array "tables" = [] ∧
    (splitRow (formatRow (tableGrid s r 0).header)).length = 2 ∧
    (tableGrid s r 0).rows.length = 1 ∧
    (facets s r).get? "columns" = some (.int 1) ∧ (facets s r).get? "rows" = some (.int 2) ∧
    ¬ Describes (facets s r) (tableGrid s r 0) := by
  intro s r
  have h : r.array "tables" = [] := rfl
  have hcolumns : (tableGrid s r 0).columns = 2 := (Render.columns_tableGrid s r 0).trans rfl
  have hne : (tableGrid s r 0).columns ≠ 0 := by
    rw [hcolumns]
    decide
  refine ⟨h, ?_, rfl, rfl, rfl, ?_⟩
  · rw [Grid.splitRow_header (Render.ofCells_tableGrid s r 0) hne, Grid.length_header, hcolumns]
  · rw [describes_iff s h]
    rintro (hzero | ⟨-, hrows⟩)
    · exact absurd hzero (by decide)
    · exact absurd hrows (by decide)

end Compendium.Document.Table
