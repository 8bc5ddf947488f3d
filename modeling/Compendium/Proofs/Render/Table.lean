import Compendium.Proofs.Markdown.Blocks
import Compendium.Proofs.Markdown.TableRow
import Compendium.Render.Tree

/-!
# Tables keep their grid

A table's cells are escaped, so they are cells whatever was rendered into them: a grid of
cells has one line for the header, one under it and one for each row, and each line is
read back as the cells it was made from (`Grid.splitRow_row`).  The grid is one block among
the parts of a table and keeps its lines there (`Grid.lines_withParts`).

* `table_shows_grid`: a table that shows anything shows its labels and its rows, each on a
  line of its own with its own number of cells, and no row is wider than the header.
-/

namespace Compendium.Render

open Compendium.Markdown

/-! ### Alignments -/

theorem alignment_cases (style : String) :
    alignment style = ":---:" ∨ alignment style = "---:" ∨ alignment style = "---" := by
  unfold alignment
  by_cases hc : Text.contains "text-center" style = true
  · exact Or.inl (if_pos hc)
  · by_cases hr : Text.contains "text-right" style = true
    · exact Or.inr (Or.inl (by rw [if_neg hc, if_pos hr]))
    · exact Or.inr (Or.inr (by rw [if_neg hc, if_neg hr]))

theorem mem_alignment {style : String} {c : Char} (h : c ∈ (alignment style).toList) :
    c = '-' ∨ c = ':' := by
  rcases alignment_cases style with ha | ha | ha
  all_goals
    rw [ha] at h
    simp at h
    tauto

theorem isCell_alignment (style : String) : IsCell (alignment style) := by
  constructor
  · refine sealed_of_forall fun c hc => ?_
    rcases mem_alignment hc with rfl | rfl <;> decide
  · constructor
    · intro c hc
      rcases mem_alignment (List.mem_of_mem_head? hc) with rfl | rfl <;> decide
    · intro c hc
      rcases mem_alignment (List.mem_of_mem_getLast? hc) with rfl | rfl <;> decide
  · intro hn
    rcases mem_alignment hn with hn | hn <;> exact absurd hn (by decide)

/-! ### Grids -/

/-- The greatest of some widths, read off one by one. -/
theorem foldl_max_eq (widths : List Nat) (n : Nat) :
    widths.foldl max n = max n (widths.max?.getD 0) := by
  cases widths with
  | nil => simp
  | cons width rest =>
    rw [List.foldl_cons, List.foldl_assoc, List.max?_cons']
    rfl

namespace Grid

variable {g : Grid}

/-- Whether all texts of a grid are cells. -/
structure OfCells (g : Grid) : Prop where
  labels : ∀ cell ∈ g.labels, IsCell cell
  rows : ∀ row ∈ g.rows, ∀ cell ∈ row, IsCell cell

theorem columns_eq (g : Grid) :
    g.columns = max g.labels.length ((g.rows.map List.length).max?.getD 0) := by
  rw [columns, ← foldl_max_eq, List.foldl_map]

theorem length_labels_le_columns (g : Grid) : g.labels.length ≤ g.columns := by
  rw [columns_eq]
  exact Nat.le_max_left _ _

theorem length_le_columns {row : List String} (h : row ∈ g.rows) : row.length ≤ g.columns := by
  have hmax : row.length ≤ (g.rows.map List.length).max?.getD 0 :=
    List.le_max?_getD_of_mem (List.mem_map_of_mem h)
  rw [columns_eq]
  exact Nat.le_trans hmax (Nat.le_max_right _ _)

theorem length_header (g : Grid) : g.header.length = g.columns := by
  have := g.length_labels_le_columns
  rw [header, List.length_append, List.length_replicate]
  omega

/-- The alignments of the columns. -/
def alignments (g : Grid) : List String :=
  (List.range g.columns).map fun i => alignment (g.styles[i]?.getD "")

theorem mem_alignments {g : Grid} {mark : String} (h : mark ∈ g.alignments) :
    ∃ style, mark = alignment style := by
  obtain ⟨i, -, rfl⟩ := List.mem_map.1 h
  exact ⟨_, rfl⟩

theorem length_alignments (g : Grid) : g.alignments.length = g.columns := by
  rw [alignments, List.length_map, List.length_range]

theorem lines_eq (g : Grid) :
    g.lines = formatRow g.header :: separatorRow g.alignments :: g.rows.map formatRow :=
  rfl

/-! ### Reading the lines back -/

theorem isCell_of_mem_header (h : g.OfCells) {cell : String} (hm : cell ∈ g.header) :
    IsCell cell := by
  rcases List.mem_append.1 hm with hm | hm
  · exact h.labels cell hm
  · rw [List.eq_of_mem_replicate hm]
    exact isCell_empty

theorem isCell_of_mem_alignments {mark : String} (h : mark ∈ g.alignments) : IsCell mark := by
  obtain ⟨style, rfl⟩ := mem_alignments h
  exact isCell_alignment style

theorem splitRow_header (h : g.OfCells) (hc : g.columns ≠ 0) :
    splitRow (formatRow g.header) = g.header := by
  have hne : g.header ≠ [] := by
    intro he
    rw [← g.length_header, he] at hc
    exact hc rfl
  exact splitRow_formatRow hne fun cell hm => isCell_of_mem_header h hm

theorem splitRow_separator (hc : g.columns ≠ 0) :
    splitRow (separatorRow g.alignments) = g.alignments := by
  have hne : g.alignments ≠ [] := by
    intro ha
    rw [← g.length_alignments, ha] at hc
    exact hc rfl
  have hend : ("|".intercalate g.alignments).toList.getLast? ≠ some '\\' := by
    intro hlast
    have hm := List.mem_of_getLast? hlast
    rw [String.toList_intercalate] at hm
    rcases Chars.mem_intercalate hm with hm | ⟨p, hp, hm⟩
    · exact absurd hm (by decide)
    · obtain ⟨mark, ha, rfl⟩ := List.mem_map.1 hp
      obtain ⟨style, rfl⟩ := mem_alignments ha
      rcases mem_alignment hm with hm | hm <;> exact absurd hm (by decide)
  rw [splitRow_separatorRow hne (fun a ha => (isCell_of_mem_alignments ha).isSealed) hend]
  refine (List.map_congr_left fun a ha => ?_).trans (List.map_id g.alignments)
  rw [Text.trim, (isCell_of_mem_alignments ha).tight.trim_eq, String.ofList_toList]
  rfl

/-- The cells that a row shows: one empty cell if it has none. -/
def shownCells (row : List String) : List String :=
  if row.isEmpty then [""] else row

theorem length_shownCells (row : List String) : (shownCells row).length = max 1 row.length := by
  cases row with
  | nil => rfl
  | cons cell rest =>
    rw [shownCells, if_neg (by simp), List.length_cons]
    omega

/-- **A row is read back as its cells.** -/
theorem splitRow_row (h : g.OfCells) {row : List String} (hr : row ∈ g.rows) :
    splitRow (formatRow row) = shownCells row := by
  cases row with
  | nil => exact splitRow_formatRow_nil
  | cons cell rest => exact splitRow_formatRow (List.cons_ne_nil _ _) (h.rows _ hr)

theorem splitRow_rows (h : g.OfCells) :
    (g.rows.map formatRow).map splitRow = g.rows.map shownCells := by
  rw [List.map_map]
  exact List.map_congr_left fun row hr => splitRow_row h hr

/-! ### Lines among the parts of a table -/

theorem newline_notMem_lines (h : g.OfCells) {line : String} (hl : line ∈ g.lines) :
    '\n' ∉ line.toList := by
  rw [lines_eq, List.mem_cons, List.mem_cons] at hl
  rcases hl with rfl | rfl | hl
  · exact newline_notMem_formatRow fun cell hm => isCell_of_mem_header h hm
  · exact newline_notMem_separatorRow fun mark hm => (isCell_of_mem_alignments hm).oneLine
  · obtain ⟨row, hr, rfl⟩ := List.mem_map.1 hl
    exact newline_notMem_formatRow (h.rows row hr)

theorem getLast?_lines {line : String} (hl : line ∈ g.lines) :
    line.toList.getLast? = some '|' := by
  rw [lines_eq, List.mem_cons, List.mem_cons] at hl
  rcases hl with rfl | rfl | hl
  · exact getLast?_formatRow g.header
  · exact getLast?_separatorRow g.alignments
  · obtain ⟨row, -, rfl⟩ := List.mem_map.1 hl
    exact getLast?_formatRow row

/-- **The lines of a grid stand as neighbours** in the text of its table. -/
theorem lines_withParts (h : g.OfCells) (hc : g.columns ≠ 0) (caption intro : String)
    (footnotes : List String) (outro : String) :
    ∃ before after, Text.splitOn '\n' (g.withParts caption intro footnotes outro) =
      before ++ g.lines ++ after := by
  have hends : Text.EndsVisibly ("\n".intercalate g.lines) :=
    Text.endsVisibly_intercalate (List.cons_ne_nil _ _)
      fun line hl => ⟨'|', getLast?_lines hl, by decide⟩
  rw [withParts, if_neg hc]
  obtain ⟨before, after, hsplit⟩ := splitOn_joinBlocks [caption, intro]
    ["\n".intercalate ((footnotes.filter fun n => !n.isEmpty).map fun n => "*" ++ n ++ "*"), outro]
    hends.isBlank_eq_false
  refine ⟨before, after, hsplit.trans ?_⟩
  have hlines : Text.splitOn '\n' ("\n".intercalate g.lines) = g.lines :=
    Text.splitOn_intercalate (List.cons_ne_nil _ _) fun line hl => newline_notMem_lines h hl
  rw [hends.trimEnd_eq, hlines]

end Grid

/-! ### Tables -/

/-- The grid that a record's labels and rows make. -/
def tableGrid (s : Style) (r : Record) (depth : UInt64) : Grid where
  labels := (r.array "colLabels").map fun label => cell s label depth
  rows := (tableRows r).map fun row => row.map fun c => cell s c depth
  styles := r.strings "colStyles"

/-- As many columns as there are labels, or cells in the widest row. -/
def tableColumns (r : Record) : Nat :=
  max (r.array "colLabels").length (((tableRows r).map List.length).max?.getD 0)

theorem columns_tableGrid (s : Style) (r : Record) (depth : UInt64) :
    (tableGrid s r depth).columns = tableColumns r := by
  have hrows : (tableGrid s r depth).rows.map List.length = (tableRows r).map List.length := by
    rw [tableGrid, List.map_map]
    exact List.map_congr_left fun row _ => List.length_map _
  rw [Grid.columns_eq, hrows, tableGrid, List.length_map, tableColumns]

/-- Whatever is rendered into it, a cell may stand in a row. -/
theorem isCell_cell (s : Style) (v : Json) (depth : UInt64) : IsCell (cell s v depth) := by
  rw [cell]
  exact isCell_escapeCell _

theorem ofCells_tableGrid (s : Style) (r : Record) (depth : UInt64) :
    (tableGrid s r depth).OfCells where
  labels := by
    intro text ht
    obtain ⟨label, -, rfl⟩ := List.mem_map.1 ht
    exact isCell_cell s label depth
  rows := by
    intro row hr text ht
    obtain ⟨values, -, rfl⟩ := List.mem_map.1 hr
    obtain ⟨v, -, rfl⟩ := List.mem_map.1 ht
    exact isCell_cell s v depth

theorem header_tableGrid (s : Style) (r : Record) (depth : UInt64) :
    (tableGrid s r depth).header = ((r.array "colLabels").map fun label => cell s label depth) ++
      List.replicate (tableColumns r - (r.array "colLabels").length) "" := by
  rw [Grid.header, columns_tableGrid, tableGrid, List.length_map]

theorem shownCells_tableGrid (s : Style) (r : Record) (depth : UInt64) :
    (tableGrid s r depth).rows.map Grid.shownCells = (tableRows r).map fun row =>
      if row.isEmpty then [""] else row.map fun c => cell s c depth := by
  rw [tableGrid, List.map_map]
  refine List.map_congr_left fun row _ => ?_
  rw [Function.comp_apply, Grid.shownCells, List.isEmpty_map]

theorem length_shownCells_tableGrid (s : Style) (r : Record) (depth : UInt64) :
    ((tableGrid s r depth).rows.map Grid.shownCells).map List.length =
      (tableRows r).map fun row => max 1 row.length := by
  rw [tableGrid, List.map_map, List.map_map]
  refine List.map_congr_left fun row _ => ?_
  rw [Function.comp_apply, Function.comp_apply, Grid.length_shownCells, List.length_map]

/-- **A table is its grid between its other parts.** -/
theorem table_eq (s : Style) (r : Record) (depth : UInt64) :
    table s r depth = (tableGrid s r depth).withParts
      (((r.str? "caption").map fun caption => Style.bold (s.expand caption)).getD "")
      (field s r "intro" depth) (elements s r "footnotes" depth) (field s r "outro" depth) := by
  have hrow : ∀ row : List Json,
      row.attach.map (fun c => cell s c.val depth) = row.map fun c => cell s c depth := fun row =>
    List.attach_map_val (f := fun c => cell s c depth)
  have hrows : (tableRows r).attach.map (fun row =>
      row.val.attach.map fun c => cell s c.val depth) =
        (tableRows r).map fun row => row.map fun c => cell s c depth :=
    (List.map_congr_left fun row _ => hrow row.val).trans
      (List.attach_map_val (f := fun row : List Json => row.map fun c => cell s c depth))
  rw [table, tableGrid, ← hrow (r.array "colLabels"), ← hrows]

theorem table_eq_empty_iff (s : Style) (r : Record) (depth : UInt64) :
    table s r depth = "" ↔ tableColumns r = 0 := by
  rw [table_eq, ← columns_tableGrid s r depth]
  constructor
  · intro h
    by_contra hc
    obtain ⟨before, after, hlines⟩ := Grid.lines_withParts (ofCells_tableGrid s r depth) hc _ _ _ _
    rw [h] at hlines
    have hlength := congrArg List.length hlines
    simp [Text.splitOn, Grid.lines_eq] at hlength
    omega
  · intro h
    rw [Grid.withParts, if_pos h]

/-- **A table shows its grid.**  Among the lines of a table that is not empty there stand, as
neighbours, a header, a separator and one line for each accepted row, in order.  Header and
separator have as many cells as there are columns; a row has its own cells, or one empty cell
if it has none, and is never wider than the header. -/
theorem table_shows_grid (s : Style) (r : Record) (depth : UInt64) (h : table s r depth ≠ "") :
    ∃ before header separator body after,
      Text.splitOn '\n' (table s r depth) = before ++ header :: separator :: body ++ after ∧
      (splitRow header).length = tableColumns r ∧
      splitRow header = ((r.array "colLabels").map fun label => cell s label depth) ++
        List.replicate (tableColumns r - (r.array "colLabels").length) "" ∧
      (splitRow separator).length = tableColumns r ∧
      (∀ mark ∈ splitRow separator, mark = ":---:" ∨ mark = "---:" ∨ mark = "---") ∧
      body.map splitRow = (tableRows r).map (fun row =>
        if row.isEmpty then [""] else row.map fun c => cell s c depth) ∧
      body.map (fun line => (splitRow line).length) =
        (tableRows r).map (fun row => max 1 row.length) ∧
      ∀ line ∈ body, (splitRow line).length ≤ (splitRow header).length := by
  have hne : tableColumns r ≠ 0 := fun hc => h ((table_eq_empty_iff s r depth).2 hc)
  have hcolumns := columns_tableGrid s r depth
  have hcells := ofCells_tableGrid s r depth
  have hc : (tableGrid s r depth).columns ≠ 0 := by rwa [hcolumns]
  obtain ⟨before, after, hlines⟩ := Grid.lines_withParts hcells hc
    (((r.str? "caption").map fun caption => Style.bold (s.expand caption)).getD "")
    (field s r "intro" depth) (elements s r "footnotes" depth) (field s r "outro" depth)
  have hheader := Grid.splitRow_header hcells hc
  have hwidth : (splitRow (formatRow (tableGrid s r depth).header)).length = tableColumns r := by
    rw [hheader, Grid.length_header, hcolumns]
  have hseparator := Grid.splitRow_separator hc
  have hrows := Grid.splitRow_rows hcells
  refine ⟨before, formatRow (tableGrid s r depth).header,
    separatorRow (tableGrid s r depth).alignments, (tableGrid s r depth).rows.map formatRow, after,
    ?_, hwidth, hheader.trans (header_tableGrid s r depth), ?_, ?_,
    hrows.trans (shownCells_tableGrid s r depth), ?_, ?_⟩
  · rw [table_eq, hlines, Grid.lines_eq]
  · rw [hseparator, Grid.length_alignments, hcolumns]
  · intro mark hm
    rw [hseparator] at hm
    obtain ⟨style, rfl⟩ := Grid.mem_alignments hm
    exact alignment_cases style
  · rw [← length_shownCells_tableGrid s r depth, ← hrows]
    exact List.map_map.symm
  · intro line hl
    obtain ⟨row, hr, rfl⟩ := List.mem_map.1 hl
    have hle := Grid.length_le_columns hr
    rw [Grid.splitRow_row hcells hr, Grid.length_shownCells, hwidth, ← hcolumns]
    omega

/-- A table of encounters: a label for one of its two columns, a number with a pipe and a
line feed beside it, an empty row, a value that is no row, and a lone text. -/
theorem table_shows_grid_encounters :
    let r : Record := ⟨[("caption", .str "Encounters"), ("colLabels", .arr [.str "d|4"]),
      ("rows", .arr [.arr [.num (.int 1), .str "a|b\nc"], .arr [], .null, .str "2-4: none"])]⟩
    table default r 0 ≠ "" ∧
      ∃ before header separator body after,
        Text.splitOn '\n' (table default r 0) = before ++ header :: separator :: body ++ after ∧
        (splitRow header).length = 2 ∧ (splitRow separator).length = 2 ∧
        body.map (fun line => (splitRow line).length) = [2, 1, 1] := by
  intro r
  have hcolumns : tableColumns r = 2 := by decide +kernel
  have hne : table default r 0 ≠ "" := by
    rw [Ne, table_eq_empty_iff, hcolumns]
    decide
  obtain ⟨before, header, separator, body, after, hlines, hheader, -, hseparator, -, -, hbody, -⟩ :=
    table_shows_grid default r 0 hne
  refine ⟨hne, before, header, separator, body, after, hlines, hheader.trans hcolumns,
    hseparator.trans hcolumns, hbody.trans ?_⟩
  decide +kernel

end Compendium.Render
