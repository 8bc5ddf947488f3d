import Compendium.Document.Class
import Compendium.Proofs.Render.Headings
import Compendium.Proofs.Render.Table
import Compendium.Proofs.Slug

/-!
# The table of levels

The groups of columns of a class are of any height, and their rows of any length.  Each group gives
every row of the table of levels as many cells as it has labels, its own ones where it has them and
dashes elsewhere (`ColumnGroup.shownCell`), so side by side they make rows of one length
(`length_levelRow`) and no group moves the columns of another.  The table is a grid without other
parts, so its lines are read back as these rows (`splitOn_classTable`).

* `class_table_shows_levels`: the lines under the heading, and every cell of every group.
-/

namespace Compendium

open Markdown (splitRow formatRow separatorRow)

/-! ### Grids alone -/

namespace Render

/-- A grid without other parts is its lines. -/
theorem Grid.withParts_alone {g : Grid} (hc : g.columns ≠ 0) :
    g.withParts "" "" [] "" = "\n".intercalate g.lines := by
  have hends : Text.EndsVisibly ("\n".intercalate g.lines) :=
    Text.endsVisibly_intercalate (List.cons_ne_nil _ _)
      fun line hl => ⟨'|', Grid.getLast?_lines hl, by decide⟩
  have hblank : Text.isBlank "" = true := rfl
  rw [Grid.withParts, if_neg hc, Markdown.joinBlocks_eq]
  simp only [Markdown.shownBlocks_cons, List.filter_nil, List.map_nil, String.intercalate_nil,
    hends.isBlank_eq_false, hends.trimEnd_eq, hblank]
  simp [Markdown.shownBlocks]

/-- A text that shows as itself, in a cell too: nothing in it is trimmed, expanded or escaped. -/
structure IsWord (t : String) : Prop where
  ne_empty : t ≠ ""
  solid : ∀ c ∈ t.toList, Text.isSpace c = false
  plain : ∀ c ∈ t.toList, c ≠ '\x7b' ∧ c ≠ '\\' ∧ c ≠ '|'

theorem isWord_of_all {t : String} (hne : t ≠ "") (h : (t.toList.all fun c =>
    !Text.isSpace c && c != '\x7b' && c != '\\' && c != '|') = true) : IsWord t := by
  simp only [List.all_eq_true, Bool.and_eq_true, Bool.not_eq_true', bne_iff_ne] at h
  exact ⟨hne, fun c hc => (h c hc).1.1.1, fun c hc => ⟨(h c hc).1.1.2, (h c hc).1.2, (h c hc).2⟩⟩

theorem IsWord.tight {t : String} (h : IsWord t) : Chars.Tight t.toList where
  front := fun c hc => h.solid c (List.mem_of_mem_head? hc)
  back := fun c hc => h.solid c (List.mem_of_mem_getLast? hc)

theorem IsWord.expand_eq {t : String} (h : IsWord t) (s : Style) : s.expand t = t := by
  have hself : Inline.expandTo s.mode Inline.maxDepth t.toList = t.toList :=
    Inline.expandTo_eq_self s.mode Inline.maxDepth fun _ hr =>
      (h.plain _ (hr.subset List.mem_cons_self)).1 rfl
  rw [Style.expand, Inline.expand, hself, String.ofList_toList, Text.trim, h.tight.trim_eq,
    String.ofList_toList]

theorem IsWord.escapeCell_eq {t : String} (h : IsWord t) : Markdown.escapeCell t = t := by
  have hline : '\n' ∉ t.toList := fun hn => absurd (h.solid _ hn) (by decide)
  have hchars : t.toList.flatMap Markdown.escapeCellChar = t.toList := by
    refine (List.flatMap_congr fun c hc => ?_).trans (List.flatMap_singleton' t.toList)
    obtain ⟨-, hb, hp⟩ := h.plain c hc
    rw [Markdown.escapeCellChar, if_neg hb, if_neg hp]
  have hne : t.toList.isEmpty = false := by
    simpa [String.toList_eq_nil_iff] using h.ne_empty
  rw [Markdown.escapeCell, List.splitOn_eq_singleton hline]
  simp [h.tight.trim_eq, hne, hchars]

/-- A word is its own cell. -/
theorem IsWord.cell_eq {t : String} (h : IsWord t) (s : Style) (depth : UInt64) :
    cell s (.str t) depth = t := by
  have hnone : Json.record? (.str t) = none := rfl
  rw [cell]
  split
  · rw [value, h.expand_eq, h.escapeCell_eq]
  · next r hr => cases hnone.symm.trans hr

end Render

theorem Text.isSpace_of_isAlphanum {c : Char} (h : c.isAlphanum = true) : isSpace c = false := by
  have hrange := toNat_of_isAlphanum h
  rw [← Bool.not_eq_true, isSpace]
  simp only [Bool.or_eq_true, Bool.and_eq_true, decide_eq_true_eq, beq_iff_eq]
  omega

theorem Render.isWord_of_isAlphanum {t : String} (hne : t ≠ "")
    (h : ∀ c ∈ t.toList, c.isAlphanum = true) : IsWord t where
  ne_empty := hne
  solid := fun c hc => Text.isSpace_of_isAlphanum (h c hc)
  plain := by
    intro c hc
    have hc := h c hc
    refine ⟨?_, ?_, ?_⟩ <;> rintro rfl <;> exact absurd hc (by decide)

/-- The ordinals of levels are words. -/
theorem Phrase.isWord_ordinal (n : Nat) : Render.IsWord (ordinal n) := by
  obtain ⟨ending, hending, hordinal⟩ : ∃ ending ∈ ["th", "st", "nd", "rd"],
      ordinal n = toString n ++ ending := by
    unfold ordinal
    dsimp only
    split
    · exact ⟨"th", by simp, rfl⟩
    · split
      · exact ⟨"st", by simp, rfl⟩
      · exact ⟨"nd", by simp, rfl⟩
      · exact ⟨"rd", by simp, rfl⟩
      · exact ⟨"th", by simp, rfl⟩
  have hletters : ∀ ending ∈ ["th", "st", "nd", "rd"],
      ending ≠ "" ∧ ending.toList.all Char.isAlphanum = true := by decide
  obtain ⟨hne, hletters⟩ := hletters ending hending
  rw [hordinal]
  refine Render.isWord_of_isAlphanum (by simp [hne]) fun c hc => ?_
  rw [String.toList_append, List.mem_append] at hc
  rcases hc with hc | hc
  · exact Text.isAlphanum_of_mem_digits hc
  · exact List.all_eq_true.1 hletters c hc

namespace Document.PlayerClass

open Compendium.Render (Style)

/-! ### Groups of columns -/

/-- The cell that a group shows in a row: its own, or a dash where it has no such row or no such
cell in it. -/
def ColumnGroup.shownCell (s : Style) (g : ColumnGroup) (row column : Nat) : String :=
  match ((g.rows[row]?).bind Json.arr?).bind fun cells => cells[column]? with
  | some c => Render.cell s c 1
  | none => "—"

/-- The cells that a group shows in a row. -/
def ColumnGroup.shownCells (s : Style) (g : ColumnGroup) (row : Nat) : List String :=
  (List.range g.labels.length).map (g.shownCell s row)

/-- **A group fills its own columns**, in every row. -/
theorem ColumnGroup.map_cell_cells (s : Style) (g : ColumnGroup) (row : Nat) :
    (g.cells row).map (fun c => Render.cell s c 1) = g.shownCells s row := by
  have hdash : Render.cell s (.str "—") 1 = "—" :=
    (Render.isWord_of_all (by decide) (by decide)).cell_eq s 1
  rw [ColumnGroup.cells, ColumnGroup.shownCells, List.map_map]
  refine List.map_congr_left fun column _ => ?_
  rw [Function.comp_apply, ColumnGroup.shownCell]
  cases (g.rows[row]?).bind Json.arr? with
  | none => exact hdash
  | some cells =>
    rw [Option.getD_some, Option.bind_some]
    cases cells[column]? with
    | none => exact hdash
    | some c => rfl

/-- The number of columns of all groups. -/
def width (groups : List ColumnGroup) : Nat :=
  (groups.flatMap ColumnGroup.labels).length

/-- A row of the table of levels, as it is shown. -/
def levelRow (s : Style) (groups : List ColumnGroup) (row : Nat) : List String :=
  Phrase.ordinal (row + 1) :: groups.flatMap fun g => g.shownCells s row

section Rows

variable (s : Style) (groups : List ColumnGroup) (row : Nat)

theorem length_flatMap_shownCells :
    (groups.flatMap fun g => g.shownCells s row).length = width groups := by
  have hlength : (fun g : ColumnGroup => (g.shownCells s row).length) =
      fun g => g.labels.length := by
    funext g
    rw [ColumnGroup.shownCells, List.length_map, List.length_range]
  rw [width, List.length_flatMap, List.length_flatMap, hlength]

/-- **All rows have the same length.** -/
theorem length_levelRow : (levelRow s groups row).length = 1 + width groups := by
  rw [levelRow, List.length_cons, length_flatMap_shownCells, Nat.add_comm]

/-- **Every group stands behind the columns of those in front of it.** -/
theorem getElem?_levelRow {before after : List ColumnGroup} {g : ColumnGroup} {column : Nat}
    (hc : column < g.labels.length) :
    (levelRow s (before ++ g :: after) row)[1 + width before + column]? =
      some (g.shownCell s row column) := by
  have hplace : 1 + width before + column = width before + column + 1 := by omega
  have hlength := length_flatMap_shownCells s before row
  have hcell : (g.shownCells s row)[column]? = some (g.shownCell s row column) := by
    rw [ColumnGroup.shownCells, List.getElem?_map, List.getElem?_range hc, Option.map_some]
  obtain ⟨hlt, -⟩ := List.getElem?_eq_some_iff.1 hcell
  rw [levelRow, hplace, List.getElem?_cons_succ, List.flatMap_append, List.flatMap_cons,
    List.getElem?_append_right (by omega), hlength, Nat.add_sub_cancel_left,
    List.getElem?_append_left hlt, hcell]

end Rows

/-! ### The table -/

/-- The number of rows of the highest group. -/
def height (groups : List ColumnGroup) : Nat :=
  (groups.map fun g => g.rows.length).max?.getD 0

/-- The table of levels as a record. -/
def levelRecord (groups : List ColumnGroup) : Record :=
  ⟨[("colLabels", .arr (.str "Level" :: groups.flatMap ColumnGroup.labels)),
    ("rows", .arr ((List.range (height groups)).map fun (i : Nat) =>
      .arr (.str (Phrase.ordinal (i + 1)) :: groups.flatMap fun g => g.cells i))),
    ("type", .str "table")]⟩

theorem levelTable_eq (groups : List ColumnGroup) :
    levelTable groups = .obj (levelRecord groups).fields := by
  have hheight : (groups.map fun g => g.rows.length).foldl max 0 = height groups := by
    rw [Render.foldl_max_eq, Nat.zero_max, height]
  rw [levelTable, hheight]
  rfl

/-- The grid of the table of levels. -/
def levelGrid (s : Style) (groups : List ColumnGroup) : Render.Grid where
  labels := "Level" :: (groups.flatMap ColumnGroup.labels).map fun label => Render.cell s label 1
  rows := (List.range (height groups)).map (levelRow s groups)
  styles := []

section Grid

variable (s : Style) (groups : List ColumnGroup)

theorem tableRows_levelRecord : Render.tableRows (levelRecord groups) =
    (List.range (height groups)).map fun (i : Nat) =>
      .str (Phrase.ordinal (i + 1)) :: groups.flatMap fun g => g.cells i := by
  have harray : (levelRecord groups).array "rows" =
      (List.range (height groups)).map fun (i : Nat) =>
        .arr (.str (Phrase.ordinal (i + 1)) :: groups.flatMap fun g => g.cells i) := rfl
  rw [Render.tableRows, harray, List.filterMap_map]
  exact congrFun List.filterMap_eq_map _

theorem tableGrid_levelRecord : Render.tableGrid s (levelRecord groups) 1 = levelGrid s groups := by
  have hlabels : (levelRecord groups).array "colLabels" =
      .str "Level" :: groups.flatMap ColumnGroup.labels := rfl
  have hlevel : Render.cell s (.str "Level") 1 = "Level" :=
    (Render.isWord_of_all (by decide) (by decide)).cell_eq s 1
  rw [Render.tableGrid, levelGrid, hlabels, tableRows_levelRecord, List.map_cons, hlevel,
    List.map_map]
  congr 1
  refine List.map_congr_left fun row _ => ?_
  have hordinal : Render.cell s (.str (Phrase.ordinal (row + 1))) 1 = Phrase.ordinal (row + 1) :=
    (Phrase.isWord_ordinal (row + 1)).cell_eq s 1
  rw [Function.comp_apply, List.map_cons, levelRow, hordinal, List.map_flatMap]
  exact congrArg _ (List.flatMap_congr fun g _ => g.map_cell_cells s row)

theorem columns_levelGrid : (levelGrid s groups).columns = 1 + width groups := by
  have hlabels : (levelGrid s groups).labels.length = 1 + width groups := by
    rw [levelGrid, List.length_cons, List.length_map, width, Nat.add_comm]
  have hrows : (levelGrid s groups).rows.map List.length =
      List.replicate (height groups) (1 + width groups) := by
    rw [levelGrid, List.map_map]
    have hconst : ∀ row ∈ List.range (height groups),
        (List.length ∘ levelRow s groups) row = 1 + width groups := fun row _ =>
      length_levelRow s groups row
    rw [List.map_congr_left hconst, List.map_const', List.length_range]
  rw [Render.Grid.columns_eq, hlabels, hrows, List.max?_replicate]
  split <;> simp

theorem alignments_levelGrid :
    (levelGrid s groups).alignments = List.replicate (1 + width groups) "---" := by
  have hplain : Render.alignment "" = "---" := by decide
  have hconst : ∀ i ∈ List.range (1 + width groups),
      Render.alignment ((levelGrid s groups).styles[i]?.getD "") = "---" := fun i _ => hplain
  rw [Render.Grid.alignments, columns_levelGrid, List.map_congr_left hconst, List.map_const',
    List.length_range]

theorem header_levelGrid : (levelGrid s groups).header =
    "Level" :: (groups.flatMap ColumnGroup.labels).map fun label => Render.cell s label 1 := by
  have hfull : (levelGrid s groups).columns - (levelGrid s groups).labels.length = 0 := by
    rw [columns_levelGrid, levelGrid, List.length_cons, List.length_map, width]
    omega
  rw [Render.Grid.header, hfull, List.replicate_zero, List.append_nil]
  rfl

theorem value_levelTable :
    Render.value s (levelTable groups) 1 = "\n".intercalate (levelGrid s groups).lines := by
  have hkind : (levelRecord groups).kind = .table := rfl
  have hcolumns : (levelGrid s groups).columns ≠ 0 := by
    rw [columns_levelGrid]
    omega
  have hnotes : Render.elements s (levelRecord groups) "footnotes" 1 = [] := by
    rw [Render.elements]
    rfl
  rw [levelTable_eq, Render.value, Render.block]
  simp only [hkind]
  rw [Render.table_eq, tableGrid_levelRecord, Render.field_of_none rfl, Render.field_of_none rfl,
    hnotes]
  exact Render.Grid.withParts_alone hcolumns

theorem ofCells_levelGrid : (levelGrid s groups).OfCells :=
  tableGrid_levelRecord s groups ▸ Render.ofCells_tableGrid s (levelRecord groups) 1

/-- A body row is read back as a row of levels. -/
theorem splitRow_levelRow {row : Nat} (h : row < height groups) :
    splitRow (formatRow (levelRow s groups row)) = levelRow s groups row :=
  Render.Grid.splitRow_row (ofCells_levelGrid s groups)
    (List.mem_map_of_mem (List.mem_range.2 h))

end Grid

/-- The lines of the table of levels, under its heading. -/
theorem splitOn_classTable (s : Style) {r : Record} (h : r.records "classTableGroups" ≠ []) :
    let groups := (r.records "classTableGroups").map ColumnGroup.ofRecord
    Text.splitOn '\n' (classTable s r) =
      s.heading "Class Table" 0 0 :: "" :: (levelGrid s groups).lines := by
  intro groups
  have hne : groups.isEmpty = false := by simpa [groups] using h
  have hheading : Text.splitOn '\n' (s.heading "Class Table" 0 0) =
      [s.heading "Class Table" 0 0] := by
    have htitle : s.expand "Class Table" = "Class Table" :=
      (Render.expand_of_contains_eq_false (by decide)).trans (by decide)
    have hfeed : '\n' ∉ (s.heading "Class Table" 0 0).toList := by
      rw [Style.heading, htitle]
      simp [Text.replicate, List.mem_replicate]
    rw [Text.splitOn, List.splitOn_eq_singleton hfeed, List.map_singleton, String.ofList_toList]
  have hlines : Text.splitOn '\n' ("\n".intercalate (levelGrid s groups).lines) =
      (levelGrid s groups).lines :=
    Text.splitOn_intercalate (List.cons_ne_nil _ _) fun line hl =>
      Render.Grid.newline_notMem_lines (ofCells_levelGrid s groups) hl
  have hpart : classTable s r =
      s.heading "Class Table" 0 0 ++ "\n\n" ++ "\n".intercalate (levelGrid s groups).lines := by
    simp only [classTable, ← value_levelTable, groups] at hne ⊢
    rw [hne, if_neg Bool.false_ne_true]
  rw [hpart, Text.splitOn_blankLine, hheading, hlines]
  rfl

/-- **The table of levels.**  Under the heading of a class that has groups of columns stand a blank
line, a header, a separator and one line for each row of the highest group, nothing else.  Each of
these lines has one cell more than there are labels in all groups.  The header shows `Level` and
the labels; the body row of a level shows its ordinal, and behind it, in the columns of every group,
the cells of that group in that row, with dashes for those that it does not have. -/
theorem class_table_shows_levels (s : Style) (r : Record)
    (h : r.records "classTableGroups" ≠ []) :
    let groups := (r.records "classTableGroups").map ColumnGroup.ofRecord
    ∃ header separator body,
      Text.splitOn '\n' (classTable s r) =
        s.heading "Class Table" 0 0 :: "" :: header :: separator :: body ∧
      (splitRow header).length = 1 + width groups ∧
      splitRow header =
        "Level" :: (groups.flatMap ColumnGroup.labels).map (fun label => Render.cell s label 1) ∧
      splitRow separator = List.replicate (1 + width groups) "---" ∧
      body.length = height groups ∧
      ∀ (row : Nat) line, body[row]? = some line →
        (splitRow line).length = 1 + width groups ∧
        (splitRow line)[0]? = some (Phrase.ordinal (row + 1)) ∧
        ∀ before g after, groups = before ++ g :: after → ∀ column < g.labels.length,
          (splitRow line)[1 + width before + column]? = some (g.shownCell s row column) := by
  intro groups
  have hcells := ofCells_levelGrid s groups
  have hcolumns : (levelGrid s groups).columns ≠ 0 := by
    rw [columns_levelGrid]
    omega
  have hheader := Render.Grid.splitRow_header hcells hcolumns
  have hseparator := Render.Grid.splitRow_separator hcolumns
  refine ⟨_, _, _, splitOn_classTable s h, ?_, hheader.trans (header_levelGrid s groups),
    hseparator.trans (alignments_levelGrid s groups), ?_, ?_⟩
  · rw [hheader, Render.Grid.length_header, columns_levelGrid]
  · rw [levelGrid, List.length_map, List.length_map, List.length_range]
  · intro row line hline
    obtain ⟨hlt, rfl⟩ : row < height groups ∧ formatRow (levelRow s groups row) = line := by
      simpa [levelGrid, List.getElem?_eq_some_iff] using hline
    rw [splitRow_levelRow s groups hlt]
    refine ⟨length_levelRow s groups row, rfl, ?_⟩
    intro before g after hgroups column hc
    rw [hgroups]
    exact getElem?_levelRow s row hc

/-- Two groups, a value that is none between them.  The first one is lower, and its second row is no
array; spell slots stand in for the rows of the second one. -/
theorem class_table_shows_levels_slots :
    let s := Style.make true 1
    let dice : Json := .obj [("colLabels", .arr [.str "Dice", .str "a|b"]),
      ("rows", .arr [.arr [.str "x"], .obj [("row", .arr [.str "y"])], .arr [.null, .str "q"]])]
    let slots : Json := .obj [("colLabels", .arr [.str "Slots"]), ("rows", .arr []),
      ("rowsSpellProgression", .arr [.arr [.str "one", .str "two"], .arr [.str "three"], .arr [],
        .arr [.str "four"]])]
    let r : Record := ⟨[("classTableGroups", .arr [dice, .bool true, slots])]⟩
    r.records "classTableGroups" ≠ [] ∧ ∃ header separator body,
      Text.splitOn '\n' (classTable s r) =
        s.heading "Class Table" 0 0 :: "" :: header :: separator :: body ∧
      (splitRow header).length = 4 ∧ body.length = 4 ∧
      ∀ line, body[1]? = some line → (splitRow line).length = 4 ∧
        (splitRow line)[0]? = some "2nd" ∧ (splitRow line)[1]? = some "—" ∧
        (splitRow line)[2]? = some "—" ∧ (splitRow line)[3]? = some "three" := by
  intro s dice slots r
  have hne : r.records "classTableGroups" ≠ [] := List.cons_ne_nil _ _
  obtain ⟨header, separator, body, hlines, hheader, -, -, hheight, hrows⟩ :=
    class_table_shows_levels s r hne
  refine ⟨hne, header, separator, body, hlines, hheader, hheight, fun line hline => ?_⟩
  obtain ⟨hlength, hlevel, hcell⟩ := hrows 1 line hline
  let first := ColumnGroup.ofRecord ⟨[("colLabels", .arr [.str "Dice", .str "a|b"]),
    ("rows", .arr [.arr [.str "x"], .obj [("row", .arr [.str "y"])], .arr [.null, .str "q"]])]⟩
  have hthree : Render.cell s (.str "three") 1 = "three" :=
    (Render.isWord_of_all (by decide) (by decide)).cell_eq s 1
  refine ⟨hlength, hlevel.trans ?_, ?_, ?_, ?_⟩
  · decide
  · exact hcell [] _ _ rfl 0 (by decide)
  · exact hcell [] _ _ rfl 1 (by decide)
  · exact (hcell [first] _ _ rfl 0 (by decide)).trans (congrArg some hthree)

end Document.PlayerClass

end Compendium
