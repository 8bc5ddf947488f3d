import Compendium.Proofs.Markdown.Blocks

/-!
# Lines behind markers

The lines of a text hold no line feed.  So if a mapping of lines brings none in, a text whose
lines are mapped is cut at its line feeds into exactly the mapped lines (`splitOn_mapLines`),
whatever carriage returns and line feeds at the end the text had.

Quotations, indented texts and list items are texts whose lines are put behind markers, and the
markers can be taken away again: `unquoted` undoes `quoted`, and `dedented` undoes both
`indented` and the bullet in front of an item's first line (`dedented_bulleted`).
-/

namespace Compendium.Chars

/-! ### Lines of a text -/

/-- A line is a piece between line feeds, perhaps without the carriage return at its end. -/
theorem mem_linesOfPieces : ∀ {pieces : List (List Char)} {line : List Char},
    line ∈ linesOfPieces pieces → ∃ piece ∈ pieces, line = piece ∨ line = dropReturn piece
  | [], line, h => by simp [linesOfPieces] at h
  | [last], line, h => by
    rw [linesOfPieces] at h
    split at h
    · simp at h
    · exact ⟨last, by simp, Or.inl (by simpa using h)⟩
  | piece :: next :: rest, line, h => by
    rw [linesOfPieces] at h
    rcases List.mem_cons.1 h with rfl | h
    · exact ⟨piece, by simp, Or.inr rfl⟩
    · obtain ⟨other, ho, hline⟩ := mem_linesOfPieces h
      exact ⟨other, List.mem_cons_of_mem piece ho, hline⟩

theorem dropReturn_subset (line : List Char) : dropReturn line ⊆ line := by
  unfold dropReturn
  split
  · exact List.dropLast_subset line
  · exact List.Subset.refl line

theorem newline_notMem_of_mem_lines {s line : List Char} (h : line ∈ lines s) : '\n' ∉ line := by
  obtain ⟨piece, hp, hline⟩ := mem_linesOfPieces h
  have hpiece : '\n' ∉ piece := sep_notMem_of_mem_splitOn hp
  rcases hline with rfl | rfl
  · exact hpiece
  · exact fun hn => hpiece (dropReturn_subset piece hn)

/-- Dropping a carriage return at the end keeps any other first character. -/
theorem head?_dropReturn {line : List Char} {c : Char} (hc : c ≠ '\r')
    (h : line.head? = some c) : (dropReturn line).head? = some c := by
  unfold dropReturn
  split
  · next hlast =>
    cases line with
    | nil => cases h
    | cons d rest =>
      obtain rfl : d = c := Option.some.inj h
      cases rest with
      | nil => exact absurd (Option.some.inj hlast) hc
      | cons e rest => rfl
  · exact h

theorem head?_of_mem_lines {s line : List Char} {c : Char} (hc : c ≠ '\r')
    (h : ∀ piece ∈ s.splitOn '\n', piece.head? = some c) (hl : line ∈ lines s) :
    line.head? = some c := by
  obtain ⟨piece, hp, rfl | rfl⟩ := mem_linesOfPieces hl
  · exact h line hp
  · exact head?_dropReturn hc (h piece hp)

theorem lines_eq_nil_iff {s : List Char} : lines s = [] ↔ s = [] := by
  constructor
  · intro h
    have hs : ['\n'].intercalate (s.splitOn '\n') = s := List.intercalate_splitOn '\n'
    rw [lines] at h
    cases hp : s.splitOn '\n' with
    | nil => exact absurd hp (List.splitOn_ne_nil '\n' s)
    | cons piece rest =>
      rw [hp] at h hs
      cases rest with
      | nil =>
        rw [List.intercalate_singleton] at hs
        simp [linesOfPieces] at h
        rw [← hs, h]
      | cons next rest => simp [linesOfPieces] at h
  · rintro rfl
    exact lines_nil

end Compendium.Chars

namespace Compendium.Text

theorem newline_notMem_of_mem_lines {text line : String} (h : line ∈ lines text) :
    '\n' ∉ line.toList := by
  obtain ⟨chars, hc, rfl⟩ := List.mem_map.1 h
  rw [String.toList_ofList]
  exact Chars.newline_notMem_of_mem_lines hc

theorem lines_eq_nil_iff {text : String} : lines text = [] ↔ text = "" := by
  rw [lines, List.map_eq_nil_iff, Chars.lines_eq_nil_iff, String.toList_eq_nil_iff]

/-- Texts with line feeds between them have the lines of all of them. -/
theorem splitOn_intercalate_texts : ∀ {texts : List String}, texts ≠ [] →
    splitOn '\n' ("\n".intercalate texts) = texts.flatMap (splitOn '\n')
  | [], h => absurd rfl h
  | [text], _ => by simp
  | text :: next :: rest, _ => by
    have ih : splitOn '\n' ("\n".intercalate (next :: rest)) =
        (next :: rest).flatMap (splitOn '\n') := splitOn_intercalate_texts (by simp)
    rw [String.intercalate_cons_cons, splitOn_line, ih, List.flatMap_cons (x := text)]

theorem beginsWith_singleton_iff {c : Char} {s : String} :
    beginsWith (String.singleton c) s = true ↔ s.toList.head? = some c := by
  rw [beginsWith, List.isPrefixOf_iff_prefix, String.toList_singleton]
  cases s.toList with
  | nil => simp
  | cons d rest => simp [eq_comm]

/-- What all pieces of a text begin with, carriage returns apart, all its lines begin with. -/
theorem beginsWith_of_mem_lines {c : Char} (hc : c ≠ '\r') {text line : String}
    (h : ∀ piece ∈ splitOn '\n' text, beginsWith (String.singleton c) piece = true)
    (hl : line ∈ lines text) : beginsWith (String.singleton c) line = true := by
  obtain ⟨chars, hm, rfl⟩ := List.mem_map.1 hl
  rw [beginsWith_singleton_iff, String.toList_ofList]
  refine Chars.head?_of_mem_lines hc (fun piece hp => ?_) hm
  have hpiece := h (String.ofList piece) (List.mem_map_of_mem hp)
  rwa [beginsWith_singleton_iff, String.toList_ofList] at hpiece

theorem beginsWith_append (front s : String) : beginsWith front (front ++ s) = true := by
  simp [beginsWith]

end Compendium.Text

namespace Compendium.Markdown

/-! ### Mapped lines -/

theorem mapLines_empty (f : String → String) : mapLines f "" = "" := by
  simp [mapLines, Text.lines]

/-- **A text whose lines are mapped has the mapped lines.** -/
theorem splitOn_mapLines {f : String → String}
    (hf : ∀ line : String, '\n' ∉ line.toList → '\n' ∉ (f line).toList) {text : String}
    (h : text ≠ "") : Text.splitOn '\n' (mapLines f text) = (Text.lines text).map f := by
  refine Text.splitOn_intercalate ?_ ?_
  · rw [Ne, List.map_eq_nil_iff, Text.lines_eq_nil_iff]
    exact h
  · intro mapped hm
    obtain ⟨line, hl, rfl⟩ := List.mem_map.1 hm
    exact hf line (Text.newline_notMem_of_mem_lines hl)

/-! ### Quotations -/

/-- A line of a quotation. -/
def quoted (line : String) : String :=
  if line.isEmpty then ">" else "> " ++ line

/-- A line of a quotation without its marker: without `> `, or without a `>` that stands alone. -/
def unquoted (line : String) : String :=
  if line = ">" then ""
  else if Text.beginsWith "> " line then String.ofList (line.toList.drop 2)
  else line

theorem quoteLines_eq (text : String) : quoteLines text = mapLines quoted text :=
  rfl

theorem beginsWith_quoted (line : String) : Text.beginsWith ">" (quoted line) = true := by
  unfold quoted
  split <;> simp [Text.beginsWith]

theorem newline_notMem_quoted {line : String} (h : '\n' ∉ line.toList) :
    '\n' ∉ (quoted line).toList := by
  unfold quoted
  split <;> simp [h]

theorem unquoted_quoted (line : String) : unquoted (quoted line) = line := by
  by_cases h : line = ""
  · subst h
    rfl
  · have hmarked : quoted line = "> " ++ line := if_neg (by simpa using h)
    have hne : "> " ++ line ≠ ">" := by
      intro he
      simpa using congrArg String.toList he
    rw [hmarked, unquoted, if_neg hne, if_pos (Text.beginsWith_append "> " line)]
    simp

theorem splitOn_quoteLines {text : String} (h : text ≠ "") :
    Text.splitOn '\n' (quoteLines text) = (Text.lines text).map quoted := by
  rw [quoteLines_eq]
  exact splitOn_mapLines (fun _ => newline_notMem_quoted) h

/-! ### Indented lines and list items -/

/-- A line moved two columns in, unless it is empty. -/
def indented (line : String) : String :=
  if line.isEmpty then "" else "  " ++ line

/-- A line that is not empty without its first two columns. -/
def dedented (line : String) : String :=
  if line.isEmpty then "" else String.ofList (line.toList.drop 2)

/-- Lines as those of a list item: the first one behind a bullet, the others under it. -/
def bulleted : List String → List String
  | [] => []
  | first :: rest => ("- " ++ first) :: rest.map indented

theorem indent_eq (text : String) : indent text = mapLines indented text :=
  rfl

theorem indented_cases (line : String) :
    indented line = "" ∨ Text.beginsWith "  " (indented line) = true := by
  unfold indented
  split
  · exact Or.inl rfl
  · exact Or.inr (Text.beginsWith_append "  " line)

theorem beginsWith_bullet_indented (line : String) :
    Text.beginsWith "- " (indented line) = false := by
  unfold indented
  split <;> simp [Text.beginsWith, List.isPrefixOf]

theorem newline_notMem_indented {line : String} (h : '\n' ∉ line.toList) :
    '\n' ∉ (indented line).toList := by
  unfold indented
  split <;> simp [h]

theorem dedented_append {marker : String} (hm : marker.toList.length = 2) (line : String) :
    dedented (marker ++ line) = line := by
  have hne : (marker ++ line).isEmpty = false := by
    rw [← Bool.not_eq_true, String.isEmpty_iff]
    intro he
    have := congrArg (List.length ∘ String.toList) he
    simp at this
    simp [this.1] at hm
  rw [dedented, hne, String.toList_append, ← hm, List.drop_left]
  simp

theorem dedented_indented (line : String) : dedented (indented line) = line := by
  by_cases h : line = ""
  · subst h
    rfl
  · have hmarked : indented line = "  " ++ line := if_neg (by simpa using h)
    rw [hmarked, dedented_append rfl]

theorem splitOn_indent {text : String} (h : text ≠ "") :
    Text.splitOn '\n' (indent text) = (Text.lines text).map indented := by
  rw [indent_eq]
  exact splitOn_mapLines (fun _ => newline_notMem_indented) h

/-- **Taking two columns away undoes the marking of an item.** -/
theorem dedented_bulleted (lines : List String) : (bulleted lines).map dedented = lines := by
  cases lines with
  | nil => rfl
  | cons first rest =>
    have hrest : (rest.map indented).map dedented = rest := by
      rw [List.map_map]
      exact (List.map_congr_left fun line _ => dedented_indented line).trans (List.map_id rest)
    rw [bulleted, List.map_cons, dedented_append rfl, hrest]

theorem newline_notMem_bulleted {lines : List String} (h : ∀ line ∈ lines, '\n' ∉ line.toList) :
    ∀ line ∈ bulleted lines, '\n' ∉ line.toList := by
  cases lines with
  | nil => simp [bulleted]
  | cons first rest =>
    intro line hl
    rcases List.mem_cons.1 hl with rfl | hl
    · simpa using h first (by simp)
    · obtain ⟨other, ho, rfl⟩ := List.mem_map.1 hl
      exact newline_notMem_indented (h other (List.mem_cons_of_mem first ho))

theorem bullet?_eq (text : String) : bullet? text =
    if Text.isBlank text then none else some ("\n".intercalate (bulleted (Text.lines text))) := by
  by_cases hb : Text.isBlank text = true
  · rw [bullet?, if_pos hb, if_pos hb]
  · rw [bullet?, if_neg hb, if_neg hb]
    cases hl : Text.lines text with
    | nil =>
      rw [Text.lines_eq_nil_iff] at hl
      exact absurd (hl ▸ rfl) hb
    | cons first rest => rfl

/-- **A list item is cut into its text's lines**, the first one behind the bullet. -/
theorem splitOn_bullet {text : String} (h : Text.isBlank text = false) :
    Text.splitOn '\n' ("\n".intercalate (bulleted (Text.lines text))) =
      bulleted (Text.lines text) := by
  refine Text.splitOn_intercalate ?_ ?_
  · cases hl : Text.lines text with
    | nil =>
      rw [Text.lines_eq_nil_iff] at hl
      subst hl
      cases h
    | cons first rest => simp [bulleted]
  · exact newline_notMem_bulleted fun line hl => Text.newline_notMem_of_mem_lines hl

end Compendium.Markdown
