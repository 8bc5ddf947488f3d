import Compendium.Markdown.TableRow
import Compendium.Proofs.Trim

/-!
# Rows are read back as they were written

A text is sealed if a backslash escapes each of its pipes and no backslash at its end is
left without the character it escapes.  Cutting a row passes over sealed texts as a whole
and is outside every escape behind them (`Sealed.cutCells_append`), so a row of sealed
pieces between pipes is cut into exactly these pieces (`splitRow_separatorRow`).

Escaped texts are sealed, tight and of one line: they are cells (`isCell_escapeCell`).
Undoing the escapes gives what was escaped (`unescape_flatMap`).

* `splitRow_escaped`: a row of escaped texts is read back as these texts, and they show
  the lines of the texts that were escaped.
-/

namespace Compendium.Markdown

open Compendium.Chars (Tight)

/-! ### Sealed texts -/

/-- A text whose pipes are escaped and which ends outside an escape. -/
inductive Sealed : List Char → Prop
  | nil : Sealed []
  | plain {c : Char} {s : List Char} : c ≠ '\\' → c ≠ '|' → Sealed s → Sealed (c :: s)
  | escaped {c : Char} {s : List Char} : Sealed s → Sealed ('\\' :: c :: s)

variable {s t : List Char}

theorem Sealed.append (hs : Sealed s) (ht : Sealed t) : Sealed (s ++ t) := by
  induction hs with
  | nil => exact ht
  | plain hb hp _ ih => exact .plain hb hp ih
  | escaped _ ih => exact .escaped ih

theorem sealed_of_forall : ∀ {s : List Char}, (∀ c ∈ s, c ≠ '\\' ∧ c ≠ '|') → Sealed s
  | [], _ => .nil
  | c :: rest, h => by
    have hc := h c List.mem_cons_self
    exact .plain hc.1 hc.2 (sealed_of_forall fun d hd => h d (List.mem_cons_of_mem c hd))

theorem sealed_intercalate {sep : List Char} (hsep : Sealed sep) {pieces : List (List Char)}
    (h : ∀ p ∈ pieces, Sealed p) : Sealed (sep.intercalate pieces) :=
  Chars.intercalate_of_append .nil (fun _ _ => Sealed.append) hsep h

/-! ### Cutting -/

theorem cutCells_ne_nil (escaped : Bool) (row : List Char) : cutCells escaped row ≠ [] := by
  cases row with
  | nil => simp [cutCells]
  | cons c rest =>
    rw [cutCells]
    split
    · simp
    · split <;> simp

theorem cutCells_pipe (rest : List Char) :
    cutCells false ('|' :: rest) = [] :: cutCells false rest := by
  rw [cutCells]
  rfl

/-- A character that ends no cell stands at the front of the first one. -/
theorem cutCells_cons {escaped : Bool} {c : Char} (h : escaped = true ∨ c ≠ '|')
    (rest : List Char) :
    cutCells escaped (c :: rest) =
      (cutCells (!escaped && c = '\\') rest).modifyHead (c :: ·) := by
  have hcut : ¬ (!escaped && decide (c = '|')) = true := by
    rcases h with rfl | h <;> simp_all
  rw [cutCells, if_neg hcut]
  cases hrest : cutCells (!escaped && decide (c = '\\')) rest with
  | nil => exact absurd hrest (cutCells_ne_nil _ rest)
  | cons cell cells => rfl

/-- **A sealed text stands in one cell**, and what follows it is cut as it would be alone. -/
theorem Sealed.cutCells_append (hs : Sealed s) (rest : List Char) :
    cutCells false (s ++ rest) = (cutCells false rest).modifyHead (s ++ ·) := by
  induction hs with
  | nil =>
    show cutCells false rest = (cutCells false rest).modifyHead id
    rw [List.modifyHead_id]
    rfl
  | @plain c s hb hp _ ih =>
    have hescape : (!false && decide (c = '\\')) = false := by simp [hb]
    rw [List.cons_append, cutCells_cons (Or.inr hp), hescape, ih, List.modifyHead_modifyHead]
    rfl
  | @escaped c s _ ih =>
    have hescape : (!false && decide ('\\' = '\\')) = true := rfl
    have hend : (!true && decide (c = '\\')) = false := rfl
    rw [List.cons_append, List.cons_append, cutCells_cons (Or.inr (by decide)), hescape,
      cutCells_cons (Or.inl rfl), hend, ih, List.modifyHead_modifyHead,
      List.modifyHead_modifyHead]
    rfl

theorem Sealed.cutCells_append_pipe (hs : Sealed s) (rest : List Char) :
    cutCells false (s ++ '|' :: rest) = s :: cutCells false rest := by
  rw [hs.cutCells_append, cutCells_pipe, List.modifyHead_cons, List.append_nil]

theorem cutCells_intercalate {pieces : List (List Char)} (hne : pieces ≠ [])
    (h : ∀ p ∈ pieces, Sealed p) : cutCells false (['|'].intercalate pieces) = pieces := by
  induction pieces with
  | nil => exact absurd rfl hne
  | cons piece rest ih =>
    have hpiece : Sealed piece := h piece List.mem_cons_self
    cases rest with
    | nil =>
      have hcut := hpiece.cutCells_append []
      rw [List.append_nil] at hcut
      rw [List.intercalate_singleton, hcut]
      simp [cutCells]
    | cons next rest =>
      rw [List.intercalate_cons_cons, List.append_assoc, List.singleton_append,
        hpiece.cutCells_append_pipe, ih (by simp) fun p hp => h p (List.mem_cons_of_mem piece hp)]

theorem tight_between (inner : List Char) : Tight ('|' :: inner ++ ['|']) :=
  Chars.tight_of_ends rfl List.getLast?_concat (by decide) (by decide)

theorem isSuffixOf_escape_between {inner : List Char} (hend : inner.getLast? ≠ some '\\') :
    List.isSuffixOf ['\\', '|'] ('|' :: inner ++ ['|']) = false := by
  rw [← Bool.not_eq_true, List.isSuffixOf_iff_suffix]
  rintro ⟨before, hb⟩
  have hsplit : (before ++ ['\\']) ++ ['|'] = ('|' :: inner) ++ ['|'] := by
    rw [List.append_assoc]
    exact hb
  have hfront : before ++ ['\\'] = '|' :: inner := List.append_cancel_right hsplit
  have hlast : ('|' :: inner).getLast? = some '\\' := by
    rw [← hfront, List.getLast?_concat]
  -- The first pipe is no backslash, so the inner text ends in this one.
  rw [List.getLast?_cons] at hlast
  cases hx : inner.getLast? with
  | none =>
    rw [hx] at hlast
    exact absurd hlast (by decide)
  | some c =>
    rw [hx] at hlast
    exact hend (hx.trans hlast)

/-- The pipes around a row open no cells, unless a backslash stands in front of the
last one. -/
theorem splitRow_between {inner : List Char} (hend : inner.getLast? ≠ some '\\') :
    splitRow (String.ofList ('|' :: inner ++ ['|'])) =
      ((cutCells false ('|' :: inner ++ ['|'])).tail.dropLast).map
        fun cell => String.ofList (Chars.trim cell) := by
  have hpipe : List.isSuffixOf ['|'] ('|' :: inner ++ ['|']) = true := by
    rw [List.isSuffixOf_iff_suffix]
    exact List.suffix_append _ _
  have hescape := isSuffixOf_escape_between hend
  have hhead : ('|' :: inner ++ ['|']).head? = some '|' := rfl
  rw [splitRow, String.toList_ofList, (tight_between inner).trim_eq]
  simp only [hpipe, hescape, hhead, if_true, Bool.not_false, Bool.and_self, List.drop_one]

/-- **A row of sealed pieces between pipes has these pieces as its cells.** -/
theorem splitRow_separatorRow {pieces : List String} (hne : pieces ≠ [])
    (h : ∀ p ∈ pieces, Sealed p.toList)
    (hend : ("|".intercalate pieces).toList.getLast? ≠ some '\\') :
    splitRow (separatorRow pieces) = pieces.map Text.trim := by
  -- The pipes at the ends are separators too, next to empty pieces.
  have hframe :
      "|" ++ "|".intercalate pieces ++ "|" = "|".intercalate ([""] ++ pieces ++ [""]) := by
    rw [String.intercalate_append_of_ne_nil (by simp) (by simp),
      String.intercalate_append_of_ne_nil (by simp) hne, String.intercalate_singleton]
    simp
  have hsealed : ∀ p ∈ [[]] ++ pieces.map String.toList ++ [[]], Sealed p := by
    intro p hp
    rw [List.mem_append, List.mem_append, List.mem_singleton] at hp
    rcases hp with (rfl | hp) | rfl
    · exact .nil
    · obtain ⟨piece, hm, rfl⟩ := List.mem_map.1 hp
      exact h piece hm
    · exact .nil
  have hcut : cutCells false (separatorRow pieces).toList =
      [[]] ++ pieces.map String.toList ++ [[]] := by
    rw [separatorRow, hframe, String.toList_intercalate, List.map_append, List.map_append]
    exact cutCells_intercalate (by simp) hsealed
  have hrow : (separatorRow pieces).toList =
      '|' :: ("|".intercalate pieces).toList ++ ['|'] := by simp [separatorRow]
  rw [← String.ofList_toList (s := separatorRow pieces), hrow, splitRow_between hend, ← hrow, hcut,
    List.append_assoc, List.singleton_append, List.tail_cons, List.dropLast_concat, List.map_map]
  rfl

/-! ### Rows of cells -/

/-- A text that may stand in a row: sealed, tight and of one line. -/
structure IsCell (cell : String) : Prop where
  isSealed : Sealed cell.toList
  tight : Tight cell.toList
  oneLine : '\n' ∉ cell.toList

theorem isCell_empty : IsCell "" where
  isSealed := .nil
  tight := Chars.tight_nil
  oneLine := by simp

/-- A cell between spaces. -/
def spaced (cell : String) : String :=
  " " ++ cell ++ " "

theorem IsCell.sealed_spaced {cell : String} (h : IsCell cell) : Sealed (spaced cell).toList := by
  have hspace : Sealed [' '] := .plain (by decide) (by decide) .nil
  rw [spaced, String.toList_append, String.toList_append]
  exact (hspace.append h.isSealed).append hspace

theorem IsCell.trim_spaced {cell : String} (h : IsCell cell) : Text.trim (spaced cell) = cell := by
  have hchars : (spaced cell).toList = ' ' :: cell.toList ++ [' '] := by simp [spaced]
  rw [Text.trim, hchars, h.tight.trim_spaced, String.ofList_toList]

theorem intercalate_spaced : ∀ {cells : List String}, cells ≠ [] →
    "|".intercalate (cells.map spaced) = " " ++ " | ".intercalate cells ++ " "
  | [], h => absurd rfl h
  | [cell], _ => by
    rw [List.map_singleton, String.intercalate_singleton, String.intercalate_singleton, spaced]
  | cell :: next :: rest, _ => by
    have ih : "|".intercalate ((next :: rest).map spaced) =
        " " ++ " | ".intercalate (next :: rest) ++ " " := intercalate_spaced (by simp)
    rw [List.map_cons, String.intercalate_cons_of_ne_nil (by simp), ih,
      String.intercalate_cons_cons, spaced]
    apply String.toList_injective
    simp

theorem formatRow_eq {cells : List String} (hne : cells ≠ []) :
    formatRow cells = separatorRow (cells.map spaced) := by
  rw [formatRow, if_neg (by simpa using hne), separatorRow, intercalate_spaced hne]
  apply String.toList_injective
  simp

/-- **A row is read back as its cells.** -/
theorem splitRow_formatRow {cells : List String} (hne : cells ≠ [])
    (h : ∀ cell ∈ cells, IsCell cell) : splitRow (formatRow cells) = cells := by
  rw [formatRow_eq hne, splitRow_separatorRow (by simpa using hne), List.map_map]
  · exact (List.map_congr_left fun cell hc => (h cell hc).trim_spaced).trans (List.map_id cells)
  · intro p hp
    obtain ⟨cell, hc, rfl⟩ := List.mem_map.1 hp
    exact (h cell hc).sealed_spaced
  · rw [intercalate_spaced hne, String.toList_append, show " ".toList = [' '] from rfl,
      List.getLast?_concat]
    decide

theorem splitRow_formatRow_nil : splitRow (formatRow []) = [""] := by
  rfl

/-! ### Rows are lines -/

theorem newline_notMem_separatorRow {pieces : List String} (h : ∀ p ∈ pieces, '\n' ∉ p.toList) :
    '\n' ∉ (separatorRow pieces).toList := by
  intro hn
  rw [separatorRow, String.toList_append, String.toList_append, String.toList_intercalate,
    List.mem_append, List.mem_append] at hn
  rcases hn with (hn | hn) | hn
  · exact absurd hn (by decide)
  · rcases Chars.mem_intercalate hn with hn | ⟨chars, hc, hn⟩
    · exact absurd hn (by decide)
    · obtain ⟨piece, hp, rfl⟩ := List.mem_map.1 hc
      exact h piece hp hn
  · exact absurd hn (by decide)

theorem newline_notMem_formatRow {cells : List String} (h : ∀ cell ∈ cells, IsCell cell) :
    '\n' ∉ (formatRow cells).toList := by
  by_cases hne : cells = []
  · rw [hne]
    decide
  · rw [formatRow_eq hne]
    refine newline_notMem_separatorRow fun p hp => ?_
    obtain ⟨cell, hc, rfl⟩ := List.mem_map.1 hp
    have hcell := (h cell hc).oneLine
    simpa [spaced] using hcell

theorem getLast?_separatorRow (pieces : List String) :
    (separatorRow pieces).toList.getLast? = some '|' := by
  rw [separatorRow, String.toList_append, List.getLast?_append]
  rfl

theorem getLast?_formatRow (cells : List String) :
    (formatRow cells).toList.getLast? = some '|' := by
  by_cases hne : cells = []
  · rw [hne]
    rfl
  · rw [formatRow_eq hne]
    exact getLast?_separatorRow _

/-! ### Escaping -/

theorem escapeCellChar_cases (c : Char) :
    (escapeCellChar c = ['\\', c]) ∨ (escapeCellChar c = [c] ∧ c ≠ '\\' ∧ c ≠ '|') := by
  unfold escapeCellChar
  by_cases hb : c = '\\'
  · exact Or.inl (by simp [hb])
  · by_cases hp : c = '|'
    · exact Or.inl (by simp [hp])
    · exact Or.inr ⟨by simp [hb, hp], hb, hp⟩

theorem sealed_flatMap (s : List Char) : Sealed (s.flatMap escapeCellChar) := by
  induction s with
  | nil => exact .nil
  | cons c s ih =>
    rw [List.flatMap_cons]
    rcases escapeCellChar_cases c with h | ⟨h, hb, hp⟩
    · rw [h]
      exact .escaped ih
    · rw [h]
      exact .plain hb hp ih

/-- Escaping changes no end of a text into white space. -/
theorem tight_flatMap (h : Tight s) : Tight (s.flatMap escapeCellChar) where
  front := by
    intro d hd
    cases s with
    | nil => simp at hd
    | cons c s =>
      have hc : Text.isSpace c = false := h.front c rfl
      rw [List.flatMap_cons] at hd
      rcases escapeCellChar_cases c with hesc | ⟨hesc, -, -⟩
      · rw [hesc] at hd
        obtain rfl : '\\' = d := Option.some.inj hd
        decide
      · rw [hesc] at hd
        obtain rfl : c = d := Option.some.inj hd
        exact hc
  back := by
    intro d hd
    rcases List.eq_nil_or_concat s with rfl | ⟨s, c, rfl⟩
    · simp at hd
    · have hc : Text.isSpace c = false := h.back c (by simp)
      have hlast : (escapeCellChar c).getLast? = some c := by
        rcases escapeCellChar_cases c with hesc | ⟨hesc, -, -⟩ <;> rw [hesc] <;> rfl
      rw [List.concat_eq_append, List.flatMap_append, List.flatMap_singleton,
        List.getLast?_append, hlast] at hd
      obtain rfl : c = d := Option.some.inj hd
      exact hc

theorem mem_flatMap_escapeCellChar {d : Char} (h : d ∈ s.flatMap escapeCellChar) :
    d = '\\' ∨ d ∈ s := by
  obtain ⟨c, hc, hd⟩ := List.mem_flatMap.1 h
  rcases escapeCellChar_cases c with hesc | ⟨hesc, -, -⟩
  · rw [hesc, List.mem_cons, List.mem_singleton] at hd
    rcases hd with rfl | rfl
    · exact Or.inl rfl
    · exact Or.inr hc
  · rw [hesc, List.mem_singleton] at hd
    exact Or.inr (hd ▸ hc)

/-! ### Escaped texts -/

/-- The lines of a text that are not blank, trimmed. -/
def shownLines (text : String) : List String :=
  ((Text.splitOn '\n' text).filter fun line => !Text.isBlank line).map Text.trim

/-- An escaped text is its lines that are not blank, each trimmed and escaped. -/
theorem escapeCell_eq (text : String) :
    escapeCell text = "<br>".intercalate ((shownLines text).map fun line =>
      String.ofList (line.toList.flatMap escapeCellChar)) := by
  have hempty : (fun line : List Char => !line.isEmpty) ∘ Chars.trim =
      fun line => !Chars.isBlank line := by
    funext line
    rw [Function.comp_apply, Bool.eq_iff_iff, Bool.not_eq_true', Bool.not_eq_true',
      ← Bool.not_eq_true, ← Bool.not_eq_true, List.isEmpty_iff, Chars.trim_eq_nil_iff]
  have hblank : (fun line : String => !Text.isBlank line) ∘ String.ofList =
      fun line => !Chars.isBlank line := by
    funext line
    rw [Function.comp_apply, Text.isBlank, String.toList_ofList]
  have htrim : (String.toList ∘ Text.trim) ∘ String.ofList = Chars.trim := by
    funext line
    simp only [Function.comp_apply, Text.trim, String.toList_ofList]
  have hlines : (((text.toList.splitOn '\n').map Chars.trim).filter fun line => !line.isEmpty) =
      (shownLines text).map String.toList := by
    rw [shownLines, Text.splitOn, List.filter_map, List.filter_map, List.map_map, List.map_map,
      hempty, hblank, htrim]
  rw [escapeCell, hlines, List.map_map]
  rfl

theorem tight_shownLines {text line : String} (h : line ∈ shownLines text) :
    Tight line.toList := by
  obtain ⟨piece, -, rfl⟩ := List.mem_map.1 h
  rw [Text.trim, String.toList_ofList]
  exact Chars.tight_trim piece.toList

theorem newline_notMem_shownLines {text line : String} (h : line ∈ shownLines text) :
    '\n' ∉ line.toList := by
  obtain ⟨piece, hp, rfl⟩ := List.mem_map.1 h
  obtain ⟨chars, hc, rfl⟩ := List.mem_map.1 (List.mem_filter.1 hp).1
  intro hn
  rw [Text.trim, String.toList_ofList, String.toList_ofList] at hn
  exact Chars.sep_notMem_of_mem_splitOn hc (Chars.mem_of_mem_trim hn)

theorem sealed_break : Sealed "<br>".toList :=
  sealed_of_forall (by simp)

theorem tight_break : Tight "<br>".toList :=
  Chars.tight_of_ends rfl rfl (by decide) (by decide)

theorem toList_escapeCell (text : String) :
    (escapeCell text).toList = "<br>".toList.intercalate
      ((shownLines text).map fun line => line.toList.flatMap escapeCellChar) := by
  rw [escapeCell_eq, String.toList_intercalate, List.map_map]
  refine congrArg _ (List.map_congr_left fun line _ => ?_)
  rw [Function.comp_apply, String.toList_ofList]

/-- **An escaped text may stand in a row.** -/
theorem isCell_escapeCell (text : String) : IsCell (escapeCell text) := by
  constructor
  · rw [toList_escapeCell]
    refine sealed_intercalate sealed_break fun p hp => ?_
    obtain ⟨line, -, rfl⟩ := List.mem_map.1 hp
    exact sealed_flatMap line.toList
  · rw [toList_escapeCell]
    refine Chars.tight_intercalate tight_break fun p hp => ?_
    obtain ⟨line, hl, rfl⟩ := List.mem_map.1 hp
    exact tight_flatMap (tight_shownLines hl)
  · rw [toList_escapeCell]
    intro hn
    rcases Chars.mem_intercalate hn with hn | ⟨p, hp, hn⟩
    · exact absurd hn (by decide)
    · obtain ⟨line, hl, rfl⟩ := List.mem_map.1 hp
      rcases mem_flatMap_escapeCellChar hn with hn | hn
      · exact absurd hn (by decide)
      · exact newline_notMem_shownLines hl hn

/-! ### Undoing escapes -/

/-- Drops every backslash that escapes a character. -/
def unescape : List Char → List Char
  | [] => []
  | '\\' :: c :: rest => c :: unescape rest
  | c :: rest => c :: unescape rest

/-- A cell without its escapes. -/
def unescapeCell (cell : String) : String :=
  String.ofList (unescape cell.toList)

theorem unescape_cons {c : Char} (h : c ≠ '\\') (rest : List Char) :
    unescape (c :: rest) = c :: unescape rest := by
  rw [unescape]
  rintro d s rfl
  exact absurd rfl h

theorem Sealed.unescape_append (hs : Sealed s) (t : List Char) :
    unescape (s ++ t) = unescape s ++ unescape t := by
  induction hs with
  | nil => rfl
  | plain hb _ _ ih =>
    rw [List.cons_append, unescape_cons hb, unescape_cons hb, ih, List.cons_append]
  | escaped _ ih =>
    rw [List.cons_append, List.cons_append, unescape, unescape, ih, List.cons_append]

/-- **Undoing the escapes gives what was escaped.** -/
theorem unescape_flatMap (s : List Char) : unescape (s.flatMap escapeCellChar) = s := by
  induction s with
  | nil => rfl
  | cons c s ih =>
    rw [List.flatMap_cons]
    rcases escapeCellChar_cases c with h | ⟨h, hb, -⟩
    · rw [h, List.cons_append, List.singleton_append, unescape, ih]
    · rw [h, List.singleton_append, unescape_cons hb, ih]

theorem unescape_intercalate {sep : List Char} (hsep : Sealed sep) {pieces : List (List Char)}
    (h : ∀ p ∈ pieces, Sealed p) :
    unescape (sep.intercalate pieces) = (unescape sep).intercalate (pieces.map unescape) := by
  induction pieces with
  | nil => rfl
  | cons piece rest ih =>
    cases rest with
    | nil => rw [List.map_singleton, List.intercalate_singleton, List.intercalate_singleton]
    | cons next rest =>
      have hpiece : Sealed piece := h piece List.mem_cons_self
      have hrest := ih fun other ho => h other (List.mem_cons_of_mem piece ho)
      rw [List.intercalate_cons_cons, (hpiece.append hsep).unescape_append,
        hpiece.unescape_append, hrest, List.map_cons, List.map_cons, List.map_cons,
        List.intercalate_cons_cons]

theorem unescapeCell_escapeCell (text : String) :
    unescapeCell (escapeCell text) = "<br>".intercalate (shownLines text) := by
  have hsealed : ∀ p ∈ (shownLines text).map fun line => line.toList.flatMap escapeCellChar,
      Sealed p := by
    intro p hp
    obtain ⟨line, -, rfl⟩ := List.mem_map.1 hp
    exact sealed_flatMap line.toList
  have hbreak : unescape "<br>".toList = "<br>".toList := by decide
  apply String.toList_injective
  rw [unescapeCell, String.toList_ofList, toList_escapeCell,
    unescape_intercalate sealed_break hsealed, hbreak, String.toList_intercalate,
    List.map_map]
  refine congrArg _ (List.map_congr_left fun line _ => ?_)
  rw [Function.comp_apply, unescape_flatMap]

theorem intercalate_shownLines {text : String} (h : '\n' ∉ text.toList) :
    "<br>".intercalate (shownLines text) = Text.trim text := by
  have hlines : shownLines text = ([text].filter fun line => !Text.isBlank line).map Text.trim := by
    rw [shownLines, Text.splitOn, List.splitOn_eq_singleton h, List.map_singleton,
      String.ofList_toList]
  rw [hlines]
  by_cases hb : Text.isBlank text = true
  · rw [List.filter_cons_of_neg (by simp [hb]), Text.trim, Chars.trim_eq_nil_iff.2 hb]
    rfl
  · rw [List.filter_cons_of_pos (by simp [hb]), List.filter_nil, List.map_singleton,
      String.intercalate_singleton]

/-- **A row of escaped texts is read back as these texts.**  Without its escapes each cell
shows the lines of its text that are not blank, trimmed and with breaks between them; a text
of one line is recovered up to the white space around it. -/
theorem splitRow_escaped (texts : List String) (h : texts ≠ []) :
    splitRow ("| " ++ " | ".intercalate (texts.map escapeCell) ++ " |") = texts.map escapeCell ∧
      ∀ text ∈ texts, unescapeCell (escapeCell text) = "<br>".intercalate (shownLines text) ∧
        ('\n' ∉ text.toList → unescapeCell (escapeCell text) = Text.trim text) := by
  constructor
  · have hformat : "| " ++ " | ".intercalate (texts.map escapeCell) ++ " |" =
        formatRow (texts.map escapeCell) := by
      rw [formatRow, if_neg (by simpa using h)]
    have hne : texts.map escapeCell ≠ [] := by simpa using h
    rw [hformat, splitRow_formatRow hne]
    intro cell hc
    obtain ⟨text, -, rfl⟩ := List.mem_map.1 hc
    exact isCell_escapeCell text
  · intro text _
    refine ⟨unescapeCell_escapeCell text, fun hline => ?_⟩
    rw [unescapeCell_escapeCell, intercalate_shownLines hline]

/-- A shop's row: a price with a pipe and backslashes at its end, an empty cell, and a remark of
three lines of which one is blank. -/
theorem splitRow_escaped_shop :
    let price := "5|6 \\\\\\"
    let remark := " sold out\n \n ask again "
    let texts := [price, "", remark]
    (texts ≠ [] ∧ price ∈ texts ∧ remark ∈ texts ∧ '\n' ∉ price.toList) ∧
      splitRow ("| " ++ " | ".intercalate (texts.map escapeCell) ++ " |") =
        texts.map escapeCell ∧
      unescapeCell (escapeCell remark) = "sold out<br>ask again" ∧
      unescapeCell (escapeCell price) = price := by
  intro price remark texts
  have hne : texts ≠ [] := List.cons_ne_nil _ _
  have hprice : price ∈ texts := List.mem_cons_self
  have hremark : remark ∈ texts := by decide
  have hline : '\n' ∉ price.toList := by decide
  obtain ⟨hrow, hcells⟩ := splitRow_escaped texts hne
  have hshown := (hcells remark hremark).1
  have htrim := (hcells price hprice).2 hline
  refine ⟨⟨hne, hprice, hremark, hline⟩, hrow, hshown.trans ?_, htrim.trans ?_⟩
  · decide +kernel
  · decide +kernel

end Compendium.Markdown
