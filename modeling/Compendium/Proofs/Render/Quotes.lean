import Mathlib.Data.List.Forall2
import Compendium.Proofs.Markdown.Lines
import Compendium.Proofs.Trim
import Compendium.Render.Tree

/-!
# Quoted blocks

Sidebars, texts to be read aloud and quotations put a title, a body and an attribution together
and quote the whole.  What is quoted may have any lines, blank ones and quoted ones among them:
each gets its marker, so nothing of a quoted block is left outside the quotation, and without the
markers its lines are there as they were.

What is read aloud is in italics, line by line (`InItalics`): asterisks stand around what a line
shows, behind the markers of its block, and a line that shows nothing stays as it is.

* `quotations_keep_lines`: this for quoted texts and for the blocks of the five kinds, and
  quotations in quotations.
-/

namespace Compendium.Render

open Compendium.Markdown

/-! ### Quoted texts -/

/-- A quotation of a text: it is empty if the text has no lines, and otherwise its lines are those
of the text behind markers. -/
def Quotes (quotation text : String) : Prop :=
  quotation = "" ∧ Text.lines text = [] ∨
    (∀ line ∈ Text.splitOn '\n' quotation, Text.beginsWith ">" line = true) ∧
      (Text.splitOn '\n' quotation).map unquoted = Text.lines text

theorem quotes_quoteLines (text : String) : Quotes (quoteLines text) text := by
  by_cases h : text = ""
  · subst h
    exact Or.inl ⟨mapLines_empty quoted, Text.lines_eq_nil_iff.2 rfl⟩
  · refine Or.inr ⟨?_, ?_⟩
    · intro line hl
      rw [splitOn_quoteLines h] at hl
      obtain ⟨raw, -, rfl⟩ := List.mem_map.1 hl
      exact beginsWith_quoted raw
    · rw [splitOn_quoteLines h, List.map_map]
      exact (List.map_congr_left fun line _ => unquoted_quoted line).trans (List.map_id _)

theorem quoteLines_ne_empty {text : String} (h : text ≠ "") : quoteLines text ≠ "" := by
  intro hq
  have hlines := splitOn_quoteLines h
  rw [hq] at hlines
  have hmarked : "" ∈ (Text.lines text).map quoted := by
    rw [← hlines]
    simp [Text.splitOn]
  obtain ⟨line, -, hl⟩ := List.mem_map.1 hmarked
  have hbegins := beginsWith_quoted line
  rw [hl] at hbegins
  cases hbegins

theorem beginsWith_of_mem_lines_quoteLines {text line : String}
    (hl : line ∈ Text.lines (quoteLines text)) : Text.beginsWith ">" line = true := by
  rcases quotes_quoteLines text with ⟨hq, -⟩ | ⟨hbegins, -⟩
  · rw [hq] at hl
    simp [Text.lines] at hl
  · have hreturn : '>' ≠ '\r' := by decide
    exact Text.beginsWith_of_mem_lines hreturn hbegins hl

/-- A line of a quotation in a quotation has both markers. -/
theorem beginsWith_quoted_quoted {text line : String} (h : text ≠ "")
    (hl : line ∈ Text.splitOn '\n' (quoteLines (quoteLines text))) :
    Text.beginsWith "> >" line = true := by
  rw [splitOn_quoteLines (quoteLines_ne_empty h)] at hl
  obtain ⟨inner, hi, rfl⟩ := List.mem_map.1 hl
  have hinner : inner.toList.head? = some '>' :=
    Text.beginsWith_singleton_iff.1 (beginsWith_of_mem_lines_quoteLines hi)
  obtain ⟨rest, hrest⟩ := List.head?_eq_some_iff.1 hinner
  have hne : inner ≠ "" := by
    rintro rfl
    cases hrest
  have hmarked : quoted inner = "> " ++ inner := if_neg (by simpa using hne)
  rw [hmarked, Text.beginsWith, String.toList_append, hrest]
  rfl

/-! ### Lines in italics -/

/-- The characters that markers in front of a line are made of: those of headings, quotations and
lists, and spaces. -/
def blockMarkers : List Char :=
  ['#', '>', '-', ' ']

/-- A line and the same line in italics: what stands behind markers is put between asterisks,
without white space at its end, if there is anything but white space. -/
inductive InItalics : String → String → Prop
  | bare {front blank : String} (hfront : ∀ c ∈ front.toList, c ∈ blockMarkers)
    (hblank : Text.isBlank blank = true) : InItalics (front ++ blank) (front ++ blank)
  | shown {front text blank : String} (hfront : ∀ c ∈ front.toList, c ∈ blockMarkers)
    (hhead : ∀ c ∈ text.toList.head?, c ∉ blockMarkers) (hlast : Text.EndsVisibly text)
    (hblank : Text.isBlank blank = true) :
    InItalics (front ++ text ++ blank) (front ++ "*" ++ text ++ "*")

/-- Whether a character is one of a marker. -/
def isBlockMarker (c : Char) : Bool :=
  c = '#' || c = '>' || c = '-' || c = ' '

theorem isBlockMarker_iff {c : Char} : isBlockMarker c = true ↔ c ∈ blockMarkers := by
  simp [isBlockMarker, blockMarkers, or_assoc]

theorem italicizeLine_eq (line : String) :
    italicizeLine line =
      if Text.isBlank (Text.dropFrontWhile isBlockMarker line) = true then line
      else String.ofList (line.toList.takeWhile isBlockMarker) ++ "*" ++
        Text.trimEnd (Text.dropFrontWhile isBlockMarker line) ++ "*" :=
  rfl

/-- A line is what markers it begins with and the rest of it. -/
theorem takeWhile_append_dropFrontWhile (line : String) :
    String.ofList (line.toList.takeWhile isBlockMarker) ++ Text.dropFrontWhile isBlockMarker line =
      line := by
  apply String.toList_injective
  simp [Text.dropFrontWhile]

theorem forall_takeWhile_mem_blockMarkers (line : String) :
    ∀ c ∈ (String.ofList (line.toList.takeWhile isBlockMarker)).toList, c ∈ blockMarkers := by
  intro c hc
  rw [String.toList_ofList] at hc
  exact isBlockMarker_iff.1 (List.mem_takeWhile_imp hc)

theorem trimEnd_append_of_endsVisibly {text blank : String} (hlast : Text.EndsVisibly text)
    (hblank : Text.isBlank blank = true) : Text.trimEnd (text ++ blank) = text := by
  have hchars : Chars.trimEnd (text.toList ++ blank.toList) = Chars.trimEnd text.toList :=
    Chars.trimEnd_append_of_isBlank hblank
  rw [Text.trimEnd, String.toList_append, hchars]
  exact hlast.trimEnd_eq

/-- A text is what is left of it without white space at its end, and white space. -/
theorem exists_trimEnd_append (text : String) :
    ∃ blank, Text.isBlank blank = true ∧ Text.trimEnd text ++ blank = text := by
  obtain ⟨blank, hblank, happend⟩ := Chars.exists_back text.toList
  refine ⟨String.ofList blank, by rwa [Text.isBlank, String.toList_ofList], ?_⟩
  rw [Text.trimEnd, ← String.ofList_append, happend, String.ofList_toList]

/-- Behind markers and in front of a visible end, no marker begins. -/
theorem split_of_shown {front text : String} (hfront : ∀ c ∈ front.toList, c ∈ blockMarkers)
    (hhead : ∀ c ∈ text.toList.head?, c ∉ blockMarkers) (hlast : Text.EndsVisibly text)
    (blank : String) :
    String.ofList ((front ++ text ++ blank).toList.takeWhile isBlockMarker) = front ∧
      Text.dropFrontWhile isBlockMarker (front ++ text ++ blank) = text ++ blank := by
  have hmarkers : ∀ c ∈ front.toList, isBlockMarker c = true :=
    fun c hc => isBlockMarker_iff.2 (hfront c hc)
  have hbehind : ∀ c ∈ (text ++ blank).toList.head?, isBlockMarker c = false := by
    obtain ⟨last, hl, -⟩ := hlast
    have hne : text.toList ≠ [] := by
      rintro he
      rw [he] at hl
      cases hl
    intro c hc
    rw [String.toList_append, List.head?_append_of_ne_nil _ hne] at hc
    exact Bool.eq_false_iff.2 fun hm => hhead c hc (isBlockMarker_iff.1 hm)
  rw [String.append_assoc, Text.dropFrontWhile, String.toList_append,
    Chars.takeWhile_append_of_boundary hmarkers hbehind,
    Chars.dropWhile_append_of_boundary hmarkers hbehind]
  exact ⟨String.ofList_toList, String.ofList_toList⟩

/-- **A line in italics** is what italicizing makes of the line. -/
theorem inItalics_iff {line italic : String} :
    InItalics line italic ↔ italic = italicizeLine line := by
  constructor
  · intro h
    cases h with
    | @bare front blank hfront hblank =>
      have hrest : Text.isBlank (Text.dropFrontWhile isBlockMarker (front ++ blank)) = true := by
        have hmarkers : ∀ c ∈ front.toList, isBlockMarker c = true :=
          fun c hc => isBlockMarker_iff.2 (hfront c hc)
        rw [Text.dropFrontWhile, String.toList_append, List.dropWhile_append_of_pos hmarkers,
          Text.isBlank, String.toList_ofList]
        exact List.all_eq_true.2 fun c hc =>
          List.all_eq_true.1 hblank c ((List.dropWhile_sublist _).subset hc)
      rw [italicizeLine_eq, if_pos hrest]
    | @shown front text blank hfront hhead hlast hblank =>
      obtain ⟨htake, hdrop⟩ := split_of_shown hfront hhead hlast blank
      have hshown : Text.isBlank (text ++ blank) = false := by
        rw [Text.isBlank, String.toList_append, Chars.isBlank, List.all_append,
          Bool.and_eq_false_iff]
        exact Or.inl hlast.isBlank_eq_false
      rw [italicizeLine_eq, htake, hdrop, if_neg (by simp [hshown]),
        trimEnd_append_of_endsVisibly hlast hblank]
  · rintro rfl
    have hsplit := takeWhile_append_dropFrontWhile line
    rw [italicizeLine_eq]
    by_cases hblank : Text.isBlank (Text.dropFrontWhile isBlockMarker line) = true
    · have hbare := InItalics.bare (forall_takeWhile_mem_blockMarkers line) hblank
      rw [if_pos hblank]
      rwa [hsplit] at hbare
    · obtain ⟨blank, hb, happend⟩ := exists_trimEnd_append (Text.dropFrontWhile isBlockMarker line)
      have hends := Text.endsVisibly_trimEnd (Bool.not_eq_true _ ▸ hblank)
      have hhead : ∀ c ∈ (Text.trimEnd (Text.dropFrontWhile isBlockMarker line)).toList.head?,
          c ∉ blockMarkers := by
        intro c hc hm
        have hfirst : (line.toList.dropWhile isBlockMarker).head? = some c := by
          have hmore : (Text.dropFrontWhile isBlockMarker line).toList.head? = some c := by
            rw [← happend, String.toList_append, List.head?_append, hc]
            rfl
          rwa [Text.dropFrontWhile, String.toList_ofList] at hmore
        have hnot := List.head?_dropWhile_not isBlockMarker line.toList
        rw [hfirst] at hnot
        exact absurd (isBlockMarker_iff.2 hm) (by simpa using hnot)
      have hshown := InItalics.shown (forall_takeWhile_mem_blockMarkers line) hhead hends hb
      rw [if_neg hblank]
      rwa [String.append_assoc, happend, hsplit] at hshown

theorem forall₂_inItalics_iff {lines italics : List String} :
    List.Forall₂ InItalics lines italics ↔ italics = lines.map italicizeLine := by
  have hline : InItalics = fun line italic => italicizeLine line = italic := by
    funext line italic
    exact propext (inItalics_iff.trans eq_comm)
  rw [hline, ← List.forall₂_map_left_iff, List.forall₂_eq_eq_eq]
  exact eq_comm

/-! ### Quoted blocks -/

/-- The kinds of blocks that are quoted as a whole. -/
def quotedKinds : List BlockKind :=
  [.inset, .variant, .flowBlock, .quote, .insetReadaloud]

/-- The title of a quoted block; a quotation has none. -/
def quotedTitle? (s : Style) (r : Record) : Option String :=
  match r.kind with
  | .quote => none
  | .variant => r.name?.map fun name => Style.bold ("Variant: " ++ s.expand name)
  | _ => r.name?.map fun name => Style.bold (s.expand name)

/-- A body as a quoted block shows it: what is read aloud is in italics, line by line. -/
def ShowsBody (r : Record) (body shown : String) : Prop :=
  if r.kind = .insetReadaloud then
    ∃ italics, List.Forall₂ InItalics (Text.lines body) italics ∧ shown = "\n".intercalate italics
  else shown = body

/-- What a quoted block shows under its body: the attribution of a quotation. -/
def quotedSource? (s : Style) (r : Record) : Option String :=
  if r.kind = .quote then attribution? s r else none

/-- What is quoted in a quoted block: its title, its body and its attribution, joined. -/
def IsQuotedText (s : Style) (r : Record) (depth : UInt64) (text : String) : Prop :=
  ∃ shown, ShowsBody r (children s r (depth + 1)) shown ∧
    text = joinBlocks ((quotedTitle? s r).toList ++ [shown] ++ (quotedSource? s r).toList)

variable {s : Style} {r : Record} {depth : UInt64}

theorem showsBody_iff {body shown : String} : ShowsBody r body shown ↔
    shown = if r.kind = .insetReadaloud then mapLines italicizeLine body else body := by
  unfold ShowsBody
  split
  · simp only [forall₂_inItalics_iff, exists_eq_left]
    rfl
  · exact Iff.rfl

theorem isQuotedText_iff {text : String} : IsQuotedText s r depth text ↔
    text = joinBlocks ((quotedTitle? s r).toList ++
      [if r.kind = .insetReadaloud then mapLines italicizeLine (children s r (depth + 1))
        else children s r (depth + 1)] ++ (quotedSource? s r).toList) := by
  simp only [IsQuotedText, showsBody_iff, exists_eq_left]

theorem exists_isQuotedText (s : Style) (r : Record) (depth : UInt64) :
    ∃ text, IsQuotedText s r depth text :=
  ⟨_, isQuotedText_iff.2 rfl⟩

theorem block_eq_quoteLines (h : r.kind ∈ quotedKinds) {text : String}
    (ht : IsQuotedText s r depth text) : block s r depth = quoteLines text := by
  have hcases : r.kind = .inset ∨ r.kind = .variant ∨ r.kind = .flowBlock ∨ r.kind = .quote ∨
      r.kind = .insetReadaloud := by simpa [quotedKinds] using h
  rw [isQuotedText_iff.1 ht, block, quotedTitle?, quotedSource?]
  rcases hcases with hk | hk | hk | hk | hk
  all_goals
    rw [hk]
    simp [sidebar, Option.map_map, Function.comp_def]

/-- **Quotations keep the lines of what is quoted.**  This holds of every text.  The blocks of
the five kinds are quotations of their title in bold, their body, in italics if it is read aloud,
and their attribution, joined.  And a quotation may be quoted again: all its lines then have both
markers, and without the outer ones they are the lines of the inner quotation. -/
theorem quotations_keep_lines :
    (∀ text, Quotes (quoteLines text) text) ∧
    (∀ (s : Style) (r : Record) (depth : UInt64), r.kind ∈ quotedKinds →
      (∃ text, IsQuotedText s r depth text) ∧
      ∀ text, IsQuotedText s r depth text → Quotes (block s r depth) text) ∧
    ∀ text, text ≠ "" →
      (∀ line ∈ Text.splitOn '\n' (quoteLines (quoteLines text)),
        Text.beginsWith "> >" line = true) ∧
      Quotes (quoteLines (quoteLines text)) (quoteLines text) := by
  refine ⟨quotes_quoteLines, ?_, ?_⟩
  · intro s r depth hk
    refine ⟨exists_isQuotedText s r depth, fun text ht => ?_⟩
    rw [block_eq_quoteLines hk ht]
    exact quotes_quoteLines text
  · intro text h
    exact ⟨fun line hl => beginsWith_quoted_quoted h hl, quotes_quoteLines (quoteLines text)⟩

/-- A quotation with an attribution in a variant rule, a text with a blank line and a carriage
return quoted twice, and a text to be read aloud with a list, a blank line and white space at its
end. -/
theorem quotations_keep_lines_oath :
    let oath : Record := ⟨[("type", .str "quote"), ("entry", .str "I\nII"), ("by", .str "Elf")]⟩
    let rule : Record := ⟨[("type", .str "variant"), ("name", .str "Oath"),
      ("entry", .obj oath.fields)]⟩
    let hall : Record := ⟨[("type", .str "insetReadaloud"), ("name", .str "Hall"),
      ("entry", .str "A door. \n\n- Rats")]⟩
    let text := "One\r\n\n Two\n"
    (rule.kind ∈ quotedKinds ∧ hall.kind ∈ quotedKinds ∧ text ≠ "") ∧
      Quotes (block default rule 0) "**Variant: Oath**\n\n> I\n> II\n>\n> — Elf" ∧
      Quotes (block default hall 0) "**Hall**\n\n*A door.*\n\n- *Rats*" ∧
      block default hall 0 = "> **Hall**\n>\n> *A door.*\n>\n> - *Rats*" ∧
      Quotes (quoteLines (quoteLines text)) (quoteLines text) ∧
      quoteLines (quoteLines text) = "> > One\n> >\n> >  Two" := by
  intro oath rule hall text
  obtain ⟨-, hblock, hnested⟩ := quotations_keep_lines
  have hrule : rule.kind ∈ quotedKinds := by decide +kernel
  have hoath : oath.kind ∈ quotedKinds := by decide +kernel
  have hhall : hall.kind ∈ quotedKinds := by decide +kernel
  have htext : text ≠ "" := by decide
  have hone : (0 + 1 : UInt64) = 1 := rfl
  have htwo : (1 + 1 : UInt64) = 2 := rfl
  have hinner : children default oath 2 = "I\nII" := by
    rw [children_of_some (v := .str "I\nII") rfl, value]
    decide +kernel
  have hbody : children default rule 1 = "> I\n> II\n>\n> — Elf" := by
    rw [children_of_some (v := .obj oath.fields) rfl, value,
      block_eq_quoteLines hoath (isQuotedText_iff.2 rfl), if_neg (by decide +kernel), htwo, hinner]
    decide +kernel
  have hquoted : IsQuotedText default rule 0 "**Variant: Oath**\n\n> I\n> II\n>\n> — Elf" := by
    rw [isQuotedText_iff, if_neg (by decide +kernel), hone, hbody]
    decide +kernel
  have hread : children default hall 1 = "A door. \n\n- Rats" := by
    rw [children_of_some (v := .str "A door. \n\n- Rats") rfl, value]
    decide +kernel
  have hspoken : IsQuotedText default hall 0 "**Hall**\n\n*A door.*\n\n- *Rats*" := by
    rw [isQuotedText_iff, if_pos (by decide +kernel), hone, hread]
    decide +kernel
  refine ⟨⟨hrule, hhall, htext⟩, (hblock default rule 0 hrule).2 _ hquoted,
    (hblock default hall 0 hhall).2 _ hspoken, ?_, (hnested text htext).2, by decide +kernel⟩
  rw [block_eq_quoteLines hhall hspoken]
  decide +kernel

end Compendium.Render
