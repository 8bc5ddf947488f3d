import Mathlib.Data.List.Basic
import Compendium.Markdown.Code
import Compendium.Proofs.Markdown.Blocks
import Compendium.Render.Tree

/-!
# Code read back

A code span ends at the first run of backticks that is as long as the one it opens with
(`readSpan?`), and a code block at the first line that is a run of at least as many backticks
(`readBlock?`).  Delimiters are longer than any run of the content (`le_longestRun`), so both
readers come to the closing delimiter and to nothing before it, whatever stands behind it.

A space at both ends of a code span is taken away by its reader.  Where a backtick is at an end of
the content, these are the two spaces that keep it apart from the delimiters; else they are the
content's own, which is lost on no other content (`unpadded_padded`).

* `code_reads_back`: spans and blocks read back as what they were made of.
-/

namespace Compendium

/-! ### Runs -/

namespace Chars

variable {c d : Char} {n : Nat} {s t : List Char}

theorem le_longestRunFrom {m : Nat} (h : List.replicate n c <:+: List.replicate m c ++ s) :
    n ≤ longestRunFrom c m s := by
  induction s generalizing m with
  | nil =>
    have hlength := h.length_le
    rw [List.append_nil, List.length_replicate, List.length_replicate] at hlength
    exact hlength
  | cons d rest ih =>
    rw [longestRunFrom]
    by_cases hd : d = c
    · subst hd
      rw [if_pos rfl]
      refine ih ?_
      rwa [List.replicate_succ', List.append_assoc]
    · rw [if_neg hd]
      have hrun : d ∉ List.replicate n c := fun hmem => hd (List.eq_of_mem_replicate hmem)
      rcases infix_append_cons hrun h with hrun | hrun
      · have hlength := hrun.length_le
        rw [List.length_replicate, List.length_replicate] at hlength
        exact Nat.le_trans hlength (Nat.le_max_left _ _)
      · exact Nat.le_trans (ih (m := 0) hrun) (Nat.le_max_right _ _)

/-- **No run is longer than the longest.** -/
theorem le_longestRun (h : List.replicate n c <:+: s) : n ≤ longestRun c s :=
  le_longestRunFrom (m := 0) h

theorem longestRunFrom_concat (hd : d ≠ c) (m : Nat) :
    longestRunFrom c m (s ++ [d]) = longestRunFrom c m s := by
  induction s generalizing m with
  | nil => simp [longestRunFrom, hd]
  | cons e rest ih => simp only [List.cons_append, longestRunFrom, ih]

/-- Other characters around a text make no run longer. -/
theorem longestRun_between (hd : d ≠ c) (s : List Char) :
    longestRun c (d :: s ++ [d]) ≤ longestRun c s := by
  rw [longestRun, longestRunFrom_concat hd, longestRunFrom, if_neg hd]
  exact Nat.max_le.2 ⟨Nat.zero_le _, Nat.le_refl _⟩

end Chars

namespace Markdown

open Chars (longestRunFrom longestRun)

theorem takeWhile_ticks (n : Nat) {t : List Char} (h : t.head? ≠ some tick) :
    (List.replicate n tick ++ t).takeWhile (fun c => c = tick) = List.replicate n tick :=
  Chars.takeWhile_append_of_boundary
    (fun _ hc => decide_eq_true (List.eq_of_mem_replicate hc))
    fun _ hc => decide_eq_false fun he => h (he ▸ hc)

theorem dropWhile_ticks (n : Nat) {t : List Char} (h : t.head? ≠ some tick) :
    (List.replicate n tick ++ t).dropWhile (fun c => c = tick) = t :=
  Chars.dropWhile_append_of_boundary
    (fun _ hc => decide_eq_true (List.eq_of_mem_replicate hc))
    fun _ hc => decide_eq_false fun he => h (he ▸ hc)

/-! ### Code spans -/

/-- The content in front of the next run of exactly `n` backticks, and what stands behind that
run; `run` backticks have been read last. -/
def spanContent? (n run : Nat) : List Char → Option (List Char × List Char)
  | [] => if run = n then some ([], []) else none
  | c :: rest =>
    if c = tick then spanContent? n (run + 1) rest
    else if run = n then some ([], c :: rest)
    else (spanContent? n 0 rest).map fun (content, behind) =>
      (List.replicate run tick ++ c :: content, behind)

/-- Content without a space at either end, if a space is at both and it is not all spaces. -/
def unpadded (content : List Char) : List Char :=
  if content.head? = some ' ' ∧ content.getLast? = some ' ' ∧ content.any (fun c => c ≠ ' ') then
    content.tail.dropLast
  else content

/-- Reads the code span that a text begins with: its content, and what stands behind it. -/
def readSpan? (s : String) : Option (String × String) :=
  let ticks := s.toList.takeWhile fun c => c = tick
  if ticks.isEmpty then none
  else (spanContent? ticks.length 0 (s.toList.dropWhile fun c => c = tick)).map
    fun (content, behind) => (String.ofList (unpadded content), String.ofList behind)

section Spans

variable {n run : Nat} {s rest : List Char}

theorem spanContent?_ticks (hrest : rest.head? ≠ some tick) {more : Nat} (hn : run + more = n) :
    spanContent? n run (List.replicate more tick ++ rest) = some ([], rest) := by
  induction more generalizing run with
  | zero =>
    rw [Nat.add_zero] at hn
    cases rest with
    | nil => exact if_pos hn
    | cons c rest =>
      have hc : c ≠ tick := fun h => hrest (congrArg some h)
      rw [List.replicate_zero, List.nil_append, spanContent?, if_neg hc, if_pos hn]
  | succ more ih =>
    rw [List.replicate_succ, List.cons_append, spanContent?, if_pos rfl]
    exact ih (by omega)

/-- **Content without long runs is read up to the delimiter**, if it does not end in a backtick. -/
theorem spanContent?_append (hrest : rest.head? ≠ some tick)
    (hlong : longestRunFrom tick run s < n)
    (hend : (List.replicate run tick ++ s).getLast? ≠ some tick) :
    spanContent? n run (s ++ (List.replicate n tick ++ rest)) =
      some (List.replicate run tick ++ s, rest) := by
  induction s generalizing run with
  | nil =>
    obtain rfl : run = 0 := by
      cases run with
      | zero => rfl
      | succ run => simp [List.replicate_succ'] at hend
    exact spanContent?_ticks hrest (Nat.zero_add n)
  | cons c s ih =>
    rw [longestRunFrom] at hlong
    rw [List.cons_append, spanContent?]
    by_cases hc : c = tick
    · subst hc
      rw [if_pos rfl] at hlong ⊢
      have hrun : List.replicate run tick ++ tick :: s = List.replicate (run + 1) tick ++ s := by
        rw [List.replicate_succ', List.append_assoc, List.singleton_append]
      rw [hrun] at hend ⊢
      exact ih hlong hend
    · rw [if_neg hc, Nat.max_lt] at hlong
      rw [if_neg hc, if_neg (Nat.ne_of_lt hlong.1)]
      have hinner : (List.replicate 0 tick ++ s).getLast? ≠ some tick := by
        intro hlast
        have hs : s.getLast? = some tick := hlast
        rw [List.getLast?_append, List.getLast?_cons, hs] at hend
        exact hend rfl
      rw [ih hlong.2 hinner]
      rfl

/-- Delimiters around content that neither begins nor ends with a backtick. -/
theorem readSpan?_delimited {text : String} (hn : 0 < n) (hrest : rest.head? ≠ some tick)
    (hlong : longestRun tick s < n) (hne : s ≠ []) (hfront : s.head? ≠ some tick)
    (hback : s.getLast? ≠ some tick)
    (htext : text.toList = List.replicate n tick ++ (s ++ (List.replicate n tick ++ rest))) :
    readSpan? text = some (String.ofList (unpadded s), String.ofList rest) := by
  have hother : (s ++ (List.replicate n tick ++ rest)).head? ≠ some tick := by
    rwa [List.head?_append_of_ne_nil s hne]
  have hsome : (List.replicate n tick).isEmpty = false := by
    rw [List.isEmpty_eq_false_iff, Ne, List.replicate_eq_nil_iff]
    exact Nat.ne_of_gt hn
  rw [readSpan?, htext, takeWhile_ticks n hother, dropWhile_ticks n hother, hsome,
    List.length_replicate, spanContent?_append hrest hlong hback]
  rfl

/-- Content as it stands between its delimiters. -/
def padded (content : List Char) : List Char :=
  if content.head? = some tick ∨ content.getLast? = some tick then ' ' :: content ++ [' ']
  else content

theorem padded_ne_nil (h : s ≠ []) : padded s ≠ [] := by
  unfold padded
  split
  · exact List.cons_ne_nil _ _
  · exact h

theorem head?_padded (s : List Char) : (padded s).head? ≠ some tick := by
  unfold padded
  split
  · exact fun h => absurd (Option.some.inj h) (by decide)
  · next h => exact fun he => h (Or.inl he)

theorem getLast?_padded (s : List Char) : (padded s).getLast? ≠ some tick := by
  unfold padded
  split
  · rw [List.getLast?_concat]
    exact fun h => absurd (Option.some.inj h) (by decide)
  · next h => exact fun he => h (Or.inr he)

theorem longestRun_padded (s : List Char) : longestRun tick (padded s) ≤ longestRun tick s := by
  unfold padded
  split
  · exact Chars.longestRun_between (by decide) s
  · exact Nat.le_refl _

/-- **The reader takes away the spaces that were put around content**, and none of its own. -/
theorem unpadded_padded (h : ¬(s.head? = some ' ' ∧ s.getLast? = some ' ')) :
    unpadded (padded s) = s := by
  unfold padded
  split
  · next hends =>
    have hmem : tick ∈ s := hends.elim List.mem_of_head? List.mem_of_getLast?
    have hlast : (' ' :: s ++ [' ']).getLast? = some ' ' := List.getLast?_concat
    have hother : (' ' :: s ++ [' ']).any (fun c => c ≠ ' ') = true := List.any_eq_true.2
      ⟨tick, List.mem_append_left _ (List.mem_cons_of_mem _ hmem), by decide⟩
    rw [unpadded, if_pos ⟨rfl, hlast, hother⟩, List.cons_append, List.tail_cons,
      List.dropLast_concat]
  · exact if_neg fun hall => h ⟨hall.1, hall.2.1⟩

theorem toList_codeSpan {content : String} (h : content ≠ "") :
    (codeSpan content).toList = List.replicate (tickCount content) tick ++
      (padded content.toList ++ List.replicate (tickCount content) tick) := by
  have hempty : content.isEmpty = false := by simpa using h
  unfold codeSpan padded
  rw [hempty, if_neg Bool.false_ne_true]
  by_cases hends : content.toList.head? = some tick ∨ content.toList.getLast? = some tick
  · have hgap : (decide (content.toList.head? = some tick) ||
        decide (content.toList.getLast? = some tick)) = true := by simpa using hends
    simp [Text.replicate, hgap, hends]
  · have hgap : (decide (content.toList.head? = some tick) ||
        decide (content.toList.getLast? = some tick)) = false := by simpa using hends
    simp [Text.replicate, hgap, hends]

/-- **A code span is read back**, whatever stands behind it but a backtick. -/
theorem readSpan?_codeSpan {content behind : String} (hne : content ≠ "")
    (hspaces : ¬(content.toList.head? = some ' ' ∧ content.toList.getLast? = some ' '))
    (hbehind : behind.toList.head? ≠ some tick) :
    readSpan? (codeSpan content ++ behind) = some (content, behind) := by
  have htext : (codeSpan content ++ behind).toList = List.replicate (tickCount content) tick ++
      (padded content.toList ++
        (List.replicate (tickCount content) tick ++ behind.toList)) := by
    rw [String.toList_append, toList_codeSpan hne, List.append_assoc, List.append_assoc]
  have hnil : content.toList ≠ [] := by simpa using hne
  rw [readSpan?_delimited (Nat.succ_pos _) hbehind
    (Nat.lt_succ_of_le (longestRun_padded content.toList)) (padded_ne_nil hnil) (head?_padded _)
    (getLast?_padded _) htext, unpadded_padded hspaces, String.ofList_toList,
    String.ofList_toList]

end Spans

/-! ### Code blocks -/

/-- Whether a line closes a block that `n` backticks opened: it has as many of them or more, with
at most three spaces in front and nothing but white space behind. -/
def closesFence (n : Nat) (line : String) : Bool :=
  let marked := line.toList.dropWhile fun c => c = ' '
  decide ((line.toList.takeWhile fun c => c = ' ').length ≤ 3) &&
    decide (n ≤ (marked.takeWhile fun c => c = tick).length) &&
    Chars.isBlank (marked.dropWhile fun c => c = tick)

/-- The lines in front of the first one that closes a block, and those behind it. -/
def fencedLines? (n : Nat) : List String → Option (List String × List String)
  | [] => none
  | line :: rest =>
    if closesFence n line then some ([], rest)
    else (fencedLines? n rest).map fun (inner, behind) => (line :: inner, behind)

/-- Reads the fenced code block that lines begin with: its text, and the lines behind it.  It is
opened by at least three backticks, and none are in the rest of their line. -/
def readBlock? : List String → Option (String × List String)
  | [] => none
  | opening :: rest =>
    let marks := opening.toList.takeWhile fun c => c = tick
    if marks.length < 3 ∨ tick ∈ opening.toList.dropWhile fun c => c = tick then none
    else (fencedLines? marks.length rest).map fun (inner, behind) =>
      ("\n".intercalate inner, behind)

section Blocks

variable {n : Nat} {line text : String}

/-- A line that closes a block has a run of backticks that is long enough. -/
theorem replicate_infix_of_closesFence (h : closesFence n line = true) :
    List.replicate n tick <:+: line.toList := by
  rw [closesFence, Bool.and_eq_true, Bool.and_eq_true, decide_eq_true_eq, decide_eq_true_eq] at h
  obtain ⟨⟨-, hlong⟩, -⟩ := h
  generalize hm : (line.toList.dropWhile fun c => c = ' ') = marked at hlong
  have hall : ∀ c ∈ marked.takeWhile fun c => c = tick, c = tick := by
    intro c hc
    simpa using List.mem_takeWhile_imp hc
  have hmarks : List.replicate n tick <+: marked.takeWhile fun c => c = tick := by
    rw [List.eq_replicate_of_mem hall, List.prefix_replicate_iff, List.length_replicate]
    exact ⟨hlong, rfl⟩
  have hfront : List.replicate n tick <+: marked := hmarks.trans (List.takeWhile_prefix _)
  have hback : marked <:+ line.toList := hm ▸ List.dropWhile_suffix _
  exact hfront.isInfix.trans hback.isInfix

theorem closesFence_fence (n : Nat) : closesFence n (Text.replicate n tick) = true := by
  have hspace : ∀ c ∈ (List.replicate n tick).head?, decide (c = ' ') = false := by
    intro c hc
    rw [List.eq_of_mem_replicate (List.mem_of_mem_head? hc)]
    decide
  have hfront : (List.replicate n tick).takeWhile (fun c => c = ' ') = [] :=
    Chars.takeWhile_append_of_boundary (s := []) (by simp) hspace
  have hrest : (List.replicate n tick).dropWhile (fun c => c = ' ') = List.replicate n tick :=
    Chars.dropWhile_append_of_boundary (s := []) (by simp) hspace
  have hmarks := takeWhile_ticks n (t := []) (by simp)
  have hbehind := dropWhile_ticks n (t := []) (by simp)
  rw [List.append_nil] at hmarks hbehind
  simp [closesFence, Text.replicate, hfront, hrest, hmarks, hbehind, Chars.isBlank]

theorem fencedLines?_append {inner : List String} (behind : List String)
    (hinner : ∀ line ∈ inner, closesFence n line = false) (h : closesFence n line = true) :
    fencedLines? n (inner ++ line :: behind) = some (inner, behind) := by
  induction inner with
  | nil => exact if_pos h
  | cons first rest ih =>
    have hfirst := hinner first List.mem_cons_self
    have hrest := ih fun other ho => hinner other (List.mem_cons_of_mem first ho)
    rw [List.cons_append, fencedLines?, hfirst, if_neg Bool.false_ne_true, hrest]
    rfl

/-- **No line of a text closes the block that is made of it.** -/
theorem closesFence_eq_false {whole : String} (hn : longestRun tick whole.toList < n)
    (htext : text.toList <:+: whole.toList) (hline : line ∈ Text.splitOn '\n' text) :
    closesFence n line = false := by
  rw [← Bool.not_eq_true]
  intro hcloses
  have hrun := replicate_infix_of_closesFence hcloses
  have hpiece : line.toList <:+: text.toList := by
    obtain ⟨piece, hp, rfl⟩ := List.mem_map.1 hline
    rw [String.toList_ofList]
    exact Chars.infix_of_mem_splitOn hp
  have hle := Chars.le_longestRun ((hrun.trans hpiece).trans htext)
  omega

/-- The line feeds at the end of a text are all that is dropped from it. -/
theorem exists_feeds (text : String) : ∃ feeds,
    text = Text.dropEndWhile (· = '\n') text ++ Text.replicate feeds '\n' ∧
      (Text.dropEndWhile (· = '\n') text).toList.getLast? ≠ some '\n' := by
  obtain ⟨feeds, htext, hlast⟩ := Chars.exists_dropEndWhile '\n' text.toList
  rw [← String.toList_ofList (l := Chars.dropEndWhile _ _)] at hlast
  refine ⟨feeds, ?_, hlast⟩
  rw [← String.toList_inj, String.toList_append, Text.dropEndWhile, Text.replicate,
    String.toList_ofList, String.toList_ofList]
  exact htext

theorem longestRun_lt_fenceLength (c : Char) (text : String) :
    longestRun c text.toList < fenceLength c text := by
  rw [fenceLength]
  omega

theorem three_le_fenceLength (c : Char) (text : String) : 3 ≤ fenceLength c text := by
  rw [fenceLength]
  omega

theorem splitOn_codeBlock (text : String) :
    Text.splitOn '\n' (codeBlock text) =
      Text.replicate (fenceLength tick text) tick ::
        (Text.splitOn '\n' (Text.dropEndWhile (· = '\n') text) ++
          [Text.replicate (fenceLength tick text) tick]) := by
  have hfence : ∀ n, Text.splitOn '\n' (Text.replicate n tick) = [Text.replicate n tick] := by
    intro n
    have hnone : '\n' ∉ List.replicate n tick := fun hm =>
      absurd (List.eq_of_mem_replicate hm) (by decide)
    rw [Text.splitOn, Text.replicate, String.toList_ofList, List.splitOn_eq_singleton hnone,
      List.map_singleton]
  rw [codeBlock, Text.splitOn_line, Text.splitOn_line, hfence, List.singleton_append,
    List.cons_append]

/-- A fence opens a block, which its first closing line ends. -/
theorem readBlock?_fence {n : Nat} (hn : 3 ≤ n) (lines : List String) :
    readBlock? (Text.replicate n tick :: lines) =
      (fencedLines? n lines).map fun (inner, behind) => ("\n".intercalate inner, behind) := by
  have hmarks := takeWhile_ticks n (t := []) (by simp)
  have hrest := dropWhile_ticks n (t := []) (by simp)
  rw [List.append_nil] at hmarks hrest
  rw [readBlock?, Text.replicate, String.toList_ofList, hmarks, hrest, List.length_replicate,
    if_neg (by simpa using hn)]

/-- **A code block is read back**, whatever lines stand behind it. -/
theorem readBlock?_codeBlock (text : String) (behind : List String) :
    readBlock? (Text.splitOn '\n' (codeBlock text) ++ behind) =
      some (Text.dropEndWhile (· = '\n') text, behind) := by
  have hpart : (Text.dropEndWhile (· = '\n') text).toList <:+: text.toList := by
    rw [Text.dropEndWhile, String.toList_ofList]
    exact (Chars.dropEndWhile_prefix _ _).isInfix
  have hinner : ∀ line ∈ Text.splitOn '\n' (Text.dropEndWhile (· = '\n') text),
      closesFence (fenceLength tick text) line = false := fun line hline =>
    closesFence_eq_false (longestRun_lt_fenceLength tick text) hpart hline
  rw [splitOn_codeBlock, List.cons_append, List.append_assoc, List.singleton_append,
    readBlock?_fence (three_le_fenceLength tick text),
    fencedLines?_append behind hinner (closesFence_fence _)]
  exact congrArg (fun body => some (body, behind)) (Text.intercalate_splitOn '\n' _)

end Blocks

end Markdown

/-! ### Spans and blocks -/

open Markdown (tick codeSpan readSpan? readBlock?)

theorem Render.value_of_code {s : Style} {r : Record} {text : String} (hkind : r.kind = .code)
    (htext : (r.get? "preformatted").bind Json.str? = some text) (depth : UInt64) :
    value s (.obj r.fields) depth = Markdown.codeBlock text := by
  rw [value, block]
  simp only [hkind, code, htext, Option.map_some, Option.getD_some]

/-- **Delimiters of code never conflict with its content.**  A code span whose content is not empty
and does not both begin and end with a space is read back, and what stands behind it is left, as
long as that is no backtick.  A block of code is rendered between two fences of at least three
backticks, more than any run in its text has, and is read back as its text without the line feeds
at the end. -/
theorem code_reads_back :
    (∀ content behind : String, content ≠ "" →
      ¬(content.toList.head? = some ' ' ∧ content.toList.getLast? = some ' ') →
      behind.toList.head? ≠ some tick →
      readSpan? (codeSpan content ++ behind) = some (content, behind)) ∧
    ∀ (s : Render.Style) (r : Record) (text : String) (depth : UInt64) (behind : List String),
      r.kind = .code → (r.get? "preformatted").bind Json.str? = some text →
      ∃ (n feeds : Nat) (body : String), 3 ≤ n ∧
        (∀ k, List.replicate k tick <:+: text.toList → k < n) ∧
        text = body ++ Text.replicate feeds '\n' ∧ body.toList.getLast? ≠ some '\n' ∧
        Render.value s (.obj r.fields) depth =
          Text.replicate n tick ++ "\n" ++ body ++ "\n" ++ Text.replicate n tick ∧
        readBlock? (Text.splitOn '\n' (Render.value s (.obj r.fields) depth) ++ behind) =
          some (body, behind) := by
  refine ⟨fun content behind hne hspaces hbehind =>
    Markdown.readSpan?_codeSpan hne hspaces hbehind, ?_⟩
  intro s r text depth behind hkind htext
  have hvalue := Render.value_of_code (s := s) hkind htext depth
  obtain ⟨feeds, hfeeds, hlast⟩ := Markdown.exists_feeds text
  refine ⟨Markdown.fenceLength tick text, feeds, _, Markdown.three_le_fenceLength tick text, ?_,
    hfeeds, hlast, ?_, ?_⟩
  · exact fun k hrun => Nat.lt_of_le_of_lt (Chars.le_longestRun hrun)
      (Markdown.longestRun_lt_fenceLength tick text)
  · rw [hvalue, Markdown.codeBlock]
  · rw [hvalue]
    exact Markdown.readBlock?_codeBlock text behind

/-- Content that is a code span in writing with a space behind it, and a text that holds a code
block with a fence of four. -/
theorem code_reads_back_nested :
    let content := "``a` `` "
    let text := "  ````\na\n````\n\n"
    let r : Record := ⟨[("type", .str "code"), ("preformatted", .str text)]⟩
    let block := Render.value (.make true 2) (.obj r.fields) 3
    (content ≠ "" ∧ ¬(content.toList.head? = some ' ' ∧ content.toList.getLast? = some ' ') ∧
      "b`".toList.head? ≠ some tick ∧ r.kind = .code ∧
      (r.get? "preformatted").bind Json.str? = some text) ∧
    codeSpan content = "``` ``a` ``  ```" ∧
    readSpan? (codeSpan content ++ "b`") = some (content, "b`") ∧
    ∃ n feeds body, 3 ≤ n ∧ (∀ k, List.replicate k tick <:+: text.toList → k < n) ∧
      text = body ++ Text.replicate feeds '\n' ∧ body.toList.getLast? ≠ some '\n' ∧
      block = Text.replicate n tick ++ "\n" ++ body ++ "\n" ++ Text.replicate n tick ∧
      readBlock? (Text.splitOn '\n' block ++ ["", "b"]) = some (body, ["", "b"]) := by
  intro content text r block
  obtain ⟨hspan, hblock⟩ := code_reads_back
  have hspaces : ¬(content.toList.head? = some ' ' ∧ content.toList.getLast? = some ' ') := by
    decide
  have hkind : r.kind = .code := by decide
  have htext : (r.get? "preformatted").bind Json.str? = some text := rfl
  exact ⟨⟨by decide, hspaces, by decide, hkind, htext⟩, by decide +kernel,
    hspan content "b`" (by decide) hspaces (by decide),
    hblock (.make true 2) r text 3 ["", "b"] hkind htext⟩

end Compendium
