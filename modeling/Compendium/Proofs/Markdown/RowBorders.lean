import Mathlib.Data.List.Induction
import Compendium.Proofs.Markdown.TableRow

/-!
# The pipes around a row

A backslash escapes the character behind it, so an odd number of backslashes in a row escapes what
follows them and an even number does not (`escapesNext_false`).  The pipes that are not escaped are
open, and a row is cut at these and no others: it is cut into one piece more than there are open
pipes (`length_cutCells`), and what stands between two of them is sealed (`Cuts.sealed`).

Whether the piece behind the last pipe is dropped is decided by the one character in front of that
pipe, and not by the number of backslashes there.  So an open pipe behind two of them is taken for
an escaped one, and an empty cell is left behind it.

* `splitRow_drops_border_iff`: the cells of a row, and when the pipe at its end opens none.
-/

namespace Compendium.Markdown

/-! ### Open pipes -/

/-- The number of backslashes at the end of a text. -/
def finalBackslashes (s : List Char) : Nat :=
  (s.reverse.takeWhile (· = '\\')).length

/-- A pipe that is not escaped: an odd number of backslashes in front of a character escapes it,
an even number does not. -/
def IsOpenPipe (s : List Char) (i : Nat) : Prop :=
  s[i]? = some '|' ∧ finalBackslashes (s.take i) % 2 = 0

instance (s : List Char) : DecidablePred (IsOpenPipe s) := fun _ => instDecidableAnd

/-- The number of open pipes of a text. -/
def openPipes (s : List Char) : Nat :=
  (List.range s.length).countP fun i => IsOpenPipe s i

/-- Whether the character behind a text is escaped, where `escaped` tells it of the first one. -/
def escapesNext (escaped : Bool) (s : List Char) : Bool :=
  s.foldl (fun escaped c => !escaped && c = '\\') escaped

variable {s : List Char} {escaped : Bool}

theorem finalBackslashes_concat (s : List Char) (c : Char) :
    finalBackslashes (s ++ [c]) = if c = '\\' then finalBackslashes s + 1 else 0 := by
  rw [finalBackslashes, List.reverse_concat, List.takeWhile_cons]
  split_ifs <;> simp_all [finalBackslashes]

/-- **The scan and the number of backslashes agree** on what is escaped. -/
theorem escapesNext_false (s : List Char) :
    escapesNext false s = decide (finalBackslashes s % 2 = 1) := by
  induction s using List.reverseRecOn with
  | nil => rfl
  | append_singleton s c ih =>
    have hstep : escapesNext false (s ++ [c]) = (!escapesNext false s && decide (c = '\\')) := by
      rw [escapesNext, List.foldl_concat]
      rfl
    rw [hstep, ih, finalBackslashes_concat]
    by_cases hc : c = '\\'
    · rw [if_pos hc, decide_eq_true hc, Bool.and_true, ← decide_not, decide_eq_decide]
      omega
    · rw [if_neg hc, decide_eq_false hc, Bool.and_false]
      rfl

theorem escapesNext_eq_false_iff :
    escapesNext false s = false ↔ finalBackslashes s % 2 = 0 := by
  rw [escapesNext_false, decide_eq_false_iff_not]
  omega

theorem isOpenPipe_length_iff {c : Char} :
    IsOpenPipe (s ++ [c]) s.length ↔ escapesNext false s = false ∧ c = '|' := by
  rw [IsOpenPipe, List.getElem?_concat_length, List.take_left, escapesNext_eq_false_iff,
    Option.some.injEq, and_comm]

theorem openPipes_concat (s : List Char) (c : Char) :
    openPipes (s ++ [c]) =
      openPipes s + if escapesNext false s = false ∧ c = '|' then 1 else 0 := by
  have hfront : ∀ i ∈ List.range s.length, IsOpenPipe (s ++ [c]) i ↔ IsOpenPipe s i := by
    intro i hi
    have hlt : i < s.length := List.mem_range.1 hi
    rw [IsOpenPipe, IsOpenPipe, List.getElem?_append_left hlt, List.take_append_of_le_length hlt.le]
  rw [openPipes, List.length_append, List.length_singleton, List.range_succ, List.countP_append,
    List.countP_singleton, openPipes]
  congr 1
  · exact List.countP_congr fun i hi => by simpa using hfront i hi
  · simp only [isOpenPipe_length_iff, decide_eq_true_eq]

/-! ### Cutting at open pipes -/

/-- The pieces that a text is cut into, where `escaped` tells whether its first character is
escaped: an open pipe begins a new piece, and any other character stands at the front of the first
one. -/
inductive Cuts : Bool → List Char → List (List Char) → Prop
  | nil (escaped : Bool) : Cuts escaped [] [[]]
  | pipe {s : List Char} {cells : List (List Char)} :
      Cuts false s cells → Cuts false ('|' :: s) ([] :: cells)
  | char {escaped : Bool} {c : Char} {s first : List Char} {cells : List (List Char)} :
      ¬ (escaped = false ∧ c = '|') → Cuts (!escaped && c = '\\') s (first :: cells) →
      Cuts escaped (c :: s) ((c :: first) :: cells)

variable {cells : List (List Char)}

theorem cuts_cutCells (escaped : Bool) (s : List Char) : Cuts escaped s (cutCells escaped s) := by
  induction s generalizing escaped with
  | nil => exact .nil escaped
  | cons c s ih =>
    by_cases hopen : escaped = false ∧ c = '|'
    · obtain ⟨rfl, rfl⟩ := hopen
      rw [cutCells_pipe]
      exact .pipe (ih false)
    · obtain ⟨first, cells, hrest⟩ :=
        List.exists_cons_of_ne_nil (cutCells_ne_nil (!escaped && decide (c = '\\')) s)
      have hplain : escaped = true ∨ c ≠ '|' := by
        rwa [not_and_or, Bool.not_eq_false] at hopen
      rw [cutCells_cons hplain, hrest, List.modifyHead_cons]
      exact .char hopen (hrest ▸ ih _)

theorem Cuts.cutCells_eq (h : Cuts escaped s cells) : cutCells escaped s = cells := by
  induction h with
  | nil => rfl
  | pipe _ ih => rw [cutCells_pipe, ih]
  | char hopen _ ih =>
    rw [not_and_or, Bool.not_eq_false] at hopen
    rw [cutCells_cons hopen, ih, List.modifyHead_cons]

theorem Cuts.ne_nil (h : Cuts escaped s cells) : cells ≠ [] := by
  cases h <;> exact List.cons_ne_nil _ _

/-- **A text is cut like its two parts** if a pipe that is not escaped stands between them. -/
theorem Cuts.append_pipe (h : Cuts escaped s cells) (hopen : escapesNext escaped s = false)
    {t : List Char} {others : List (List Char)} (ht : Cuts false t others) :
    Cuts escaped (s ++ '|' :: t) (cells ++ others) := by
  induction h with
  | nil escaped =>
    obtain rfl : escaped = false := hopen
    exact .pipe ht
  | pipe _ ih => exact .pipe (ih hopen)
  | char hc _ ih => exact .char hc (ih hopen)

/-- A character that is no open pipe makes no new piece. -/
theorem Cuts.concat (h : Cuts escaped s cells) {c : Char}
    (hc : ¬ (escapesNext escaped s = false ∧ c = '|')) :
    ∃ longer, Cuts escaped (s ++ [c]) longer ∧ longer.length = cells.length := by
  induction h with
  | nil escaped => exact ⟨[[c]], .char hc (.nil _), rfl⟩
  | pipe _ ih =>
    obtain ⟨longer, hlonger, hlength⟩ := ih hc
    exact ⟨[] :: longer, .pipe hlonger, congrArg (· + 1) hlength⟩
  | char hd _ ih =>
    obtain ⟨longer, hlonger, hlength⟩ := ih hc
    obtain ⟨first, rest, rfl⟩ := List.exists_cons_of_ne_nil hlonger.ne_nil
    exact ⟨_, .char hd hlonger, hlength⟩

/-- **A text is cut into one piece more than it has open pipes.** -/
theorem length_cutCells (s : List Char) : (cutCells false s).length = openPipes s + 1 := by
  induction s using List.reverseRecOn with
  | nil => rfl
  | append_singleton s c ih =>
    rw [openPipes_concat]
    by_cases hopen : escapesNext false s = false ∧ c = '|'
    · obtain ⟨hs, rfl⟩ := hopen
      rw [((cuts_cutCells false s).append_pipe hs (.nil false)).cutCells_eq, List.length_append, ih,
        if_pos ⟨hs, rfl⟩]
      rfl
    · obtain ⟨longer, hlonger, hlength⟩ := (cuts_cutCells false s).concat hopen
      rw [hlonger.cutCells_eq, hlength, ih, if_neg hopen]

/-- The pieces with pipes between them are the text. -/
theorem Cuts.intercalate_eq (h : Cuts escaped s cells) : ['|'].intercalate cells = s := by
  induction h with
  | nil => rfl
  | pipe hs ih => rw [List.intercalate_cons_of_ne_nil hs.ne_nil, ih, List.nil_append]; rfl
  | char _ _ ih => rw [Chars.intercalate_cons_front, ih]

/-- **The pieces of a text that ends outside an escape are sealed.**  The backslash of an escape
that is under way at the start belongs to the first piece. -/
theorem Cuts.sealed (h : Cuts escaped s cells) (hend : escapesNext escaped s = false) :
    ∃ first others, cells = first :: others ∧
      Sealed (if escaped then '\\' :: first else first) ∧ ∀ p ∈ others, Sealed p := by
  induction h with
  | nil escaped =>
    obtain rfl : escaped = false := hend
    exact ⟨[], [], rfl, .nil, by simp⟩
  | pipe _ ih =>
    obtain ⟨first, others, rfl, hfirst, hothers⟩ := ih hend
    exact ⟨[], first :: others, rfl, .nil, List.forall_mem_cons.2 ⟨hfirst, hothers⟩⟩
  | @char escaped c s first cells hopen _ ih =>
    obtain ⟨_, _, heq, hfirst, hothers⟩ := ih hend
    obtain ⟨rfl, rfl⟩ := List.cons.inj heq
    refine ⟨c :: first, cells, rfl, ?_, hothers⟩
    cases escaped with
    | true => exact .escaped hfirst
    | false =>
      by_cases hc : c = '\\'
      · subst hc
        exact hfirst
      · rw [Bool.not_false, Bool.true_and, decide_eq_false hc] at hfirst
        exact .plain hc (fun hp => hopen ⟨rfl, hp⟩) hfirst

theorem sealed_of_mem_cutCells (h : escapesNext false s = false) :
    ∀ p ∈ cutCells false s, Sealed p := by
  obtain ⟨first, others, hcut, hfirst, hothers⟩ := (cuts_cutCells false s).sealed h
  rw [hcut]
  exact List.forall_mem_cons.2 ⟨hfirst, hothers⟩

/-! ### The ends of a row -/

theorem suffix_escape_between_iff {inner : List Char} :
    ['\\', '|'] <:+ '|' :: inner ++ ['|'] ↔ inner.getLast? = some '\\' := by
  rw [← List.isSuffixOf_iff_suffix]
  constructor
  · intro hsuffix
    by_contra hend
    rw [isSuffixOf_escape_between hend] at hsuffix
    cases hsuffix
  · intro hend
    obtain ⟨front, rfl⟩ := List.getLast?_eq_some_iff.1 hend
    rw [List.isSuffixOf_iff_suffix]
    exact ⟨'|' :: front, by simp⟩

theorem cutCells_between {inner : List Char} (h : escapesNext false inner = false) :
    cutCells false ('|' :: inner ++ ['|']) = [] :: (cutCells false inner ++ [[]]) := by
  exact (Cuts.pipe ((cuts_cutCells false inner).append_pipe h (.nil false))).cutCells_eq

/-- A backslash in front of the last pipe, which another one escapes, keeps the empty piece
behind it. -/
theorem splitRow_between_of_backslash {inner : List Char} (hend : inner.getLast? = some '\\')
    (h : escapesNext false inner = false) :
    splitRow (String.ofList ('|' :: inner ++ ['|'])) =
      (cutCells false inner).map (fun cell => String.ofList (Chars.trim cell)) ++ [""] := by
  have hescape : List.isSuffixOf ['\\', '|'] ('|' :: inner ++ ['|']) = true :=
    List.isSuffixOf_iff_suffix.2 (suffix_escape_between_iff.2 hend)
  have hhead : ('|' :: inner ++ ['|']).head? = some '|' := rfl
  rw [splitRow, String.toList_ofList, (tight_between inner).trim_eq]
  simp only [hescape, hhead, if_true, Bool.not_true, Bool.and_false, Bool.false_eq_true, if_false,
    cutCells_between h, List.drop_succ_cons, List.drop_zero, List.map_append]
  rfl

/-- Pieces that each have a pipe behind them have pipes between them, and one at the end. -/
theorem join_pieces : ∀ {pieces : List String}, pieces ≠ [] →
    String.join (pieces.map (· ++ "|")) = "|".intercalate pieces ++ "|"
  | [], h => absurd rfl h
  | [piece], _ => by simp
  | piece :: next :: rest, _ => by
    rw [List.map_cons, String.join_cons, join_pieces (List.cons_ne_nil next rest),
      String.intercalate_cons_cons, String.append_assoc, String.append_assoc, String.append_assoc]

/-- A row that begins with a pipe and ends in an open one is that pipe alone, or it has both. -/
theorem row_cases {row : List Char} (hfirst : row.head? = some '|')
    (hlast : IsOpenPipe row (row.length - 1)) :
    row = ['|'] ∨ ∃ inner, row = '|' :: inner ++ ['|'] ∧ escapesNext false inner = false := by
  have hend : row.getLast? = some '|' := List.getLast?_eq_getElem?.trans hlast.1
  obtain ⟨front, rfl⟩ := List.getLast?_eq_some_iff.1 hend
  rw [List.length_append, List.length_singleton, Nat.add_sub_cancel, isOpenPipe_length_iff] at hlast
  cases front with
  | nil => exact Or.inl rfl
  | cons c inner =>
    obtain rfl : c = '|' := Option.some.inj hfirst
    exact Or.inr ⟨inner, rfl, hlast.1⟩

/-- **Which pipe at the end of a row opens no cell.**  Let a row begin with a pipe and end in an
open one.  Behind the first pipe stand pieces with an open pipe behind each of them; they are
sealed, and there is one fewer than open pipes.  The cells of the row are these pieces, trimmed,
and no others if no backslash stands in front of the last pipe.  If one does, which another one
escapes, the last pipe separates two cells, and the one behind it is empty. -/
theorem splitRow_drops_border_iff (row : String) (hfirst : row.toList.head? = some '|')
    (hlast : IsOpenPipe row.toList (row.toList.length - 1)) :
    ((splitRow row).length + 1 = openPipes row.toList ↔ ¬ ['\\', '|'] <:+ row.toList) ∧
    ∃ pieces : List String, (∀ p ∈ pieces, Sealed p.toList) ∧
      row = "|" ++ String.join (pieces.map (· ++ "|")) ∧
      pieces.length + 1 = openPipes row.toList ∧
      splitRow row = pieces.map Text.trim ++ if ['\\', '|'] <:+ row.toList then [""] else [] := by
  have hcells : ∃ pieces : List String, (∀ p ∈ pieces, Sealed p.toList) ∧
      row = "|" ++ String.join (pieces.map (· ++ "|")) ∧
      pieces.length + 1 = openPipes row.toList ∧
      splitRow row = pieces.map Text.trim ++ if ['\\', '|'] <:+ row.toList then [""] else [] := by
    rcases row_cases hfirst hlast with hrow | ⟨inner, hrow, hinner⟩
    · obtain rfl : row = "|" := String.toList_injective hrow
      exact ⟨[], by simp, rfl, by decide, by decide⟩
    · refine ⟨(cutCells false inner).map String.ofList, ?_, ?_, ?_, ?_⟩
      · simpa using sealed_of_mem_cutCells hinner
      · have hne : (cutCells false inner).map String.ofList ≠ [] := by
          simpa using cutCells_ne_nil false inner
        rw [join_pieces hne, ← String.toList_inj, hrow]
        simp [Function.comp_def, (cuts_cutCells false inner).intercalate_eq]
      · have hlength := length_cutCells row.toList
        rw [hrow, cutCells_between hinner] at hlength
        rw [hrow, List.length_map]
        simpa using hlength
      · have hmap : ((cutCells false inner).map String.ofList).map Text.trim =
            (cutCells false inner).map fun cell => String.ofList (Chars.trim cell) := by
          simp [Text.trim]
        have htext : row = String.ofList ('|' :: inner ++ ['|']) := by
          rw [← hrow, String.ofList_toList]
        have hsuffix : ['\\', '|'] <:+ row.toList ↔ inner.getLast? = some '\\' := by
          rw [hrow, suffix_escape_between_iff]
        by_cases hend : inner.getLast? = some '\\'
        · rw [if_pos (hsuffix.2 hend), hmap, htext]
          exact splitRow_between_of_backslash hend hinner
        · rw [if_neg (hsuffix.not.2 hend), hmap, htext, splitRow_between hend,
            cutCells_between hinner, List.tail_cons, List.dropLast_concat, List.append_nil]
  refine ⟨?_, hcells⟩
  obtain ⟨pieces, -, -, hcount, hsplit⟩ := hcells
  rw [hsplit, ← hcount]
  split_ifs with hescape <;> simp [hescape]

/-- A row with an escaped pipe, and an open pipe behind an even number of backslashes. -/
theorem splitRow_drops_border_iff_padded :
    let row := "| a\\|b | c\\\\|\\\\ |"
    row.toList.head? = some '|' ∧ IsOpenPipe row.toList (row.toList.length - 1) ∧
      ¬ ['\\', '|'] <:+ row.toList ∧ openPipes row.toList = 4 ∧ (splitRow row).length = 3 := by
  intro row
  have hfirst : row.toList.head? = some '|' := by decide
  have hlast : IsOpenPipe row.toList (row.toList.length - 1) := by decide
  have hescape : ¬ ['\\', '|'] <:+ row.toList := by decide
  have hcount : openPipes row.toList = 4 := by decide
  have hsplit := (splitRow_drops_border_iff row hfirst hlast).1.2 hescape
  rw [hcount] at hsplit
  exact ⟨hfirst, hlast, hescape, hcount, Nat.succ.inj hsplit⟩

/-- **A row without a space in front of its last pipe**, where the last cell ends in a backslash
that is escaped: the row has two open pipes and is read as two cells, of which the second is empty.
The same row with a space there has one cell. -/
theorem compact_row_has_cell_behind_border :
    let row := "|a\\\\|"
    row.toList.head? = some '|' ∧ IsOpenPipe row.toList (row.toList.length - 1) ∧
      openPipes row.toList = 2 ∧ splitRow row = ["a\\\\", ""] ∧
      (splitRow row).length + 1 ≠ openPipes row.toList ∧
      splitRow "|a\\\\ |" = ["a\\\\"] := by
  decide

end Compendium.Markdown
