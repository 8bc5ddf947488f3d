import Mathlib.Data.List.Basic
import Mathlib.Data.List.TakeWhile
import Compendium.Text.Basic

/-!
# Pieces of texts

What stands in the pieces of a text stands in the text, and what stands in pieces
put together stands in one of them or is the separator.  A piece behind the last
separator is an end of the text.
-/

namespace Compendium.Chars

open Compendium.Text (isSpace)

/-- What appending keeps and what holds of the separator and of each piece holds of the pieces
put together. -/
theorem intercalate_of_append {α : Type} {P : List α → Prop} (hnil : P [])
    (happend : ∀ s t, P s → P t → P (s ++ t)) {sep : List α} (hsep : P sep)
    {pieces : List (List α)} (h : ∀ piece ∈ pieces, P piece) : P (sep.intercalate pieces) := by
  induction pieces with
  | nil => exact hnil
  | cons piece rest ih =>
    have hpiece : P piece := h piece List.mem_cons_self
    cases rest with
    | nil =>
      rw [List.intercalate_singleton]
      exact hpiece
    | cons next rest =>
      have hrest := ih fun other ho => h other (List.mem_cons_of_mem piece ho)
      rw [List.intercalate_cons_cons]
      exact happend _ _ (happend _ _ hpiece hsep) hrest

theorem mem_intercalate {α : Type} {sep : List α} {c : α} {pieces : List (List α)}
    (h : c ∈ sep.intercalate pieces) : c ∈ sep ∨ ∃ piece ∈ pieces, c ∈ piece := by
  revert h
  apply intercalate_of_append (P := fun s => c ∈ s → c ∈ sep ∨ ∃ piece ∈ pieces, c ∈ piece)
  · intro h
    exact absurd h List.not_mem_nil
  · intro s t hs ht h
    exact (List.mem_append.1 h).elim hs ht
  · exact Or.inl
  · intro piece hp h
    exact Or.inr ⟨piece, hp, h⟩

theorem intercalate_cons_front {α : Type} (sep : List α) (c : α) (first : List α)
    (rest : List (List α)) :
    sep.intercalate ((c :: first) :: rest) = c :: sep.intercalate (first :: rest) := by
  cases rest with
  | nil => rfl
  | cons next rest => rfl

theorem infix_intercalate {α : Type} {sep piece : List α} {pieces : List (List α)}
    (h : piece ∈ pieces) : piece <:+: sep.intercalate pieces := by
  induction pieces with
  | nil => exact absurd h List.not_mem_nil
  | cons first rest ih =>
    cases rest with
    | nil =>
      obtain rfl := List.mem_singleton.1 h
      simp
    | cons next rest =>
      rw [List.intercalate_cons_cons]
      rcases List.mem_cons.1 h with rfl | h
      · exact ⟨[], _, by rw [List.nil_append, List.append_assoc]⟩
      · exact (ih h).trans (List.suffix_append _ _).isInfix

/-- A piece is a part of the text. -/
theorem infix_of_mem_splitOn {sep : Char} {s piece : List Char} (h : piece ∈ s.splitOn sep) :
    piece <:+: s := by
  have hs : [sep].intercalate (s.splitOn sep) = s := List.intercalate_splitOn sep
  rw [← hs]
  exact infix_intercalate h

/-- A part does not reach past a character that it does not hold. -/
theorem prefix_of_prefix_append_cons {d : Char} {part s t : List Char} (hd : d ∉ part)
    (h : part <+: s ++ d :: t) : part <+: s := by
  have hs : s ++ [d] <+: s ++ d :: t := ⟨t, by rw [List.append_assoc, List.singleton_append]⟩
  rcases List.prefix_or_prefix_of_prefix h hs with hpart | hlong
  · rcases List.prefix_concat_iff.1 hpart with rfl | hpart
    · exact absurd (List.mem_append_right s List.mem_cons_self) hd
    · exact hpart
  · exact absurd (hlong.subset (List.mem_append_right s List.mem_cons_self)) hd

theorem infix_append_cons {d : Char} {part s t : List Char} (hd : d ∉ part)
    (h : part <:+: s ++ d :: t) : part <:+: s ∨ part <:+: t := by
  induction s with
  | nil =>
    rcases List.infix_cons_iff.1 h with hfront | hrest
    · exact Or.inl (prefix_of_prefix_append_cons (s := []) hd hfront).isInfix
    · exact Or.inr hrest
  | cons c s ih =>
    rcases List.infix_cons_iff.1 h with hfront | hrest
    · exact Or.inl (prefix_of_prefix_append_cons hd hfront).isInfix
    · exact (ih hrest).imp_left List.infix_cons

/-- A part without the characters of the separator stands in one of the pieces. -/
theorem infix_of_infix_intercalate {c d : Char} {part : List Char} (hne : part ≠ [])
    (hc : c ∉ part) (hd : d ∉ part) {pieces : List (List Char)}
    (h : part <:+: [c, d].intercalate pieces) : ∃ piece ∈ pieces, part <:+: piece := by
  induction pieces with
  | nil => exact absurd (List.infix_nil.1 h) hne
  | cons piece rest ih =>
    cases rest with
    | nil => exact ⟨piece, List.mem_cons_self, by simpa using h⟩
    | cons next rest =>
      rw [List.intercalate_cons_cons, List.append_assoc, List.cons_append, List.singleton_append]
        at h
      rcases infix_append_cons hc h with hpiece | hrest
      · exact ⟨piece, List.mem_cons_self, hpiece⟩
      · have hrest : part <:+: [] ++ d :: [c, d].intercalate (next :: rest) := hrest
        rcases infix_append_cons hd hrest with hnil | hrest
        · exact absurd (List.infix_nil.1 hnil) hne
        · obtain ⟨other, ho, hother⟩ := ih hrest
          exact ⟨other, List.mem_cons_of_mem piece ho, hother⟩

/-- Two texts that can be put together in either order are made of the same characters. -/
theorem mem_of_append_comm {s t : List Char} (h : s ++ t = t ++ s) (ht : t ≠ []) {c : Char}
    (hc : c ∈ s) : c ∈ t := by
  induction hn : s.length using Nat.strongRecOn generalizing s with
  | _ n ih =>
    have hs : s <+: t ++ s := ⟨t, h⟩
    rcases List.prefix_or_prefix_of_prefix hs (List.prefix_append t s) with hst | ⟨rest, rfl⟩
    · exact hst.subset hc
    · rcases List.mem_append.1 hc with hc | hc
      · exact hc
      · have hlt : rest.length < n := by
          have hpos := List.length_pos_iff.2 ht
          rw [List.length_append] at hn
          omega
        rw [List.append_assoc, List.append_cancel_left_eq] at h
        exact ih _ hlt h hc rfl

/-- What stands in a piece stands in the text, and nothing is split at it. -/
theorem of_mem_splitOnP {p : Char → Bool} {s piece : List Char} (h : piece ∈ s.splitOnP p)
    {c : Char} (hc : c ∈ piece) : c ∈ s ∧ p c = false := by
  induction s generalizing piece with
  | nil =>
    rw [List.splitOnP_nil, List.mem_singleton] at h
    rw [h] at hc
    exact absurd hc List.not_mem_nil
  | cons d s ih =>
    rw [List.splitOnP_cons_eq_if_modifyHead] at h
    by_cases hd : p d = true
    · rw [if_pos hd] at h
      rcases List.mem_cons.1 h with rfl | h
      · exact absurd hc List.not_mem_nil
      · exact (ih h hc).imp_left (List.mem_cons_of_mem d)
    · rw [if_neg hd] at h
      obtain ⟨first, rest, hs⟩ := List.exists_cons_of_ne_nil (List.splitOnP_ne_nil p s)
      rw [hs, List.modifyHead_cons] at h
      rcases List.mem_cons.1 h with rfl | h
      · rcases List.mem_cons.1 hc with rfl | hc
        · exact ⟨List.mem_cons_self, Bool.eq_false_iff.2 hd⟩
        · exact (ih (hs ▸ List.mem_cons_self) hc).imp_left (List.mem_cons_of_mem d)
      · exact (ih (hs ▸ List.mem_cons_of_mem first h) hc).imp_left (List.mem_cons_of_mem d)

theorem mem_of_mem_splitOn {sep c : Char} {s piece : List Char} (hp : piece ∈ s.splitOn sep)
    (hc : c ∈ piece) : c ∈ s := by
  rw [List.splitOn_eq_splitOnP] at hp
  exact (of_mem_splitOnP hp hc).1

/-- A separator stands in no piece. -/
theorem sep_notMem_of_mem_splitOn {sep : Char} {s piece : List Char} (h : piece ∈ s.splitOn sep) :
    sep ∉ piece := by
  intro hm
  rw [List.splitOn_eq_splitOnP] at h
  exact absurd (beq_self_eq_true sep) (Bool.eq_false_iff.1 (of_mem_splitOnP h hm).2)

/-- Separators at the ends of a text make empty pieces and no others. -/
theorem filter_splitOn_padded (sep : Char) (s : List Char) (m n : Nat) :
    ((List.replicate m sep ++ s ++ List.replicate n sep).splitOn sep).filter (fun w => !w.isEmpty) =
      (s.splitOn sep).filter fun w => !w.isEmpty := by
  induction m with
  | zero =>
    rw [List.replicate_zero, List.nil_append]
    induction n with
    | zero => rw [List.replicate_zero, List.append_nil]
    | succ n ih =>
      rw [List.replicate_succ', ← List.append_assoc, List.splitOn_append_cons_self,
        List.filter_append, ih]
      simp
  | succ m ih =>
    rw [List.replicate_succ, List.cons_append, List.cons_append,
      List.splitOn_cons_eq_if_modifyHead, if_pos (beq_self_eq_true sep)]
    simpa using ih

/-! ### Words -/

theorem of_mem_words {s word : List Char} (h : word ∈ words s) :
    word ≠ [] ∧ ∀ c ∈ word, c ∈ s ∧ isSpace c = false := by
  obtain ⟨hpiece, hne⟩ := List.mem_filter.1 h
  exact ⟨by simpa using hne, fun _ => of_mem_splitOnP hpiece⟩

/-- **Words joined by spaces are read back.** -/
theorem words_intercalate {pieces : List (List Char)}
    (h : ∀ word ∈ pieces, word ≠ [] ∧ ∀ c ∈ word, isSpace c = false) :
    words ([' '].intercalate pieces) = pieces := by
  induction pieces with
  | nil => rfl
  | cons word rest ih =>
    obtain ⟨⟨hne, hword⟩, hrest⟩ := List.forall_mem_cons.1 h
    have hkept : (!word.isEmpty) = true := by simpa using hne
    cases rest with
    | nil =>
      rw [List.intercalate_singleton, words, List.splitOnP_eq_singleton hword,
        List.filter_singleton, hkept]
      rfl
    | cons next rest =>
      rw [List.intercalate_cons_cons, List.append_assoc, List.singleton_append, words,
        List.splitOnP_append_cons_of_forall_mem hword ' ' (by decide), List.filter_cons,
        if_pos hkept]
      exact congrArg (word :: ·) (ih hrest)

/-! ### Fronts -/

section Boundary

variable {p : Char → Bool} {s t : List Char}

/-- What a text begins with is taken up to the first character that is no part of it. -/
theorem takeWhile_append_of_boundary (hs : ∀ c ∈ s, p c = true)
    (ht : ∀ c ∈ t.head?, p c = false) : (s ++ t).takeWhile p = s := by
  rw [List.takeWhile_append_of_pos hs]
  cases t with
  | nil => rw [List.takeWhile_nil, List.append_nil]
  | cons c t => rw [List.takeWhile_cons_of_neg (by simp [ht c rfl]), List.append_nil]

theorem dropWhile_append_of_boundary (hs : ∀ c ∈ s, p c = true)
    (ht : ∀ c ∈ t.head?, p c = false) : (s ++ t).dropWhile p = t := by
  rw [List.dropWhile_append_of_pos hs]
  cases t with
  | nil => rfl
  | cons c t => exact List.dropWhile_cons_of_neg (by simp [ht c rfl])

end Boundary

/-! ### Ends -/

theorem dropEndWhile_prefix (p : Char → Bool) (s : List Char) : dropEndWhile p s <+: s := by
  rw [← List.reverse_suffix, dropEndWhile, List.reverse_reverse]
  exact List.dropWhile_suffix p

/-- Copies of a character at the end of a text are all that is dropped from it. -/
theorem exists_dropEndWhile (c : Char) (s : List Char) : ∃ n,
    s = dropEndWhile (· = c) s ++ List.replicate n c ∧
      (dropEndWhile (· = c) s).getLast? ≠ some c := by
  have hall : ∀ d ∈ s.reverse.takeWhile (· = c), d = c := by
    intro d hd
    simpa using List.mem_takeWhile_imp hd
  refine ⟨(s.reverse.takeWhile (· = c)).length, ?_, ?_⟩
  · rw [dropEndWhile, ← List.reverse_replicate, ← List.eq_replicate_of_mem hall,
      ← List.reverse_append, List.takeWhile_append_dropWhile, List.reverse_reverse]
  · rw [dropEndWhile, List.getLast?_reverse]
    intro hhead
    have hstop := List.head?_dropWhile_not (fun d => decide (d = c)) s.reverse
    rw [hhead] at hstop
    exact absurd hstop (by simp)

theorem dropEndWhile_append_replicate {c : Char} {s : List Char} (h : s.getLast? ≠ some c)
    (n : Nat) : dropEndWhile (· = c) (s ++ List.replicate n c) = s := by
  have hboundary : ∀ d ∈ s.reverse.head?, decide (d = c) = false := by
    intro d hd
    rw [List.head?_reverse] at hd
    refine decide_eq_false fun he => h ?_
    rw [← he]
    exact hd
  rw [dropEndWhile, List.reverse_append, List.reverse_replicate,
    dropWhile_append_of_boundary (fun d hd => decide_eq_true (List.eq_of_mem_replicate hd))
      hboundary, List.reverse_reverse]

end Compendium.Chars

namespace Compendium.Text

/-- The pieces put together again are the text. -/
theorem intercalate_splitOn (sep : Char) (s : String) :
    (String.ofList [sep]).intercalate (splitOn sep s) = s := by
  have hpieces : (splitOn sep s).map String.toList = s.toList.splitOn sep := by
    rw [splitOn, List.map_map]
    exact List.map_id'' (fun _ => String.toList_ofList) _
  rw [← String.toList_inj, String.toList_intercalate, hpieces, String.toList_ofList]
  exact List.intercalate_splitOn sep

/-- Texts with a separator between them have the pieces of both. -/
theorem splitOn_append (sep : Char) (s t : String) :
    splitOn sep (s ++ String.ofList [sep] ++ t) = splitOn sep s ++ splitOn sep t := by
  have hchars : (s ++ String.ofList [sep] ++ t).toList = s.toList ++ sep :: t.toList := by simp
  rw [splitOn, hchars, List.splitOn_append_cons_self, List.map_append]
  rfl

/-- Texts without separators, put together, are cut into the same texts again. -/
theorem splitOn_intercalate {sep : Char} {pieces : List String} (hne : pieces ≠ [])
    (h : ∀ piece ∈ pieces, sep ∉ piece.toList) :
    splitOn sep ((String.ofList [sep]).intercalate pieces) = pieces := by
  have hpieces : ∀ piece ∈ pieces.map String.toList, sep ∉ piece := List.forall_mem_map.2 h
  rw [splitOn, String.toList_intercalate, String.toList_ofList,
    List.splitOn_intercalate sep hpieces (by simpa using hne), List.map_map]
  exact List.map_id'' (fun _ => String.ofList_toList) _

theorem afterLast_suffix (sep : Char) (s : String) : (afterLast sep s).toList <:+ s.toList := by
  rw [← List.reverse_prefix, afterLast, String.toList_ofList, List.reverse_reverse]
  exact List.takeWhile_prefix _

/-- What ends in `back` is what stands in front of it and `back`. -/
theorem finishesWith_append (s back : String) : finishesWith back (s ++ back) = true := by
  rw [finishesWith, List.isSuffixOf_iff_suffix, String.toList_append]
  exact List.suffix_append s.toList back.toList

end Compendium.Text
