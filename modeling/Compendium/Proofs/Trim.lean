import Mathlib.Data.List.TakeWhile
import Compendium.Proofs.Chars

/-!
# Trimmed texts

A text is tight if no white space stands at its ends.  Trimming makes texts tight
(`tight_trim`) and changes no text that is (`Tight.trim_eq`); texts put together from
tight ones are tight again.
-/

namespace Compendium.Chars

open Compendium.Text (isSpace)

/-- Neither end is white space. -/
structure Tight (s : List Char) : Prop where
  front : ∀ c ∈ s.head?, isSpace c = false
  back : ∀ c ∈ s.getLast?, isSpace c = false

variable {s t : List Char}

theorem tight_of_ends {c d : Char} (hhead : s.head? = some c) (hlast : s.getLast? = some d)
    (hc : isSpace c = false) (hd : isSpace d = false) : Tight s where
  front := by
    intro e he
    obtain rfl : c = e := Option.some.inj (hhead.symm.trans he)
    exact hc
  back := by
    intro e he
    obtain rfl : d = e := Option.some.inj (hlast.symm.trans he)
    exact hd

theorem trimEnd_eq_reverse (s : List Char) : trimEnd s = (trimStart s.reverse).reverse :=
  rfl

theorem isBlank_reverse (s : List Char) : isBlank s.reverse = isBlank s :=
  List.all_reverse

/-! ### What trimming leaves -/

theorem trimStart_eq_self (h : ∀ c ∈ s.head?, isSpace c = false) : trimStart s = s := by
  cases s with
  | nil => rfl
  | cons c rest =>
    have hc : isSpace c = false := h c rfl
    exact List.dropWhile_cons_of_neg (by rw [hc]; decide)

theorem trimEnd_eq_self (h : ∀ c ∈ s.getLast?, isSpace c = false) : trimEnd s = s := by
  have hr : trimStart s.reverse = s.reverse := by
    refine trimStart_eq_self fun c hc => h c ?_
    rwa [List.head?_reverse] at hc
  rw [trimEnd_eq_reverse, hr, List.reverse_reverse]

theorem Tight.trim_eq (h : Tight s) : trim s = s := by
  rw [trim, trimStart_eq_self h.front, trimEnd_eq_self h.back]

theorem front_trimStart (s : List Char) : ∀ c ∈ (trimStart s).head?, isSpace c = false := by
  intro c hc
  have hn := List.head?_dropWhile_not isSpace s
  change (List.dropWhile isSpace s).head? = some c at hc
  rw [hc] at hn
  exact hn

/-- **Trimming leaves no white space at the ends.** -/
theorem tight_trim (s : List Char) : Tight (trim s) where
  front := by
    intro c hc
    refine front_trimStart s c ?_
    -- What is left starts where the text without its front starts.
    obtain ⟨dropped, hd⟩ : trim s <+: trimStart s := dropEndWhile_prefix isSpace (trimStart s)
    rw [← hd, List.head?_append, Option.mem_def.1 hc]
    rfl
  back := by
    intro c hc
    refine front_trimStart (trimStart s).reverse c ?_
    rwa [← List.getLast?_reverse]

theorem mem_of_mem_trim {c : Char} (h : c ∈ trim s) : c ∈ s := by
  have hstart : trim s <+: trimStart s := dropEndWhile_prefix isSpace (trimStart s)
  exact (List.dropWhile_suffix isSpace).subset (hstart.subset h)

theorem trimStart_eq_nil_iff : trimStart s = [] ↔ isBlank s = true := by
  rw [trimStart, List.dropWhile_eq_nil_iff, isBlank, List.all_eq_true]

theorem isBlank_trimStart (s : List Char) : isBlank (trimStart s) = isBlank s := by
  induction s with
  | nil => rfl
  | cons c rest ih =>
    rw [trimStart, List.dropWhile_cons]
    split
    · next hc => simpa [isBlank, trimStart, hc] using ih
    · rfl

theorem trim_eq_nil_iff : trim s = [] ↔ isBlank s = true := by
  rw [trim, trimEnd_eq_reverse, List.reverse_eq_nil_iff, trimStart_eq_nil_iff, isBlank_reverse,
    isBlank_trimStart]

theorem Tight.isBlank_eq_false (h : Tight s) (hne : s ≠ []) : isBlank s = false := by
  rw [← Bool.not_eq_true, ← trim_eq_nil_iff, h.trim_eq]
  exact hne

/-! ### White space at the ends -/

theorem trimStart_append_of_isBlank (h : isBlank s = true) : trimStart (s ++ t) = trimStart t := by
  rw [trimStart, List.dropWhile_append]
  exact if_pos (List.isEmpty_iff.2 (trimStart_eq_nil_iff.2 h))

theorem trimStart_append (h : isBlank s = false) : trimStart (s ++ t) = trimStart s ++ t := by
  rw [trimStart, List.dropWhile_append]
  refine if_neg ?_
  rw [List.isEmpty_iff]
  intro hnil
  exact absurd (h.symm.trans (trimStart_eq_nil_iff.1 hnil)) (by decide)

theorem trimEnd_append_of_isBlank (h : isBlank t = true) : trimEnd (s ++ t) = trimEnd s := by
  rw [trimEnd_eq_reverse, trimEnd_eq_reverse, List.reverse_append, trimStart_append_of_isBlank]
  rwa [isBlank_reverse]

theorem trimEnd_append (h : isBlank t = false) : trimEnd (s ++ t) = s ++ trimEnd t := by
  rw [trimEnd_eq_reverse, trimEnd_eq_reverse, List.reverse_append, trimStart_append]
  · simp
  · rwa [isBlank_reverse]

/-- **White space around a tight text is all that trimming takes away.** -/
theorem Tight.trim_padded (h : Tight s) {front back : List Char} (hfront : isBlank front = true)
    (hback : isBlank back = true) : trim (front ++ s ++ back) = s := by
  rw [List.append_assoc, trim, trimStart_append_of_isBlank hfront]
  by_cases hs : s = []
  · subst hs
    rw [List.nil_append, trimStart_eq_nil_iff.2 hback]
    rfl
  · rw [trimStart_append (h.isBlank_eq_false hs), trimStart_eq_self h.front,
      trimEnd_append_of_isBlank hback, trimEnd_eq_self h.back]

theorem trim_append_left (h : isBlank s = true) : trim (s ++ t) = trim t := by
  rw [trim, trim, trimStart_append_of_isBlank h]

theorem trim_append_right (h : isBlank t = true) : trim (s ++ t) = trim s := by
  cases hs : isBlank s with
  | true => rw [trim_append_left hs, trim_eq_nil_iff.2 h, trim_eq_nil_iff.2 hs]
  | false => rw [trim, trim, trimStart_append hs, trimEnd_append_of_isBlank h]

theorem exists_front (s : List Char) : ∃ front, isBlank front = true ∧ front ++ trimStart s = s :=
  ⟨s.takeWhile isSpace, List.all_eq_true.2 fun _ hc => List.mem_takeWhile_imp hc,
    List.takeWhile_append_dropWhile⟩

theorem exists_back (s : List Char) : ∃ back, isBlank back = true ∧ trimEnd s ++ back = s := by
  obtain ⟨front, hfront, hs⟩ := exists_front s.reverse
  refine ⟨front.reverse, by rwa [isBlank_reverse], ?_⟩
  rw [trimEnd_eq_reverse, ← List.reverse_append, hs, List.reverse_reverse]

/-- Trimming takes away white space and nothing else. -/
theorem exists_padded (s : List Char) : ∃ front back,
    isBlank front = true ∧ isBlank back = true ∧ front ++ trim s ++ back = s := by
  obtain ⟨front, hfront, hs⟩ := exists_front s
  obtain ⟨back, hback, hend⟩ := exists_back (trimStart s)
  exact ⟨front, back, hfront, hback, by rw [trim, List.append_assoc, hend, hs]⟩

theorem Tight.trim_spaced (h : Tight s) : trim (' ' :: s ++ [' ']) = s := by
  have hspace : isBlank [' '] = true := by decide
  exact h.trim_padded hspace hspace

/-! ### Pieces -/

/-- White space around a text stands in the outer pieces of it. -/
theorem map_trim_splitOn_append_right {sep : Char} (hsep : sep ∉ t) (ht : isBlank t = true) :
    ((s ++ t).splitOn sep).map trim = (s.splitOn sep).map trim := by
  induction hn : s.length using Nat.strong_induction_on generalizing s with
  | _ n ih =>
    by_cases hs : sep ∈ s
    · obtain ⟨first, rest, rfl, -⟩ := List.eq_append_cons_of_mem hs
      have hlt : rest.length < n := by
        rw [← hn, List.length_append, List.length_cons]
        omega
      rw [List.append_assoc, List.cons_append, List.splitOn_append_cons_self,
        List.splitOn_append_cons_self, List.map_append, List.map_append, ih _ hlt rfl]
    · have hboth : sep ∉ s ++ t := fun h => (List.mem_append.1 h).elim hs hsep
      rw [List.splitOn_eq_singleton hboth, List.splitOn_eq_singleton hs, List.map_singleton,
        List.map_singleton, trim_append_right ht]

theorem map_trim_splitOn_append_left {sep : Char} (hsep : sep ∉ s) (hs : isBlank s = true) :
    ((s ++ t).splitOn sep).map trim = (t.splitOn sep).map trim := by
  have hfree : ∀ first : List Char, sep ∉ first → sep ∉ s ++ first := fun first hf hm =>
    (List.mem_append.1 hm).elim hsep hf
  by_cases ht : sep ∈ t
  · obtain ⟨first, rest, rfl, hfirst⟩ := List.eq_append_cons_of_mem ht
    rw [← List.append_assoc, List.splitOn_append_cons_self, List.splitOn_append_cons_self,
      List.splitOn_eq_singleton (hfree first hfirst), List.splitOn_eq_singleton hfirst,
      List.map_append, List.map_append, List.map_singleton, List.map_singleton,
      trim_append_left hs]
  · rw [List.splitOn_eq_singleton (hfree t ht), List.splitOn_eq_singleton ht, List.map_singleton,
      List.map_singleton, trim_append_left hs]

/-- **Trimming a text changes no trimmed piece of it.** -/
theorem map_trim_splitOn_trim {sep : Char} (hsep : isSpace sep = false) (s : List Char) :
    ((trim s).splitOn sep).map trim = (s.splitOn sep).map trim := by
  have hfree : ∀ t : List Char, isBlank t = true → sep ∉ t := by
    intro t ht hm
    have hspace : isSpace sep = true := List.all_eq_true.1 ht sep hm
    exact absurd (hsep.symm.trans hspace) (by decide)
  obtain ⟨front, back, hfront, hback, hs⟩ := exists_padded s
  calc ((trim s).splitOn sep).map trim
      = ((front ++ trim s).splitOn sep).map trim :=
        (map_trim_splitOn_append_left (hfree front hfront) hfront).symm
    _ = ((front ++ trim s ++ back).splitOn sep).map trim :=
        (map_trim_splitOn_append_right (hfree back hback) hback).symm
    _ = (s.splitOn sep).map trim := by rw [hs]

/-! ### Putting texts together -/

theorem tight_nil : Tight [] where
  front := by simp
  back := by simp

theorem Tight.append (hs : Tight s) (ht : Tight t) : Tight (s ++ t) where
  front := by
    intro c hc
    rw [List.head?_append] at hc
    cases hh : s.head? with
    | none => exact ht.front c (by rwa [hh, Option.none_or] at hc)
    | some d => exact hs.front c (by rwa [hh, Option.some_or, ← hh] at hc)
  back := by
    intro c hc
    rw [List.getLast?_append] at hc
    cases hh : t.getLast? with
    | none => exact hs.back c (by rwa [hh, Option.none_or] at hc)
    | some d => exact ht.back c (by rwa [hh, Option.some_or, ← hh] at hc)

theorem tight_intercalate {sep : List Char} (hsep : Tight sep) {pieces : List (List Char)}
    (h : ∀ piece ∈ pieces, Tight piece) : Tight (sep.intercalate pieces) :=
  intercalate_of_append tight_nil (fun _ _ => Tight.append) hsep h

end Compendium.Chars

namespace Compendium.Text

theorem isEmpty_trim (t : String) : (trim t).isEmpty = isBlank t := by
  rw [Bool.eq_iff_iff, String.isEmpty_iff, isBlank, ← Chars.trim_eq_nil_iff, trim,
    ← String.toList_inj, String.toList_ofList]
  rfl

theorem nonEmpty?_trim_eq_some_iff {t u : String} :
    nonEmpty? (trim t) = some u ↔ isBlank t = false ∧ u = trim t := by
  rw [nonEmpty?, isEmpty_trim]
  cases isBlank t <;> simp [eq_comm]

end Compendium.Text
