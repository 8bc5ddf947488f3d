import Mathlib.Data.List.Chain
import Compendium.Proofs.Case
import Compendium.Proofs.Slug

/-!
# Slugs of slugs

No hyphen stands at the ends of a slug and no two stand side by side (`spaced_slugChars`).  Words
joined by hyphens have no two side by side, cutting a text to the greatest length of a slug brings
none together, and trimming takes away the one that may then stand at the end.  Such a text is what
its words make when they are joined again (`Spaced.intercalate_words`).  So a text of this form, of
slug characters in lower case and not too long, is its own slug (`slugChars_eq_self`), and every
slug is one, because what stands in a lower-case image is in lower case.

* `slug_normal`: the form of slugs, slugs of slugs, and characters that leave no trace.
-/

namespace Compendium.Slug

open Compendium.Text (IsLower isAlphanumeric isSpace lowerChar)

/-! ### Hyphens -/

/-- Of two neighbours, one is no hyphen. -/
def Apart (c d : Char) : Prop :=
  c ≠ '-' ∨ d ≠ '-'

/-- A text without hyphens at its ends and without two of them side by side. -/
structure Spaced (s : List Char) : Prop where
  front : s.head? ≠ some '-'
  back : s.getLast? ≠ some '-'
  apart : s.IsChain Apart

variable {s t word : List Char}

theorem apart_iff_not_infix : s.IsChain Apart ↔ ¬ ['-', '-'] <:+: s := by
  rw [List.isChain_iff_forall_rel_of_append_cons_cons]
  constructor
  · rintro h ⟨front, back, rfl⟩
    have hapart : Apart '-' '-' := h (List.append_assoc front ['-', '-'] back)
    exact hapart.elim (absurd rfl) (absurd rfl)
  · rintro h c d front back rfl
    rw [Apart, ← not_and_or]
    rintro ⟨rfl, rfl⟩
    exact h ⟨front, back, List.append_assoc front ['-', '-'] back⟩

theorem apart_hyphen_cons (h : '-' ∉ word) : ('-' :: word).IsChain Apart := by
  induction word with
  | nil => exact .singleton _
  | cons c word ih =>
    rw [List.mem_cons, not_or] at h
    obtain ⟨-, hword⟩ := List.isChain_cons.1 (ih h.2)
    refine List.isChain_cons_cons.2 ⟨Or.inr (Ne.symm h.1), ?_⟩
    exact List.isChain_cons.2 ⟨fun _ _ => Or.inl (Ne.symm h.1), hword⟩

/-- **Words joined by hyphens have no two of them side by side**, also with one in front. -/
theorem apart_intercalate {words : List (List Char)} (h : ∀ w ∈ words, w ≠ [] ∧ '-' ∉ w) :
    ('-' :: ['-'].intercalate words).IsChain Apart := by
  induction words with
  | nil => exact .singleton _
  | cons word rest ih =>
    obtain ⟨⟨hne, hword⟩, hrest⟩ := List.forall_mem_cons.1 h
    cases rest with
    | nil =>
      rw [List.intercalate_singleton]
      exact apart_hyphen_cons hword
    | cons next rest =>
      rw [List.intercalate_cons_cons, List.append_assoc, List.singleton_append, ← List.cons_append]
      refine List.isChain_append.2 ⟨apart_hyphen_cons hword, ih hrest, fun c hc _ _ => Or.inl ?_⟩
      -- The word is not empty, so the hyphen in front of it is not the last character.
      rw [List.getLast?_cons_of_ne_nil hne] at hc
      rintro rfl
      exact hword (List.mem_of_getLast? hc)

/-- **A spaced text is its words, joined by hyphens.** -/
theorem Spaced.intercalate_words (h : Spaced s) :
    ['-'].intercalate ((s.splitOn '-').filter fun w => !w.isEmpty) = s := by
  induction hn : s.length using Nat.strongRecOn generalizing s with
  | _ n ih =>
    by_cases hm : '-' ∈ s
    · obtain ⟨word, rest, rfl, hword⟩ := List.eq_append_cons_of_mem hm
      have hne : word ≠ [] := by
        rintro rfl
        exact h.front rfl
      have hrest : rest ≠ [] := by
        rintro rfl
        exact h.back List.getLast?_concat
      have hspaced : Spaced rest := by
        obtain ⟨-, hchain, -⟩ := List.isChain_append.1 h.apart
        obtain ⟨hhead, hchain⟩ := List.isChain_cons.1 hchain
        refine ⟨fun hf => (hhead '-' hf).elim (absurd rfl) (absurd rfl),
          fun hb => h.back ?_, hchain⟩
        rw [List.getLast?_append, List.getLast?_cons_of_ne_nil hrest, hb, Option.some_or]
      have hlt : rest.length < n := by
        rw [← hn, List.length_append, List.length_cons]
        omega
      have hjoin := ih rest.length hlt hspaced rfl
      have hwords : (rest.splitOn '-').filter (fun w => !w.isEmpty) ≠ [] := by
        intro hnil
        rw [hnil] at hjoin
        exact hrest hjoin.symm
      have hkept : (!word.isEmpty) = true := by simpa using hne
      rw [List.splitOn_append_cons_self, List.splitOn_eq_singleton hword, List.singleton_append,
        List.filter_cons, if_pos hkept, List.intercalate_cons_of_ne_nil hwords, hjoin,
        List.append_assoc, List.singleton_append]
    · rw [List.splitOn_eq_singleton hm]
      cases s with
      | nil => rfl
      | cons c s => exact List.intercalate_singleton

/-! ### The form of slugs -/

theorem spaced_trimHyphens (h : s.IsChain Apart) : Spaced (trimHyphens s) := by
  obtain ⟨n, hs, hback⟩ := Chars.exists_dropEndWhile '-' (s.dropWhile (· = '-'))
  have hprefix : trimHyphens s <+: s.dropWhile (· = '-') := Chars.dropEndWhile_prefix _ _
  refine ⟨?_, hback, List.IsChain.infix h (infix_trimHyphens s)⟩
  intro hfront
  -- What is left starts where the text without its front starts.
  obtain ⟨dropped, hd⟩ := hprefix
  have hstop := List.head?_dropWhile_not (fun c => decide (c = '-')) s
  rw [← hd, List.head?_append, hfront] at hstop
  exact absurd hstop (by simp)

theorem Spaced.trimHyphens_eq (h : Spaced s) : trimHyphens s = s := by
  have hfront : s.dropWhile (· = '-') = s := by
    cases s with
    | nil => rfl
    | cons c s =>
      refine List.dropWhile_cons_of_neg ?_
      have hc := h.front
      simpa using hc
  have hback := Chars.dropEndWhile_append_replicate h.back 0
  rw [List.replicate_zero, List.append_nil] at hback
  rw [trimHyphens, hfront, hback]

theorem spaced_slugChars (name : List Char) : Spaced (slugChars name) := by
  have hwords : ∀ w ∈ slugWords name, w ≠ [] ∧ '-' ∉ w := by
    intro w hw
    obtain ⟨hpiece, hne⟩ := List.mem_filter.1 hw
    exact ⟨by simpa using hne, Chars.sep_notMem_of_mem_splitOn hpiece⟩
  exact spaced_trimHyphens ((List.isChain_cons.1 (apart_intercalate hwords)).2.take maxLength)

theorem length_slugChars_le (name : List Char) : (slugChars name).length ≤ maxLength :=
  (infix_trimHyphens _).length_le.trans (List.length_take_le _ _)

theorem isLower_of_mem_slugChars {name : List Char} {c : Char} (h : c ∈ slugChars name) :
    IsLower c := by
  rcases mem_slugChars h with rfl | ⟨hc, -⟩
  · decide
  · obtain ⟨d, -, hd⟩ := List.mem_flatMap.1 hc
    exact (Text.mem_lowerChar hd).1

/-! ### Slugs of slugs -/

theorem slugChar?_eq_self {c : Char} (h : IsSlugChar c) : slugChar? c = some c := by
  rcases h with halnum | rfl
  · exact if_pos halnum
  · rfl

/-- **A text in the form of a slug is its own slug.** -/
theorem slugChars_eq_self (hspaced : Spaced s) (hlength : s.length ≤ maxLength)
    (h : ∀ c ∈ s, IsLower c ∧ IsSlugChar c) : slugChars s = s := by
  have hlower : s.flatMap lowerChar = s := Text.flatMap_lowerChar fun c hc => (h c hc).1
  have hkept : s.filterMap slugChar? = s := by
    rw [List.filterMap_congr fun c hc => slugChar?_eq_self (h c hc).2, List.filterMap_some]
  rw [slugChars, slugWords, hlower, hkept, hspaced.intercalate_words,
    List.take_of_length_le hlength, hspaced.trimHyphens_eq]

theorem slugChars_slugChars (name : List Char) : slugChars (slugChars name) = slugChars name :=
  slugChars_eq_self (spaced_slugChars name) (length_slugChars_le name) fun _ hc =>
    ⟨isLower_of_mem_slugChars hc, isSlugChar_of_mem_slugChars hc⟩

/-- A character whose lower case has no letter, number, white space or hyphen leaves no trace. -/
theorem slugChars_append_cons {c : Char}
    (h : ∀ d ∈ lowerChar c, isAlphanumeric d = false ∧ isSpace d = false ∧ d ≠ '-')
    (front back : List Char) : slugChars (front ++ c :: back) = slugChars (front ++ back) := by
  have hnone : (lowerChar c).filterMap slugChar? = [] := by
    rw [List.filterMap_eq_nil_iff]
    intro d hd
    obtain ⟨halnum, hspace, hhyphen⟩ := h d hd
    simp [slugChar?, halnum, hspace, hhyphen]
  have hwords : slugWords (front ++ c :: back) = slugWords (front ++ back) := by
    simp only [slugWords, List.flatMap_append, List.flatMap_cons, List.filterMap_append, hnone,
      List.nil_append]
  rw [slugChars, slugChars, hwords]

/-- **The form of slugs.**  A slug has at most fifty characters, all of them letters, numbers or
hyphens, no hyphen at either end and no two side by side.  It is its own slug.  And a name has the
slug that it has without any one of its characters whose lower case holds no letter, number, white
space or hyphen. -/
theorem slug_normal (name : String) :
    (slug name).length ≤ 50 ∧
    (∀ c ∈ (slug name).toList, isAlphanumeric c = true ∨ c = '-') ∧
    (slug name).toList.head? ≠ some '-' ∧
    (slug name).toList.getLast? ≠ some '-' ∧
    ¬ ['-', '-'] <:+: (slug name).toList ∧
    slug (slug name) = slug name ∧
    ∀ (front : String) (c : Char) (back : String), name = front ++ String.singleton c ++ back →
      (∀ d ∈ lowerChar c, isAlphanumeric d = false ∧ isSpace d = false ∧ d ≠ '-') →
      slug name = slug (front ++ back) := by
  have hchars : (slug name).toList = slugChars name.toList := String.toList_ofList
  have hspaced : Spaced (slug name).toList := hchars ▸ spaced_slugChars name.toList
  refine ⟨?_, fun _ => isSlugChar_of_mem_slug, hspaced.front, hspaced.back,
    apart_iff_not_infix.1 hspaced.apart, ?_, ?_⟩
  · rw [← String.length_toList, hchars]
    exact length_slugChars_le name.toList
  · rw [slug, hchars, slugChars_slugChars]
    rfl
  · rintro front c back rfl h
    have htext :
        (front ++ String.singleton c ++ back).toList = front.toList ++ c :: back.toList := by
      simp
    rw [slug, slug, htext, slugChars_append_cons h, String.toList_append]

/-- A capital whose lower case has two characters, white space next to hyphens, and an apostrophe
that leaves no trace. -/
theorem slug_normal_imp :
    let name := "İmp’s -- Lair"
    let front := "İmp"
    let back := "s -- Lair"
    name = front ++ String.singleton '’' ++ back ∧
      (∀ d ∈ lowerChar '’', isAlphanumeric d = false ∧ isSpace d = false ∧ d ≠ '-') ∧
      slug name = "imps-lair" ∧ slug (slug name) = slug name ∧
      slug name = slug (front ++ back) := by
  intro name front back
  have hname : name = front ++ String.singleton '’' ++ back := by decide
  have hdropped : ∀ d ∈ lowerChar '’',
      isAlphanumeric d = false ∧ isSpace d = false ∧ d ≠ '-' := by
    have hsame : lowerChar '’' = ['’'] := by decide +kernel
    rw [hsame, List.forall_mem_singleton]
    exact ⟨by decide +kernel, by decide +kernel, by decide⟩
  have hslug : slug name = "imps-lair" := by decide +kernel
  obtain ⟨-, -, -, -, -, hagain, hwithout⟩ := slug_normal name
  exact ⟨hname, hdropped, hslug, hagain, hwithout front '’' back hname hdropped⟩

end Compendium.Slug
