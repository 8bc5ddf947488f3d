import Mathlib.Data.List.Basic
import Compendium.Text.Basic

/-!
# Texts in order, each once

Sorting texts leaves nothing of the order in which they came, and dropping repeats
afterwards loses no text: `sortDistinct` has the same members (`mem_sortDistinct`), each once
(`nodup_sortDistinct`), so it is the same for all lists of the same texts (`sortDistinct_congr`),
in whatever order they come (`sortDistinct_eq_of_perm`).
-/

namespace Compendium.Text

section Repeats

variable {α : Type} [BEq α]

private theorem eraseRepsBy_loop (a : α) (rest done : List α) :
    List.eraseRepsBy.loop (· == ·) a rest done =
      done.reverse ++ List.eraseRepsBy.loop (· == ·) a rest [] := by
  induction rest generalizing a done with
  | nil => simp [List.eraseRepsBy.loop]
  | cons b rest ih =>
    rw [List.eraseRepsBy.loop, List.eraseRepsBy.loop]
    split
    · exact ih a done
    · rw [ih b (a :: done), ih b [a]]
      simp

/-- An element is dropped if the next one is the same. -/
theorem eraseReps_cons_cons (a b : α) (rest : List α) :
    (a :: b :: rest).eraseReps =
      if a == b then (a :: rest).eraseReps else a :: (b :: rest).eraseReps := by
  simp only [List.eraseReps, List.eraseRepsBy, List.eraseRepsBy.loop]
  cases a == b with
  | true => rfl
  | false => exact eraseRepsBy_loop b rest [a]

theorem mem_eraseReps [LawfulBEq α] {items : List α} {x : α} :
    x ∈ items.eraseReps ↔ x ∈ items := by
  induction items with
  | nil => exact Iff.rfl
  | cons a rest ih =>
    cases rest with
    | nil => exact Iff.rfl
    | cons b rest =>
      rw [eraseReps_cons_cons]
      split
      · next h =>
        obtain rfl : a = b := eq_of_beq h
        rw [ih, List.mem_cons, List.mem_cons, List.mem_cons, or_self_left]
      · rw [List.mem_cons, ih, ← List.mem_cons]

/-- Dropping the repeats of a list in order leaves one whose elements differ as well. -/
theorem pairwise_eraseReps [LawfulBEq α] {r : α → α → Prop} {items : List α}
    (hanti : ∀ a b, r a b → r b a → a = b) (h : items.Pairwise r) :
    items.eraseReps.Pairwise fun a b => r a b ∧ a ≠ b := by
  induction items with
  | nil => exact List.Pairwise.nil
  | cons a rest ih =>
    cases rest with
    | nil => exact List.pairwise_singleton _ a
    | cons b rest =>
      obtain ⟨ha, hrest⟩ := List.pairwise_cons.1 h
      rw [eraseReps_cons_cons]
      by_cases heq : (a == b) = true
      · obtain rfl : a = b := eq_of_beq heq
        rw [if_pos heq]
        exact ih hrest
      · rw [if_neg heq]
        refine List.pairwise_cons.2 ⟨fun t ht => ?_, ih hrest⟩
        have hat : r a t := ha t (mem_eraseReps.1 ht)
        refine ⟨hat, ?_⟩
        -- If the element came again further on, it would be the next one.
        rintro rfl
        have hab : r a b := ha b List.mem_cons_self
        rcases List.mem_cons.1 (mem_eraseReps.1 ht) with rfl | ht
        · exact heq (beq_self_eq_true _)
        · exact heq (beq_iff_eq.2 (hanti a b hab ((List.pairwise_cons.1 hrest).1 a ht)))

end Repeats

theorem mem_sortDistinct {texts : List String} {t : String} :
    t ∈ sortDistinct texts ↔ t ∈ texts := by
  rw [sortDistinct, mem_eraseReps, List.mem_mergeSort]

/-- Sorting by an order puts all elements in that order. -/
theorem pairwise_mergeSort_decide {α : Type} {r : α → α → Prop} [DecidableRel r]
    (htrans : ∀ a b c, r a b → r b c → r a c) (htotal : ∀ a b, r a b ∨ r b a) (items : List α) :
    (items.mergeSort fun a b => r a b).Pairwise r := by
  have h : (items.mergeSort fun a b => r a b).Pairwise fun a b => decide (r a b) = true := by
    refine List.pairwise_mergeSort (fun a b c hab hbc => ?_) (fun a b => ?_) items
    · exact decide_eq_true (htrans a b c (of_decide_eq_true hab) (of_decide_eq_true hbc))
    · rw [Bool.or_eq_true, decide_eq_true_eq, decide_eq_true_eq]
      exact htotal a b
  exact h.imp of_decide_eq_true

theorem pairwise_mergeSort_le (texts : List String) :
    (texts.mergeSort fun a b => a ≤ b).Pairwise (· ≤ ·) :=
  pairwise_mergeSort_decide (r := (· ≤ ·)) (fun _ _ _ => String.le_trans) String.le_total texts

/-- **The texts come in strictly ascending order.** -/
theorem pairwise_sortDistinct (texts : List String) : (sortDistinct texts).Pairwise (· < ·) := by
  refine (pairwise_eraseReps (fun _ _ => String.le_antisymm) (pairwise_mergeSort_le texts)).imp ?_
  rintro a b ⟨hab, hne⟩
  exact String.not_le.1 fun hba => hne (String.le_antisymm hab hba)

/-- **Every text is there once.** -/
theorem nodup_sortDistinct (texts : List String) : (sortDistinct texts).Nodup := by
  refine (pairwise_sortDistinct texts).imp fun {a b} hlt he => ?_
  rw [he] at hlt
  exact String.lt_irrefl b hlt

/-- **Only which texts there are matters.** -/
theorem sortDistinct_congr {texts others : List String} (h : ∀ t, t ∈ texts ↔ t ∈ others) :
    sortDistinct texts = sortDistinct others := by
  have hmem : ∀ t, t ∈ sortDistinct texts ↔ t ∈ sortDistinct others := fun t => by
    rw [mem_sortDistinct, mem_sortDistinct, h]
  have hp : (sortDistinct texts).Perm (sortDistinct others) :=
    (List.perm_ext_iff_of_nodup (nodup_sortDistinct texts) (nodup_sortDistinct others)).2 hmem
  refine hp.eq_of_pairwise (fun a b _ _ hab hba => ?_) (pairwise_sortDistinct texts)
    (pairwise_sortDistinct others)
  exact absurd hab (String.lt_asymm hba)

/-- **The order in which texts came is lost.** -/
theorem sortDistinct_eq_of_perm {texts permuted : List String} (h : texts.Perm permuted) :
    sortDistinct texts = sortDistinct permuted :=
  sortDistinct_congr fun _ => h.mem_iff

end Compendium.Text
