import Compendium.Proofs.Inline.Composition
import Compendium.Proofs.Markdown.Blocks
import Compendium.Render.Tree

/-!
# Arrays are flat

An array renders as its elements, joined.  Joining in groups first makes no difference
(`Markdown.joinBlocks_group`), so an array inside an array might as well be its elements, and
elements that render as nothing might as well not be there (`LeavesOut`).

* `arrays_are_flat`: both facts, at every depth, and the one on joined blocks behind them.
-/

namespace Compendium.Render

open Compendium.Markdown (joinBlocks joinBlocks_eq joinBlocks_group shownBlocks shownBlocks_cons)

variable (s : Style) (depth : UInt64)

theorem value_arr (items : List Json) :
    value s (.arr items) depth = joinBlocks (items.map fun v => value s v depth) := by
  rw [value]
  exact congrArg joinBlocks (List.attach_map_val (f := fun v => value s v depth))

/-! ### Elements that render as nothing -/

/-- The second list is the first one without some elements that render as nothing. -/
inductive LeavesOut : List Json → List Json → Prop
  | nil : LeavesOut [] []
  | keep (v : Json) {items kept : List Json} (h : LeavesOut items kept) :
    LeavesOut (v :: items) (v :: kept)
  | skip {v : Json} (hv : Text.isBlank (value s v depth) = true) {items kept : List Json}
    (h : LeavesOut items kept) : LeavesOut (v :: items) kept

variable {s depth}

theorem LeavesOut.shownBlocks_eq {items kept : List Json} (h : LeavesOut s depth items kept) :
    shownBlocks (items.map fun v => value s v depth) =
      shownBlocks (kept.map fun v => value s v depth) := by
  induction h with
  | nil => rfl
  | keep v _ ih => rw [List.map_cons, List.map_cons, shownBlocks_cons, shownBlocks_cons, ih]
  | skip hv _ ih => rw [List.map_cons, shownBlocks_cons, if_pos hv, ih]

/-- A blank text has no tags and is trimmed away. -/
theorem value_str_of_isBlank {t : String} (h : Text.isBlank t = true) :
    value s (.str t) depth = "" := by
  have hspace : ∀ c ∈ t.toList, Text.isSpace c = true := List.all_eq_true.1 h
  have hexpand : Inline.expandTo s.mode Inline.maxDepth t.toList = t.toList := by
    refine Inline.expandTo_eq_self s.mode Inline.maxDepth fun rest hr => ?_
    exact absurd (hspace '\x7b' (hr.subset List.mem_cons_self)) (by decide)
  rw [value, Style.expand, Inline.expand, hexpand, String.ofList_toList, Text.trim,
    Chars.trim_eq_nil_iff.2 h]

/-- A block of unknown kind that has nothing inside renders as nothing. -/
theorem value_obj_of_unknown {fields : List (String × Json)}
    (hkind : (Record.mk fields).kind = .unknown) (hnone : (Record.mk fields).children? = none) :
    value s (.obj fields) depth = "" := by
  rw [value, block, hkind]
  simp only [hnone, Option.isSome_none, Bool.false_eq_true, if_false]

/-! ### Both together -/

/-- **Arrays are flat lists of siblings.**  Blocks that are joined in a group first come to the
same as blocks that are joined at once.  So an array renders as it does with the elements of an
inner array in its place, and as it does without any elements that render as nothing, which null,
blank texts and unknown blocks with nothing inside do. -/
theorem arrays_are_flat :
    (∀ front inner back : List String,
      joinBlocks (front ++ [joinBlocks inner] ++ back) = joinBlocks (front ++ inner ++ back)) ∧
    ∀ (s : Style) (depth : UInt64),
      (∀ xs ys zs : List Json,
        value s (.arr (xs ++ [.arr ys] ++ zs)) depth = value s (.arr (xs ++ ys ++ zs)) depth) ∧
      (∀ items kept : List Json, LeavesOut s depth items kept →
        value s (.arr kept) depth = value s (.arr items) depth) ∧
      value s .null depth = "" ∧
      (∀ t, Text.isBlank t = true → value s (.str t) depth = "") ∧
      ∀ fields, (Record.mk fields).kind = .unknown → (Record.mk fields).children? = none →
        value s (.obj fields) depth = "" := by
  refine ⟨joinBlocks_group, fun s depth => ⟨?_, ?_, ?_, ?_, ?_⟩⟩
  · intro xs ys zs
    simp only [value_arr, List.map_append, List.map_singleton]
    exact joinBlocks_group _ _ _
  · intro items kept h
    rw [value_arr, value_arr, joinBlocks_eq, joinBlocks_eq, h.shownBlocks_eq]
  · rw [value]
  · intro t ht
    exact value_str_of_isBlank ht
  · intro fields hkind hnone
    exact value_obj_of_unknown hkind hnone

/-- An array with an array in the middle, in which a text of an ideographic space, null and a
block without a kind stand between two paragraphs; the second starts with a blank line of its
own. -/
theorem arrays_are_flat_paragraphs :
    let s := Style.make true 2
    let one : Json := .str "One \x7b@b bold\x7d. "
    let two : Json := .str "\n  Two."
    let blank : Json := .str "　"
    value s (.arr [one, .arr [blank, two], .null]) 3 = value s (.arr [one, blank, two, .null]) 3 ∧
      value s (.arr [one, two]) 3 = value s (.arr [one, blank, two, .null]) 3 ∧
      value s (.arr [one, two]) 3 = "One **bold**.\n\nTwo." := by
  intro s one two blank
  obtain ⟨hgroup, hskip, hnull, hstr, -⟩ := arrays_are_flat.2 s 3
  have hblank : Text.isBlank (value s blank 3) = true := by
    rw [hstr "　" (by decide)]
    rfl
  have hnull' : Text.isBlank (value s .null 3) = true := by
    rw [hnull]
    rfl
  refine ⟨hgroup [one] [blank, two] [.null], hskip _ _ ?_, ?_⟩
  · exact .keep one (.skip hblank (.keep two (.skip hnull' .nil)))
  · rw [value_arr, List.map_cons, List.map_singleton, value, value]
    decide +kernel

end Compendium.Render
