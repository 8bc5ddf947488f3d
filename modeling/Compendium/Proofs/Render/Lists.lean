import Mathlib.Data.List.Forall2
import Compendium.Proofs.Markdown.Lines
import Compendium.Render.Tree

/-!
# Lists keep their items apart

A list is rendered item by item, so it is cut at its line feeds into the lines of its items, one
item after the other (`splitOn_list`).  An item's lines are known from its text alone, whatever
was rendered into it: a bullet in front of the first line and two columns in front of the others,
or, for a list inside the list, two columns in front of each.

* `list_keeps_items`: which lines a list has, which of them begin with a bullet, and what is left
  of an item's lines without their first two columns.
-/

namespace Compendium.Render

open Compendium.Markdown

variable (s : Style) (r : Record) (v : Json) (depth : UInt64)

/-! ### Items -/

/-- The list that an item is, if it is one. -/
def innerList? (v : Json) : Option Record :=
  v.record?.filter fun r => r.kind = .list

/-- The text of an item that is no list: a name in bold in front of what stands inside the item,
if the name leads it, or else the item as it renders anywhere. -/
def itemText (s : Style) (v : Json) (depth : UInt64) : String :=
  match v.record? with
  | none => value s v depth
  | some r =>
    match if namesListItem r.kind then r.name? else none with
    | some name =>
      let label := Style.bold (Text.dropEndWhile (fun c => c = '.' || c = ':') (s.expand name))
      if (children s r depth).isEmpty then label else label ++ ": " ++ children s r depth
    | none => value s v depth

/-- Whether an item has a bullet: it is no list, and its text is not blank. -/
def hasBullet (s : Style) (v : Json) (depth : UInt64) : Bool :=
  (innerList? v).isNone && !Text.isBlank (itemText s v depth)

/-- The lines of an item. -/
def itemLines (s : Style) (v : Json) (depth : UInt64) : List String :=
  match innerList? v with
  | some inner => (Text.lines (list s inner depth)).map indented
  | none =>
    if Text.isBlank (itemText s v depth) then [] else bulleted (Text.lines (itemText s v depth))

theorem listItem_of_innerList {inner : Record} (h : innerList? v = some inner) :
    listItem s v depth = (Text.nonEmpty? (list s inner depth)).map indent := by
  obtain ⟨hr, hk⟩ := Option.filter_eq_some_iff.1 h
  rw [listItem]
  split
  · next hnone => simp [hr] at hnone
  · next r hsome =>
    obtain rfl : inner = r := Option.some.inj (hr.symm.trans hsome)
    rw [if_pos (of_decide_eq_true hk)]

theorem listItem_of_text (h : innerList? v = none) :
    listItem s v depth = bullet? (itemText s v depth) := by
  rw [listItem, itemText]
  split
  · next hnone => simp only [hnone]
  · next r hsome =>
    have hk : r.kind ≠ .list := by
      intro hk
      simp [innerList?, hsome, hk] at h
    simp only [hsome, if_neg hk]
    cases hname : (if namesListItem r.kind then r.name? else none) with
    | none => rfl
    | some name => rfl

/-- **An item is cut into its lines.** -/
theorem splitOn_listItem :
    (listItem s v depth).toList.flatMap (Text.splitOn '\n') = itemLines s v depth := by
  rw [itemLines]
  cases h : innerList? v with
  | some inner =>
    rw [listItem_of_innerList s v depth h, Text.nonEmpty?]
    by_cases he : list s inner depth = ""
    · simp [he, Text.lines]
    · have hne : (list s inner depth).isEmpty = false := by simpa using he
      simp [hne, splitOn_indent he]
  | none =>
    rw [listItem_of_text s v depth h, bullet?_eq]
    by_cases hb : Text.isBlank (itemText s v depth) = true
    · simp [hb]
    · rw [Bool.not_eq_true] at hb
      simp [hb, splitOn_bullet hb]

/-! ### Lists -/

theorem list_eq : list s r depth =
    "\n".intercalate ((r.array "items").filterMap fun v => listItem s v (depth + 1)) := by
  rw [list]
  simp

theorem flatMap_filterMap_listItem (items : List Json) :
    (items.filterMap fun v => listItem s v depth).flatMap (Text.splitOn '\n') =
      items.flatMap fun v => itemLines s v depth := by
  induction items with
  | nil => rfl
  | cons v rest ih =>
    rw [List.flatMap_cons, ← ih, ← splitOn_listItem, List.filterMap_cons]
    cases listItem s v depth with
    | none => rfl
    | some text => simp

/-- **A list is cut into the lines of its items**; without any it is empty. -/
theorem splitOn_list :
    Text.splitOn '\n' (list s r depth) =
        (r.array "items").flatMap (fun v => itemLines s v (depth + 1)) ∨
      list s r depth = "" ∧
        (r.array "items").flatMap (fun v => itemLines s v (depth + 1)) = [] := by
  rw [list_eq, ← flatMap_filterMap_listItem]
  -- The empty text has one line, and a list without items none.
  by_cases h : ((r.array "items").filterMap fun v => listItem s v (depth + 1)) = []
  · rw [h]
    exact Or.inr ⟨rfl, rfl⟩
  · exact Or.inl (Text.splitOn_intercalate_texts h)

/-! ### What an item's lines look like -/

variable {s v depth}

/-- What the lines of an item are. -/
inductive ItemShows (s : Style) (depth : UInt64) (v : Json) : List String → Prop
  /-- A list in the list has the lines of its own, two columns further in. -/
  | inner {r : Record} (h : innerList? v = some r) :
    ItemShows s depth v ((Text.lines (list s r depth)).map indented)
  /-- An item without text has no lines. -/
  | blank (h : innerList? v = none) (hb : Text.isBlank (itemText s v depth) = true) :
    ItemShows s depth v []
  /-- Any other item has its text's lines, behind a bullet and under it. -/
  | bullet {first : String} {rest : List String} (h : innerList? v = none)
    (hb : Text.isBlank (itemText s v depth) = false)
    (hrest : ∀ line ∈ rest, line = "" ∨ Text.beginsWith "  " line = true)
    (hlines : (("- " ++ first) :: rest).map dedented = Text.lines (itemText s v depth)) :
    ItemShows s depth v (("- " ++ first) :: rest)

theorem lines_of_not_isBlank {text : String} (h : Text.isBlank text = false) :
    ∃ first rest, Text.lines text = first :: rest := by
  refine List.exists_cons_of_ne_nil fun hl => ?_
  rw [Text.lines_eq_nil_iff] at hl
  subst hl
  cases h

theorem itemShows_itemLines (s : Style) (v : Json) (depth : UInt64) :
    ItemShows s depth v (itemLines s v depth) := by
  rw [itemLines]
  cases h : innerList? v with
  | some inner => exact .inner h
  | none =>
    by_cases hb : Text.isBlank (itemText s v depth) = true
    · rw [if_pos hb]
      exact .blank h hb
    · rw [Bool.not_eq_true] at hb
      obtain ⟨first, rest, hl⟩ := lines_of_not_isBlank hb
      rw [hb, if_neg Bool.false_ne_true, hl, bulleted]
      refine .bullet h hb ?_ ?_
      · intro line hm
        obtain ⟨other, -, rfl⟩ := List.mem_map.1 hm
        exact indented_cases other
      · rw [hl]
        exact dedented_bulleted (first :: rest)

theorem ItemShows.begins {lines : List String} (h : ItemShows s depth v lines) :
    ∀ line ∈ lines, line = "" ∨ Text.beginsWith "- " line = true ∨
      Text.beginsWith "  " line = true := by
  intro line hl
  cases h with
  | inner _ =>
    obtain ⟨other, -, rfl⟩ := List.mem_map.1 hl
    exact (indented_cases other).imp_right Or.inr
  | blank _ _ => simp at hl
  | bullet _ _ hrest _ =>
    rcases List.mem_cons.1 hl with rfl | hl
    · exact Or.inr (Or.inl (Text.beginsWith_append "- " _))
    · exact (hrest line hl).imp_right Or.inr

/-- Only the first line of an item that is no list begins with a bullet. -/
theorem filter_itemLines (s : Style) (v : Json) (depth : UInt64) :
    (itemLines s v depth).filter (Text.beginsWith "- ") =
      if hasBullet s v depth then ["- " ++ (Text.lines (itemText s v depth)).headD ""] else [] := by
  have hindented : ∀ lines : List String,
      (lines.map indented).filter (Text.beginsWith "- ") = [] := by
    intro lines
    rw [List.filter_eq_nil_iff]
    intro line hl
    obtain ⟨other, -, rfl⟩ := List.mem_map.1 hl
    simp [beginsWith_bullet_indented]
  rw [itemLines, hasBullet]
  cases h : innerList? v with
  | some inner => simp [hindented]
  | none =>
    by_cases hb : Text.isBlank (itemText s v depth) = true
    · simp [hb]
    · rw [Bool.not_eq_true] at hb
      obtain ⟨first, rest, hl⟩ := lines_of_not_isBlank hb
      simp [hb, hl, bulleted, hindented, Text.beginsWith_append]

/-- **A list keeps its items apart.**  Each of its lines is empty, begins with a bullet or is two
columns in.  The bullets are, in order, those of the items that are no lists and show something,
in front of the first line of each.  And the lines are those of the items, one item after the
other: without their first two columns an item's lines are the lines of its text, and the lines of
a list in the list are its own, two columns further in. -/
theorem list_keeps_items (s : Style) (r : Record) (depth : UInt64) :
    (∀ line ∈ Text.splitOn '\n' (list s r depth),
      line = "" ∨ Text.beginsWith "- " line = true ∨ Text.beginsWith "  " line = true) ∧
    (Text.splitOn '\n' (list s r depth)).filter (Text.beginsWith "- ") =
      ((r.array "items").filter fun v => hasBullet s v (depth + 1)).map (fun v =>
        "- " ++ (Text.lines (itemText s v (depth + 1))).headD "") ∧
    ∃ parts : List (List String),
      (Text.splitOn '\n' (list s r depth) = parts.flatten ∨
        list s r depth = "" ∧ parts.flatten = []) ∧
      List.Forall₂ (ItemShows s (depth + 1)) (r.array "items") parts := by
  have hlines := splitOn_list s r depth
  have hfilter : ((r.array "items").flatMap fun v => itemLines s v (depth + 1)).filter
      (Text.beginsWith "- ") = ((r.array "items").filter fun v => hasBullet s v (depth + 1)).map
        fun v => "- " ++ (Text.lines (itemText s v (depth + 1))).headD "" := by
    rw [List.filter_flatMap]
    induction r.array "items" with
    | nil => rfl
    | cons v rest ih =>
      rw [List.flatMap_cons, ih, filter_itemLines, List.filter_cons]
      split <;> simp
  refine ⟨?_, ?_, (r.array "items").map fun v => itemLines s v (depth + 1), ?_, ?_⟩
  · intro line hl
    rcases hlines with h | ⟨h, -⟩
    · rw [h, List.mem_flatMap] at hl
      obtain ⟨v, -, hl⟩ := hl
      exact (itemShows_itemLines s v (depth + 1)).begins line hl
    · rw [h] at hl
      exact Or.inl (by simpa [Text.splitOn] using hl)
  · rw [← hfilter]
    rcases hlines with h | ⟨h, hnil⟩
    · rw [h]
    · rw [h, hnil]
      rfl
  · rwa [← List.flatMap_def]
  · rw [List.forall₂_map_right_iff, List.forall₂_same]
    exact fun v _ => itemShows_itemLines s v (depth + 1)

end Compendium.Render
