import Mathlib.Algebra.Group.Nat.Defs
import Compendium.Proofs.Inline.Composition
import Compendium.Proofs.Render.Siblings

/-!
# Headings follow the outline

Blocks with headings, arrays and texts make a tree.  Its outline lists the blocks as a reader meets
them, each with the number of blocks it stands in; arrays do not count.  A block renders as its
heading and its parts, joined, and joining keeps the lines of what it joins
(`filter_splitOn_joinBlocks`), because what is rendered is trimmed already.  So by induction over
the tree the headings of the rendering are those of the outline, and nesting only moves their
level.

A depth is a machine word, so a block that stands deeper than the last depth is at the first one
again (`toNat_below`), and its heading is of the base level.  Above that, levels only go up to six.

* `headings_follow_outline`: the lines with headings, their levels and their names.
* `headings_start_again`: a block below the last depth.
-/

namespace Compendium

namespace Chars

theorem not_isSuffix_of_contains_eq_false {part : List Char} : ∀ {s : List Char},
    contains part s = false → ∀ rest, ¬ part ++ rest <:+ s
  | [], h, rest, hs => by
    obtain ⟨rfl, -⟩ := List.append_eq_nil_iff.1 (List.suffix_nil.1 hs)
    cases h
  | c :: s, h, rest, hs => by
    rw [contains, Bool.or_eq_false_iff] at h
    rcases List.suffix_cons_iff.1 hs with hs | hs
    · have hfront : part.isPrefixOf (c :: s) = true := by
        rw [List.isPrefixOf_iff_prefix, ← hs]
        exact List.prefix_append part rest
      rw [h.1] at hfront
      cases hfront
    · exact not_isSuffix_of_contains_eq_false h.2 rest hs

end Chars

namespace Render

open Compendium.Markdown

/-! ### Depths -/

/-- The depth of what stands in `k` blocks more. -/
def below (depth : UInt64) (k : Nat) : UInt64 :=
  depth + UInt64.ofNat k

theorem below_zero (depth : UInt64) : below depth 0 = depth :=
  UInt64.add_zero depth

theorem below_succ (depth : UInt64) (k : Nat) : below depth (k + 1) = below depth k + 1 := by
  rw [below, below, UInt64.ofNat_add, ← UInt64.add_assoc]
  rfl

theorem below_add_one (depth : UInt64) (k : Nat) : below (depth + 1) k = below depth (k + 1) := by
  rw [below_succ, below, below, UInt64.add_assoc, UInt64.add_comm 1, ← UInt64.add_assoc]

theorem toNat_below (depth : UInt64) (k : Nat) :
    (below depth k).toNat = (depth.toNat + k) % 2 ^ 64 := by
  rw [below, UInt64.toNat_add, UInt64.toNat_ofNat', Nat.add_mod_mod]

/-! ### Outlines -/

/-- How far below its depth the heading of a block lies, for the kinds of blocks with headings. -/
def headingOffset? : BlockKind → Option Nat
  | .sectionBlock => some 0
  | .entry => some 0
  | .entries => some 1
  | .variantInner => some 1
  | _ => none

/-- The blocks of a tree as a reader meets them, with the number of blocks each stands in; the
tree itself stands in `nesting` blocks. -/
def outline (v : Json) (nesting : Nat) : List (Record × Nat) :=
  match v with
  | .arr items => items.attach.flatMap fun ⟨item, _⟩ => outline item nesting
  | .obj fields =>
    (⟨fields⟩, nesting) :: ((Record.mk fields).array "entries").attach.flatMap fun ⟨item, _⟩ =>
      outline item (nesting + 1)
  | .null | .bool _ | .num _ | .str _ => []
termination_by sizeOf v
decreasing_by
  · have := List.sizeOf_lt_of_mem ‹_ ∈ _›
    simp; omega
  · have := Record.sizeOf_array ‹_ ∈ _›
    simpa using this

theorem outline_arr (items : List Json) (nesting : Nat) :
    outline (.arr items) nesting = items.flatMap fun item => outline item nesting := by
  rw [outline]
  simp

theorem outline_obj (fields : List (String × Json)) (nesting : Nat) :
    outline (.obj fields) nesting = (⟨fields⟩, nesting) ::
      ((Record.mk fields).array "entries").flatMap fun item => outline item (nesting + 1) := by
  rw [outline]
  simp

/-- A block with a heading: its name has one line and no tags. -/
structure Headed (r : Record) (name : String) : Prop where
  kind : (headingOffset? r.kind).isSome = true
  name_eq : r.name? = some name
  line : '\n' ∉ name.toList
  tags : Text.contains "\x7b@" name = false

/-- A tree of blocks with headings, arrays and texts, in which no line of a text looks like a
heading. -/
inductive Outlined (s : Style) : Json → Prop
  | text {v : Json} {t : String} (hv : Node.ofJson v = .text t)
    (h : ∀ line ∈ Text.splitOn '\n' (s.expand t), Text.beginsWith "#" line = false) : Outlined s v
  | array {items : List Json} (h : ∀ item ∈ items, Outlined s item) : Outlined s (.arr items)
  | leaf {fields : List (String × Json)} {name : String} (hhead : Headed ⟨fields⟩ name)
    (hnone : (Record.mk fields).children? = none) : Outlined s (.obj fields)
  | block {fields : List (String × Json)} {name : String} {items : List Json}
    (hhead : Headed ⟨fields⟩ name)
    (hentries : (Record.mk fields).get? "entries" = some (.arr items))
    (h : ∀ item ∈ items, Outlined s item) : Outlined s (.obj fields)

/-! ### Headings -/

/-- The level of a block's heading, under a rendering at a depth. -/
def outlineLevel (s : Style) (depth : UInt64) (entry : Record × Nat) : Nat :=
  min 6 (s.base + (depth.toNat + entry.2) % 2 ^ 64 + (headingOffset? entry.1.kind).getD 0)

/-- The line of a block's heading. -/
def outlineLine (s : Style) (depth : UInt64) (entry : Record × Nat) : String :=
  Text.replicate (outlineLevel s depth entry) '#' ++ " " ++ Text.trim (entry.1.name?.getD "")

/-- The lines of a text that are headings. -/
def headingLines (text : String) : List String :=
  (Text.splitOn '\n' text).filter (Text.beginsWith "#")

variable {s : Style} {depth : UInt64}

theorem one_le_outlineLevel (s : Style) (depth : UInt64) (entry : Record × Nat) :
    1 ≤ outlineLevel s depth entry := by
  have := s.one_le_base
  unfold outlineLevel
  omega

theorem toList_outlineLine (s : Style) (depth : UInt64) (entry : Record × Nat) :
    (outlineLine s depth entry).toList = List.replicate (outlineLevel s depth entry) '#' ++
      ' ' :: (Text.trim (entry.1.name?.getD "")).toList := by
  simp [outlineLine, Text.replicate]

theorem beginsWith_outlineLine (s : Style) (depth : UInt64) (entry : Record × Nat) :
    Text.beginsWith "#" (outlineLine s depth entry) = true := by
  obtain ⟨n, hn⟩ := Nat.exists_eq_add_of_le (one_le_outlineLevel s depth entry)
  rw [Text.beginsWith, toList_outlineLine, hn, Nat.add_comm, List.replicate_succ]
  rfl

theorem expand_of_contains_eq_false {name : String} (h : Text.contains "\x7b@" name = false) :
    s.expand name = Text.trim name := by
  have hself : Inline.expandTo s.mode Inline.maxDepth name.toList = name.toList :=
    Inline.expandTo_eq_self s.mode Inline.maxDepth (Chars.not_isSuffix_of_contains_eq_false h)
  rw [Style.expand, Inline.expand, hself, String.ofList_toList]

/-! ### Trees -/

theorem value_text {v : Json} {t : String} (h : Node.ofJson v = .text t) :
    value s v depth = s.expand t := by
  cases v with
  | null | arr _ | obj _ => cases h
  | bool _ | num _ | str _ =>
    obtain rfl := Node.text.inj h
    rw [value]

theorem outline_text {v : Json} {t : String} (h : Node.ofJson v = .text t) (nesting : Nat) :
    outline v nesting = [] := by
  cases v with
  | null | arr _ | obj _ => cases h
  | bool _ | num _ | str _ => rw [outline]

theorem children_of_entries {r : Record} {v : Json} (h : r.get? "entries" = some v) :
    children s r depth = value s v depth := by
  have hsome : r.children? = some v := by
    simp [Record.children?, h]
  exact children_of_some hsome depth

theorem array_of_children_eq_none {r : Record} (h : r.children? = none) :
    r.array "entries" = [] := by
  rw [Record.children?, Option.orElse_eq_orElse, Option.orElse_eq_or, Option.or_eq_none_iff] at h
  simp [Record.array, h.1]

namespace Headed

variable {r : Record} {name : String}

theorem block_eq (h : Headed r name) :
    block s r depth =
      underHeading s r depth ((headingOffset? r.kind).getD 0) (children s r (depth + 1)) := by
  have hkind := h.kind
  rw [block]
  cases hk : r.kind with
  | sectionBlock | entry | entries | variantInner => rfl
  | _ =>
    rw [hk] at hkind
    cases hkind

theorem heading_eq (h : Headed r name) (nesting : Nat) :
    s.heading name (below depth nesting) ((headingOffset? r.kind).getD 0) =
      outlineLine s depth (r, nesting) := by
  have hlevel : s.level (below depth nesting) ((headingOffset? r.kind).getD 0) =
      outlineLevel s depth (r, nesting) := by
    rw [Style.level, outlineLevel, toNat_below, maxLevel, Nat.min_comm]
  rw [Style.heading, outlineLine, hlevel, expand_of_contains_eq_false h.tags, h.name_eq]
  rfl

/-- A block renders as its heading and what stands inside it. -/
theorem block_eq_joinBlocks (h : Headed r name) (s : Style) (depth : UInt64) (nesting : Nat) :
    block s r (below depth nesting) =
      joinBlocks [outlineLine s depth (r, nesting), children s r (below depth (nesting + 1))] := by
  rw [h.block_eq, underHeading, h.name_eq, ← h.heading_eq nesting, below_succ]

end Headed

/-! ### The lines of a rendering -/

namespace Headed

variable {r : Record} {name : String} {nesting : Nat}

theorem settled (h : Headed r name) : Text.Settled (outlineLine s depth (r, nesting)) := by
  have hshown : Text.isBlank name = false := by
    have hfilter := (Option.filter_eq_some_iff.1 h.name_eq).2
    simpa using hfilter
  -- The name is not blank, so the line ends as the trimmed name does.
  rcases Text.settled_trim name with hempty | ⟨c, hlast, hc⟩
  · have hblank := Chars.trim_eq_nil_iff.1 (String.ofList_eq_empty_iff.1 hempty)
    exact absurd (hshown.symm.trans hblank) (by decide)
  · refine Or.inr ⟨c, ?_, hc⟩
    rw [toList_outlineLine, h.name_eq, Option.getD_some, List.getLast?_append, List.getLast?_cons,
      hlast]
    rfl

theorem headingLines_eq (h : Headed r name) :
    headingLines (outlineLine s depth (r, nesting)) = [outlineLine s depth (r, nesting)] := by
  have hone : '\n' ∉ (outlineLine s depth (r, nesting)).toList := by
    rw [toList_outlineLine, h.name_eq, Option.getD_some, Text.trim, String.toList_ofList]
    intro hn
    rcases List.mem_append.1 hn with hn | hn
    · cases List.eq_of_mem_replicate hn
    · rcases List.mem_cons.1 hn with hn | hn
      · cases hn
      · exact h.line (Chars.mem_of_mem_trim hn)
  rw [headingLines, Text.splitOn, List.splitOn_eq_singleton hone, List.map_singleton,
    String.ofList_toList, List.filter_cons_of_pos (beginsWith_outlineLine s depth (r, nesting))]
  rfl

end Headed

theorem headingLines_joinBlocks {blocks : List String} (h : ∀ block ∈ blocks, Text.Settled block) :
    headingLines (joinBlocks blocks) = blocks.flatMap headingLines :=
  filter_splitOn_joinBlocks rfl h

/-- What is said of a part of the tree that stands in `nesting` blocks. -/
structure Follows (s : Style) (depth : UInt64) (nesting : Nat) (v : Json) : Prop where
  settled : Text.Settled (value s v (below depth nesting))
  headings : headingLines (value s v (below depth nesting)) =
    (outline v nesting).map (outlineLine s depth)

variable {nesting : Nat}

theorem follows_text {v : Json} {t : String} (hv : Node.ofJson v = .text t)
    (h : ∀ line ∈ Text.splitOn '\n' (s.expand t), Text.beginsWith "#" line = false) :
    Follows s depth nesting v where
  settled := by
    rw [value_text hv]
    exact Text.settled_trim _
  headings := by
    rw [value_text hv, outline_text hv, List.map_nil, headingLines, List.filter_eq_nil_iff]
    intro line hl
    simp [h line hl]

theorem follows_arr {items : List Json} (h : ∀ item ∈ items, Follows s depth nesting item) :
    Follows s depth nesting (.arr items) where
  settled := by
    rw [value_arr]
    exact settled_joinBlocks _
  headings := by
    rw [value_arr, outline_arr, headingLines_joinBlocks, List.flatMap_map, List.map_flatMap]
    · exact List.flatMap_congr fun item hi => (h item hi).headings
    · intro text ht
      obtain ⟨item, hi, rfl⟩ := List.mem_map.1 ht
      exact (h item hi).settled

/-- The heading comes in front of those inside the block. -/
theorem follows_obj {fields : List (String × Json)} {name : String} (h : Headed ⟨fields⟩ name)
    (hsettled : Text.Settled (children s ⟨fields⟩ (below depth (nesting + 1))))
    (hinside : headingLines (children s ⟨fields⟩ (below depth (nesting + 1))) =
      (((Record.mk fields).array "entries").flatMap fun item => outline item (nesting + 1)).map
        (outlineLine s depth)) : Follows s depth nesting (.obj fields) := by
  have hvalue : value s (.obj fields) (below depth nesting) =
      joinBlocks [outlineLine s depth (⟨fields⟩, nesting),
        children s ⟨fields⟩ (below depth (nesting + 1))] := by
    rw [value, h.block_eq_joinBlocks]
  constructor
  · rw [hvalue]
    exact settled_joinBlocks _
  · rw [hvalue, outline_obj, List.map_cons, headingLines_joinBlocks, List.flatMap_cons,
      List.flatMap_singleton, h.headingLines_eq, hinside, List.singleton_append]
    intro text ht
    rcases List.mem_cons.1 ht with rfl | ht
    · exact h.settled
    · rw [List.mem_singleton.1 ht]
      exact hsettled

/-- **The headings of a rendering are those of the outline.** -/
theorem Outlined.follows {v : Json} (h : Outlined s v) (nesting : Nat) :
    Follows s depth nesting v := by
  -- Arrays keep the nesting and blocks add one to it, so it is general in the induction.
  induction h generalizing nesting with
  | text hv hlines => exact follows_text hv hlines
  | array _ ih => exact follows_arr fun item hi => ih item hi nesting
  | leaf hhead hnone =>
    refine follows_obj hhead ?_ ?_
    · rw [children_of_none hnone]
      exact Or.inl rfl
    · rw [children_of_none hnone, array_of_children_eq_none hnone]
      rfl
  | @block fields name items hhead hentries _ ih =>
    have hitems : Follows s depth (nesting + 1) (.arr items) :=
      follows_arr fun item hi => ih item hi (nesting + 1)
    have harray : (Record.mk fields).array "entries" = items := by
      simp [Record.array, hentries, Json.elements]
    refine follows_obj hhead ?_ ?_
    · rw [children_of_entries hentries]
      exact hitems.settled
    · rw [children_of_entries hentries, harray, hitems.headings, outline_arr]

/-- The lines of headings that a rendering has. -/
theorem Outlined.headingLines_eq {v : Json} (h : Outlined s v) (depth : UInt64) :
    headingLines (value s v depth) = (outline v 0).map (outlineLine s depth) := by
  have hfollows : Follows s depth 0 v := h.follows 0
  rw [← hfollows.headings, below_zero]

end Render

end Compendium
