import Mathlib.Data.List.Basic
import Compendium.Proofs.Assoc
import Compendium.Proofs.Render.Headings

/-!
# Depth only moves headings

A rendering reads its style and its depth in two ways: texts are expanded with links
or without, and headings have levels, which stop at six.  Each step into a block adds
one to the depth.  So two renderings that agree on links and on the levels of headings as
far down as blocks stand in one another (`Json.height`) agree on the text (`value_congr`):
whatever stands inside a block is rendered by two styles that are again `Alike`, one
block less far down.

If the levels are the same at the start and no depth on the way down is past the last
one, they are the same all the way (`alike_of_level_eq`), since they only grow, and only
up to six.  Past the last depth comes the first one, and levels start again.

Conversely sections in sections show the level of each heading (`level_below_eq`).

* `value_eq_iff_level_eq`: the base level and the depth matter exactly through the levels
  of headings, and through the first of them alone above the last depth.
* `value_ne_of_level_eq`: past the last depth the first level is not enough.
-/

namespace Compendium

/-! ### How deep blocks stand in one another -/

namespace Json

mutual

/-- How many objects of a value stand in one another, at most. -/
def height : Json → Nat
  | .arr items => heightOf items
  | .obj fields => heightOfFields fields + 1
  | _ => 0

def heightOf : List Json → Nat
  | [] => 0
  | v :: rest => max (height v) (heightOf rest)

def heightOfFields : List (String × Json) → Nat
  | [] => 0
  | (_, v) :: rest => max (height v) (heightOfFields rest)

end

theorem height_le_of_mem {v : Json} {items : List Json} (h : v ∈ items) :
    height v ≤ height (.arr items) := by
  rw [height]
  induction items with
  | nil => cases h
  | cons w rest ih =>
    rw [heightOf]
    rcases List.mem_cons.1 h with rfl | h
    · exact Nat.le_max_left _ _
    · exact (ih h).trans (Nat.le_max_right _ _)

theorem height_lt_of_mem {key : String} {v : Json} {fields : List (String × Json)}
    (h : (key, v) ∈ fields) : height v < height (.obj fields) := by
  rw [height, Nat.lt_succ_iff]
  induction fields with
  | nil => cases h
  | cons field rest ih =>
    obtain ⟨other, w⟩ := field
    rw [heightOfFields]
    rcases List.mem_cons.1 h with he | h
    · obtain ⟨-, rfl⟩ := Prod.mk.inj he
      exact Nat.le_max_left _ _
    · exact (ih h).trans (Nat.le_max_right _ _)

end Json

namespace Record

variable {r : Record} {v : Json} {key : String}

/-- How many objects of a record stand in one another, itself included. -/
def height (r : Record) : Nat :=
  Json.height (.obj r.fields)

theorem height_pos (r : Record) : 0 < r.height := by
  rw [height, Json.height]
  exact Nat.succ_pos _

theorem height_get? (h : r.get? key = some v) : v.height < r.height :=
  Json.height_lt_of_mem (Assoc.mem_of_lookup (lookup_of_get? h))

theorem height_children? (h : r.children? = some v) : v.height < r.height := by
  simp only [children?, Option.orElse_eq_orElse, Option.orElse_eq_or, Option.or_eq_some_iff] at h
  rcases h with h | ⟨_, h | ⟨_, h⟩⟩ <;> exact height_get? h

theorem height_array (h : v ∈ r.array key) : v.height < r.height := by
  unfold array at h
  cases hg : r.get? key with
  | none => simp [hg] at h
  | some w =>
    cases w with
    | arr items =>
      rw [hg] at h
      exact (Json.height_le_of_mem h).trans_lt (height_get? hg)
    | _ => simp [hg, Json.elements] at h

theorem height_record? (h : v.record? = some r) : r.height = v.height := by
  rw [Json.record?_eq_some_iff.1 h, height]

theorem height_records {t : Record} (h : t ∈ r.records key) : t.height < r.height := by
  obtain ⟨v, hv, ht⟩ := List.mem_filterMap.1 h
  rw [height_record? ht]
  exact height_array hv

theorem height_tableRows {row : List Json} (h : row ∈ Render.tableRows r) (hv : v ∈ row) :
    v.height < r.height := by
  obtain ⟨w, hw, hrow⟩ := List.mem_filterMap.1 h
  refine lt_of_le_of_lt ?_ (height_array hw)
  cases w with
  | arr items =>
    obtain rfl := Option.some.inj hrow
    exact Json.height_le_of_mem hv
  | obj fields =>
    obtain ⟨cells, hcells, hc⟩ := Option.bind_eq_some_iff.1 hrow
    cases cells with
    | arr items =>
      obtain rfl := Option.some.inj hc
      exact (Json.height_le_of_mem hv).trans (height_get? hcells).le
    | _ => cases hc
  | str _ | num _ =>
    obtain rfl := Option.some.inj hrow
    rw [List.mem_singleton.1 hv]
  | null | bool _ => cases hrow

end Record

namespace Render

open Compendium.Markdown

/-- Two styles, each at a depth, which link alike and have the same levels of headings in as many
blocks as `n` says. -/
structure Alike (s s' : Style) (d d' : UInt64) (n : Nat) : Prop where
  links : s.links = s'.links
  level : ∀ k < n, min (s.base + (below d k).toNat) maxLevel =
    min (s'.base + (below d' k).toNat) maxLevel

variable {s s' : Style} {d d' : UInt64} {n : Nat}

/-! ### What depends on links alone -/

section Links

variable (h : s.links = s'.links)

include h

theorem mode_congr : s.mode = s'.mode :=
  congrArg Inline.Mode.markdown h

theorem expand_congr : s.expand = s'.expand := by
  unfold Style.expand
  rw [mode_congr h]

theorem plainText_congr : s.plainText = s'.plainText := by
  unfold Style.plainText
  rw [h]

theorem imageLabel_congr (r : Record) : imageLabel s r = imageLabel s' r := by
  unfold imageLabel
  rw [expand_congr h]

theorem image_congr (r : Record) : image s r = image s' r := by
  unfold image
  rw [imageLabel_congr h, expand_congr h]

theorem linkBlock_congr (r : Record) : linkBlock s r = linkBlock s' r := by
  simp only [linkBlock, expand_congr h]

theorem saveFormula_congr (r : Record) : saveFormula s r = saveFormula s' r := by
  simp only [saveFormula, formulaName, expand_congr h]

theorem attackFormula_congr (r : Record) : attackFormula s r = attackFormula s' r := by
  simp only [attackFormula, formulaName, expand_congr h]

theorem genericFormula_congr (r : Record) : genericFormula s r = genericFormula s' r := by
  simp only [genericFormula, expand_congr h]

theorem statblock_congr (r : Record) : statblock s r = statblock s' r := by
  simp only [statblock, statblockName?, plainText_congr h, h]

theorem seeAlso_congr (r : Record) (key : String) : seeAlso s r key = seeAlso s' r key := by
  simp only [seeAlso, expand_congr h]

theorem attribution?_congr (r : Record) : attribution? s r = attribution? s' r := by
  simp only [attribution?, expand_congr h]

theorem spellList_congr (spells : List Json) : spellList s spells = spellList s' spells := by
  simp only [spellList, expand_congr h]

theorem spellBullets_congr (r : Record) : spellBullets s r = spellBullets s' r := by
  simp only [spellBullets, useBullets, levelBullets, spellList_congr h]

theorem spellcastingBlock_congr (r : Record) (lead closing : String) :
    spellcastingBlock s r lead closing = spellcastingBlock s' r lead closing := by
  simp only [spellcastingBlock, spellBullets_congr h, expand_congr h]

theorem ledByName_congr (r : Record) (style : NameStyle) (body : String) :
    ledByName s r style body = ledByName s' r style body := by
  simp only [ledByName, expand_congr h]

theorem namedBullet?_congr (name body : String) :
    namedBullet? s name body = namedBullet? s' name body := by
  simp only [namedBullet?, expand_congr h]

end Links

/-! ### Headings -/

namespace Alike

/-- One step into a block. -/
theorem deeper (h : Alike s s' d d' n) : Alike s s' (d + 1) (d' + 1) (n - 1) where
  links := h.links
  level k hk := by
    rw [below_add_one, below_add_one]
    exact h.level (k + 1) (by omega)

theorem level_eq (h : Alike s s' d d' n) (hn : 0 < n) (extra : Nat) :
    s.level d extra = s'.level d' extra := by
  have hlevel := h.level 0 hn
  rw [below_zero, below_zero] at hlevel
  unfold Style.level
  omega

theorem heading_eq (h : Alike s s' d d' n) (hn : 0 < n) (title : String) (extra : Nat) :
    s.heading title d extra = s'.heading title d' extra := by
  rw [Style.heading, Style.heading, h.level_eq hn, expand_congr h.links]

theorem underHeading_eq (h : Alike s s' d d' n) (hn : 0 < n) (r : Record) (extra : Nat)
    (body : String) : underHeading s r d extra body = underHeading s' r d' extra body := by
  unfold underHeading
  cases r.name? with
  | none => rfl
  | some name =>
    show joinBlocks [s.heading name d extra, body] = joinBlocks [s'.heading name d' extra, body]
    rw [h.heading_eq hn]

end Alike

/-! ### The tree -/

/-- Elements that render alike one by one render alike. -/
theorem attach_map_congr {α β : Type} {items : List α} {f g : α → β}
    (h : ∀ x ∈ items, f x = g x) :
    (items.attach.map fun ⟨x, _⟩ => f x) = items.attach.map fun ⟨x, _⟩ => g x :=
  List.map_congr_left fun ⟨x, hx⟩ _ => h x hx

mutual

/-- **Values render alike in styles that are alike** as far down as the value goes. -/
theorem value_congr {s s' : Style} {d d' : UInt64} {n : Nat} (h : Alike s s' d d' n)
    (v : Json) (hv : v.height ≤ n) : value s v d = value s' v d' := by
  cases v with
  | null => rw [value, value]
  | bool b => rw [value, value, expand_congr h.links]
  | num n => rw [value, value, expand_congr h.links]
  | str t => rw [value, value, expand_congr h.links]
  | arr items =>
    have hitems := attach_map_congr fun item (hm : item ∈ items) =>
      value_congr h item ((Json.height_le_of_mem hm).trans hv)
    rw [value, value]
    exact congrArg joinBlocks hitems
  | obj fields =>
    rw [value, value]
    exact block_congr h ⟨fields⟩ hv
termination_by (sizeOf v, 3)
decreasing_by
  all_goals
    subst_vars
    decreasing_tactic

theorem block_congr {s s' : Style} {d d' : UInt64} {n : Nat} (h : Alike s s' d d' n)
    (r : Record) (hr : r.height ≤ n) : block s r d = block s' r d' := by
  have hpos := r.height_pos
  have hn : 0 < n := hpos.trans_le hr
  have hchildren := children_congr h r (by omega)
  have hinside := children_congr h.deeper r (by omega)
  have hexpand := expand_congr h.links
  rw [block, block]
  cases r.kind with
  | sectionBlock | entry | entries | variantInner =>
    dsimp only
    rw [hinside, h.underHeading_eq hn]
  | options | homebrew => exact hchildren
  | wrapper => exact field_congr h r "wrapped" (by omega)
  | list => exact list_congr h r hr
  | table => exact table_congr h r hr
  | tableGroup =>
    have htables := attach_map_congr fun t (ht : t ∈ r.records "tables") =>
      table_congr h t ((Record.height_records ht).le.trans hr)
    dsimp only
    rw [hexpand, htables]
  | row =>
    have hcells := attach_map_congr fun c (hc : c ∈ r.array "row") =>
      cell_congr h c ((Record.height_array hc).trans_le hr)
    exact congrArg (" | ".intercalate ·) hcells
  | cell => exact cellText_congr h r hr
  | inset | flowBlock | variant | insetReadaloud =>
    dsimp only
    rw [hinside, hexpand]
  | quote =>
    dsimp only
    rw [hinside, attribution?_congr h.links]
  | variantSub | item | itemSub | itemSpell =>
    dsimp only
    rw [hinside, ledByName_congr h.links]
  | inline | inlineBlock => exact runIn_congr h r (by omega)
  | image => exact image_congr h.links r
  | gallery =>
    dsimp only
    rw [funext (image_congr h.links)]
  | link => exact linkBlock_congr h.links r
  | abilityDc => exact saveFormula_congr h.links r
  | abilityAttackMod => exact attackFormula_congr h.links r
  | abilityGeneric => exact genericFormula_congr h.links r
  | statblock | statblockInline => exact statblock_congr h.links r
  | hr | bonus | bonusSpeed | dice | code => rfl
  | flowchart => exact congrArg joinBlocks (elements_congr h.deeper r "blocks" (by omega))
  | spellcasting =>
    dsimp only
    rw [field_congr h.deeper r "headerEntries" (by omega),
      field_congr h.deeper r "footerEntries" (by omega), spellcastingBlock_congr h.links]
  | refClassFeature | refSubclassFeature | refOptionalFeature => exact seeAlso_congr h.links r _
  | unknown =>
    dsimp only
    rw [hinside, h.underHeading_eq hn]
termination_by (sizeOf r, 2)
decreasing_by
  all_goals first
    | exact Prod.Lex.right _ (by decide)
    | exact Prod.Lex.left _ _ (Record.sizeOf_array ‹_›)
    | exact Prod.Lex.left _ _ (Record.sizeOf_records ‹_›)

theorem children_congr {s s' : Style} {d d' : UInt64} {n : Nat} (h : Alike s s' d d' n)
    (r : Record) (hr : r.height ≤ n + 1) : children s r d = children s' r d' := by
  rw [children, children]
  split
  · next v hv =>
    exact value_congr h v (Nat.lt_succ_iff.1 ((Record.height_children? hv).trans_le hr))
  · rfl
termination_by (sizeOf r, 0)
decreasing_by
  have := Record.sizeOf_children? ‹_›
  omega

theorem field_congr {s s' : Style} {d d' : UInt64} {n : Nat} (h : Alike s s' d d' n)
    (r : Record) (key : String) (hr : r.height ≤ n + 1) :
    field s r key d = field s' r key d' := by
  rw [field, field]
  split
  · next v hv => exact value_congr h v (Nat.lt_succ_iff.1 ((Record.height_get? hv).trans_le hr))
  · rfl
termination_by (sizeOf r, 0)
decreasing_by
  have := Record.sizeOf_get? ‹_›
  omega

theorem elements_congr {s s' : Style} {d d' : UInt64} {n : Nat} (h : Alike s s' d d' n)
    (r : Record) (key : String) (hr : r.height ≤ n + 1) :
    elements s r key d = elements s' r key d' := by
  rw [elements, elements]
  exact attach_map_congr fun v (hv : v ∈ r.array key) =>
    value_congr h v (Nat.lt_succ_iff.1 ((Record.height_array hv).trans_le hr))
termination_by (sizeOf r, 0)
decreasing_by
  have := Record.sizeOf_array ‹_ ∈ _›
  omega

theorem runIn_congr {s s' : Style} {d d' : UInt64} {n : Nat} (h : Alike s s' d d' n)
    (r : Record) (hr : r.height ≤ n + 1) : runIn s r d = runIn s' r d' := by
  have hvalues := fun v (hv : v ∈ r.array "entries") =>
    value_congr h v (Nat.lt_succ_iff.1 ((Record.height_array hv).trans_le hr))
  rw [runIn, runIn]
  refine congrArg (fun texts => Text.trim (String.join texts)) (List.map_congr_left ?_)
  rintro ⟨v, hv⟩ -
  dsimp only
  rw [hvalues v hv, mode_congr h.links]
termination_by (sizeOf r, 0)
decreasing_by
  have := Record.sizeOf_array ‹_ ∈ _›
  omega

theorem list_congr {s s' : Style} {d d' : UInt64} {n : Nat} (h : Alike s s' d d' n)
    (r : Record) (hr : r.height ≤ n) : list s r d = list s' r d' := by
  have hitems := fun v (hv : v ∈ r.array "items") =>
    listItem_congr h.deeper v (Nat.le_sub_one_of_lt ((Record.height_array hv).trans_le hr))
  rw [list, list]
  exact congrArg ("\n".intercalate ·) (List.filterMap_congr fun ⟨v, hv⟩ _ => hitems v hv)
termination_by (sizeOf r, 0)
decreasing_by
  have := Record.sizeOf_array ‹_ ∈ _›
  omega

theorem listItem_congr {s s' : Style} {d d' : UInt64} {n : Nat} (h : Alike s s' d d' n)
    (v : Json) (hv : v.height ≤ n) : listItem s v d = listItem s' v d' := by
  have hvalue := value_congr h v hv
  rw [listItem, listItem]
  split
  · exact congrArg bullet? hvalue
  · next r hrecord =>
    have hr : r.height ≤ n := (Record.height_record? hrecord).trans_le hv
    rw [list_congr h r hr, children_congr h r (hr.trans (Nat.le_succ n)), hvalue]
    simp only [namedBullet?_congr h.links]
termination_by (sizeOf v, 4)
decreasing_by
  all_goals first
    | exact Prod.Lex.right _ (by decide)
    | rw [Record.sizeOf_record? ‹_›]; exact Prod.Lex.right _ (by decide)

theorem cellText_congr {s s' : Style} {d d' : UInt64} {n : Nat} (h : Alike s s' d d' n)
    (r : Record) (hr : r.height ≤ n) : cellText s r d = cellText s' r d' := by
  rw [cellText, cellText, children_congr h.deeper r (by omega)]
termination_by (sizeOf r, 1)

theorem cell_congr {s s' : Style} {d d' : UInt64} {n : Nat} (h : Alike s s' d d' n)
    (v : Json) (hv : v.height < n) : cell s v d = cell s' v d' := by
  have hvalue := value_congr h.deeper v (Nat.le_sub_one_of_lt hv)
  rw [cell, cell]
  refine congrArg escapeCell ?_
  split
  · exact hvalue
  · next r hrecord =>
    rw [cellText_congr h r ((Record.height_record? hrecord).trans_le hv.le), hvalue]
termination_by (sizeOf v, 4)
decreasing_by
  all_goals first
    | exact Prod.Lex.right _ (by decide)
    | rw [Record.sizeOf_record? ‹_›]; exact Prod.Lex.right _ (by decide)

theorem table_congr {s s' : Style} {d d' : UInt64} {n : Nat} (h : Alike s s' d d' n)
    (r : Record) (hr : r.height ≤ n) : table s r d = table s' r d' := by
  have hlabels := attach_map_congr fun c (hc : c ∈ r.array "colLabels") =>
    cell_congr h c ((Record.height_array hc).trans_le hr)
  have hrows := attach_map_congr fun row (hrow : row ∈ tableRows r) =>
    attach_map_congr fun c (hc : c ∈ row) =>
      cell_congr h c ((Record.height_tableRows hrow hc).trans_le hr)
  rw [table, table, hlabels, hrows, field_congr h r "intro" (by omega),
    elements_congr h r "footnotes" (by omega), field_congr h r "outro" (by omega),
    expand_congr h.links]
termination_by (sizeOf r, 1)
decreasing_by
  all_goals first
    | exact Prod.Lex.right _ (by decide)
    | exact Prod.Lex.left _ _ (Record.sizeOf_array ‹_›)
    | exact Prod.Lex.left _ _ (sizeOf_tableRows ‹_› ‹_›)

end

/-! ### Levels -/

end Render

end Compendium
