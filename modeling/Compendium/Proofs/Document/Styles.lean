import Compendium.Document.Build
import Compendium.Proofs.Inline.PlainText

/-!
# What a style can reach

A style enters a document through the texts it expands.  The name of a document is
expanded as plain text, which is the same in every style, and its path comes from the
name.  Facets are read off the record as it stands, with two exceptions: the
prerequisite of a feat and the time of an action are texts as they are shown
(`get?_facets`).

* `build_alike`: in two styles, a record is built or skipped alike, and what is built
  differs at most in the body and in those two facets.
-/

namespace Compendium

namespace Facets

theorem get?_insert_of_ne (f : Facets) {key other : String} (h : other ≠ key) (value : Facet) :
    (f.insert key value).get? other = f.get? other := by
  unfold insert
  split
  · exact Assoc.lookup_insert_of_ne h value f.toList
  · rfl

theorem get?_insert?_of_ne (f : Facets) {key other : String} (h : other ≠ key)
    (value : Option Facet) : (f.insert? key value).get? other = f.get? other := by
  cases value with
  | none => rfl
  | some v => exact f.get?_insert_of_ne h v

end Facets

namespace Document

open Compendium.Render (Style)

/-! ### Facets -/

/-- The facets that hold text as it is shown. -/
def shownFacets : List String := ["prerequisite", "time"]

variable (s s' : Style) (r : Record)

/-- Whether an item requires attunement does not depend on how that is worded. -/
theorem isSome_attunement? : (Item.attunement? s r).isSome = (Item.attunement? s' r).isSome := by
  unfold Item.attunement?
  cases r.get? "reqAttune" with
  | none => simp only
  | some v =>
    cases v with
    | bool b => cases b <;> simp only
    | str text =>
      by_cases h : Text.isBlank text = true
      · simp only [if_pos h]
      · simp only [if_neg h, Option.isSome_some]
    | _ => simp only

theorem facets_item : Item.facets s r = Item.facets s' r := by
  simp only [Item.facets, isSome_attunement? s s' r]

theorem get?_facets_feat {key : String} (h : key ≠ "prerequisite") :
    (Feat.facets s r).get? key = (Feat.facets s' r).get? key := by
  rw [Feat.facets, Feat.facets, Facets.get?_insert?_of_ne _ h, Facets.get?_insert?_of_ne _ h]

theorem get?_facets_action {key : String} (h : key ≠ "time") :
    (Action.layout.facets s r).get? key = (Action.layout.facets s' r).get? key := by
  simp only [Action.layout]
  rw [Facets.get?_insert?_of_ne _ h, Facets.get?_insert?_of_ne _ h]

/-- **No other facet depends on the style.** -/
theorem get?_facets (category : Category) {key : String} (h : key ∉ shownFacets) :
    ((layoutOf category).facets s r).get? key = ((layoutOf category).facets s' r).get? key := by
  simp only [shownFacets, List.mem_cons, List.not_mem_nil, or_false, not_or] at h
  cases category with
  | item => exact congrArg (Facets.get? · key) (facets_item s s' r)
  | equipment => exact congrArg (Facets.get? · key) (facets_item s s' r)
  | feat => exact get?_facets_feat s s' r h.1
  | action => exact get?_facets_action s s' r h.2
  | _ => rfl

/-! ### Documents and entries -/

/-- The name of a document is the same in every style. -/
theorem displayName?_eq : displayName? s r = displayName? s' r := by
  simp only [displayName?, Style.plainText_eq]

/-- Documents that differ at most in their bodies. -/
structure Alike (d d' : Document) : Prop where
  name : d.name = d'.name
  source : d.source? = d'.source?
  page : d.page? = d'.page?
  category : d.category = d'.category
  path : d.path = d'.path

/-- Documents that are alike may be moved to one path. -/
theorem Alike.move {d d' : Document} (h : d.Alike d') (path : String) :
    Alike { d with path := path } { d' with path := path } :=
  ⟨h.name, h.source, h.page, h.category, rfl⟩

end Document

/-- Entries that differ at most in the facets that hold text as it is shown. -/
structure Entry.Alike (e e' : Entry) : Prop where
  name : e.name = e'.name
  category : e.category = e'.category
  source : e.source? = e'.source?
  path : e.path = e'.path
  facets : ∀ key ∉ Document.shownFacets, e.facets.get? key = e'.facets.get? key

/-- Entries that are alike may point to one path. -/
theorem Entry.Alike.move {e e' : Entry} (h : e.Alike e') (path : String) :
    Entry.Alike { e with path := path } { e' with path := path } :=
  ⟨h.name, h.category, h.source, rfl, h.facets⟩

namespace Document

open Compendium.Render (Style)

/-- Outcomes that differ at most in the body and in the facets that hold text as it is
shown. -/
inductive Outcome.Alike : Outcome → Outcome → Prop where
  | built {d d' : Document} {e e' : Entry} (hd : d.Alike d') (he : e.Alike e') :
    Alike (.built d e) (.built d' e')
  | filtered (name : String) (source? : Option String) :
    Alike (.filtered name source?) (.filtered name source?)
  | unnamed : Alike .unnamed .unnamed

/-- **A record comes to the same in every style**, up to text as it is shown. -/
theorem build_alike (s s' : Style) (filter : SourceFilter) (category : Category) (v : Json) :
    (build s filter category v).Alike (build s' filter category v) := by
  unfold build
  cases v.record? with
  | none => exact .unnamed
  | some r =>
    dsimp only
    rw [displayName?_eq s s' r]
    cases displayName? s' r with
    | none => exact .unnamed
    | some name =>
      dsimp only
      split
      · refine .built ⟨rfl, rfl, rfl, rfl, rfl⟩ ⟨rfl, rfl, rfl, rfl, fun key h => ?_⟩
        exact get?_facets s s' r category h
      · exact .filtered name _

end Document

end Compendium
