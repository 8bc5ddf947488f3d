import Compendium.Proofs.Conversion.Freshness
import Compendium.Proofs.Document.Styles
import Compendium.Proofs.Index.InputOrder
import Compendium.Proofs.Index.Rows

/-!
# Where the style of a run shows

Two runs of the same calls whose settings differ in the style alone take the same steps:
a record comes to the same in both, up to its body and to facets that hold text as it is
shown, and nothing else enters the paths, the counts and the order of the catalog
(`convertRecord_alike`).  Of the facets that differ no index reads one, except for the
summaries of the quick references.

* `style_shows_in_bodies_and_summaries`: what is the same in both runs.
-/

namespace Compendium

/-! ### Summaries -/

/-- A quick reference without its summary. -/
def QuickReference.withoutSummary (q : QuickReference) : QuickReference :=
  { q with summary := "" }

theorem Category.map_lists {α β : Type} (f : Category → List α) (g : α → β) :
    (lists f).map (fun p => (p.1, p.2.map g)) = lists fun c => (f c).map g := by
  simp only [lists, List.filter_map, List.map_map]
  congr 1
  refine List.filter_congr fun c _ => ?_
  simp only [Function.comp, List.isEmpty_map]

/-- Summaries do not enter the order of quick references. -/
theorem QuickReference.map_withoutSummary_ofEntries (entries : List Entry) :
    (ofEntries entries).map (fun p => (p.1, p.2.map withoutSummary)) =
      Category.lists fun c => Sorting.sort order ((linesOf c entries).map withoutSummary) := by
  rw [ofEntries_eq, Category.map_lists, Category.lists_inj]
  exact fun c => Sorting.map_sort fun _ _ _ _ => rfl

/-! ### Entries that differ in what is shown -/

namespace Entry.Alike

variable {e e' : Entry} (h : e.Alike e')

include h

theorem row_eq : GlobalIndex.Row.ofEntry e = GlobalIndex.Row.ofEntry e' := by
  simp only [GlobalIndex.Row.ofEntry, h.name, h.category, h.source, h.path]

theorem values_eq {key : String} (hkey : key ∉ Document.shownFacets) :
    e.facets.values key = e'.facets.values key := by
  rw [Facets.values, Facets.values, h.facets key hkey]

/-- No keyword is text as it is shown. -/
theorem tags_eq : KeywordIndex.Tag.ofEntry e = KeywordIndex.Tag.ofEntry e' := by
  have hshown : ∀ key ∈ KeywordIndex.facetKeys, key ∉ Document.shownFacets := by decide
  have hvalues : KeywordIndex.facetKeys.flatMap e.facets.values =
      KeywordIndex.facetKeys.flatMap e'.facets.values :=
    List.flatMap_congr fun key hk => h.values_eq (hshown key hk)
  simp only [KeywordIndex.Tag.ofEntry, KeywordIndex.keywordsOf, KeywordIndex.Reference.ofEntry,
    hvalues, h.name, h.category, h.path]

/-- No cross reference groups by text as it is shown. -/
theorem placements_eq (x : CrossReference) :
    ((CrossReference.keys x.facet e).map fun key => (key, Reference.ofEntry e)) =
      (CrossReference.keys x.facet e').map fun key => (key, Reference.ofEntry e') := by
  have hshown : x.facet ∉ Document.shownFacets := by cases x <;> decide
  simp only [CrossReference.keys, Reference.ofEntry, h.facets _ hshown, h.values_eq hshown, h.name,
    h.path, h.source]

theorem line_eq :
    (QuickReference.ofEntry e).withoutSummary = (QuickReference.ofEntry e').withoutSummary := by
  simp only [QuickReference.ofEntry, QuickReference.withoutSummary, h.name, h.path, h.source]

end Entry.Alike

section Indexes

variable {entries entries' : List Entry} (h : List.Forall₂ Entry.Alike entries entries')

include h

theorem GlobalIndex.ofEntries_alike : ofEntries entries = ofEntries entries' := by
  rw [ofEntries_eq, ofEntries_eq, map_eq_of_forall₂ h fun _ _ => Entry.Alike.row_eq]

theorem KeywordIndex.ofEntries_alike : ofEntries entries = ofEntries entries' := by
  rw [ofEntries_eq, ofEntries_eq, List.flatMap_def, List.flatMap_def,
    map_eq_of_forall₂ h fun _ _ => Entry.Alike.tags_eq]

/-- The entries of a category are alike. -/
theorem filter_alike (c : Category) :
    List.Forall₂ Entry.Alike (entries.filter fun e => e.category = c)
      (entries'.filter fun e => e.category = c) := by
  refine List.rel_filter (fun e e' he => ?_) h
  simp only [he.category]

theorem CrossReference.groups_alike (x : CrossReference) :
    x.groups entries = x.groups entries' := by
  have hplacements : x.placements entries = x.placements entries' := by
    rw [placements, placements, List.flatMap_def, List.flatMap_def,
      map_eq_of_forall₂ (filter_alike h x.category) fun _ _ he => he.placements_eq x]
  rw [groups, groups, hplacements]

/-- Quick references are alike up to their summaries. -/
theorem QuickReference.ofEntries_alike :
    (ofEntries entries).map (fun p => (p.1, p.2.map withoutSummary)) =
      (ofEntries entries').map fun p => (p.1, p.2.map withoutSummary) := by
  rw [map_withoutSummary_ofEntries, map_withoutSummary_ofEntries, Category.lists_inj]
  intro c
  rw [linesOf, linesOf, List.map_map, List.map_map]
  exact congrArg (Sorting.sort order)
    (map_eq_of_forall₂ (filter_alike h c) fun _ _ he => he.line_eq)

end Indexes

namespace Converter

/-! ### Two runs -/

/-- Two runs that differ at most in their styles and in what entries show. -/
structure Alike (c c' : Converter) : Prop where
  sources : c.settings.sources = c'.settings.sources
  collision : c.settings.collision = c'.settings.collision
  paths : c.paths = c'.paths
  stats : c.stats = c'.stats
  entries : List.Forall₂ Entry.Alike c.catalog.entries c'.catalog.entries

variable {c c' : Converter}

theorem Alike.sourceFilter (h : c.Alike c') :
    c.settings.sourceFilter = c'.settings.sourceFilter := by
  rw [Settings.sourceFilter, Settings.sourceFilter, h.sources]

/-- Documents that are alike get one path. -/
theorem accept_alike (h : c.Alike c') {d d' : Document} {e e' : Entry} (hd : d.Alike d')
    (he : e.Alike e') :
    (c.accept d e).1.Alike (c'.accept d' e').1 ∧ (c.accept d e).2.Alike (c'.accept d' e').2 := by
  have hpath : (c.accept d e).1.path = (c'.accept d' e').1.path := by
    rw [accept_path, accept_path, h.paths, h.collision, hd.path, hd.source]
  constructor
  · rw [accept_document c d e, accept_document c' d' e', hpath]
    exact hd.move _
  refine ⟨h.sources, h.collision, ?_, ?_, ?_⟩
  · rw [accept_paths, accept_paths, h.paths, hpath]
  · rw [accept_stats, accept_stats, h.stats, h.paths, hd.path]
  · rw [accept_entries, accept_entries, hpath]
    exact List.rel_append h.entries (.cons (he.move _) .nil)

/-- **A record does the same to both runs.** -/
theorem convertRecord_alike (category : Category) (v : Json) (h : c.Alike c') :
    List.Forall₂ Document.Alike (c.convertRecord category v).1.toList
        (c'.convertRecord category v).1.toList ∧
      (c.convertRecord category v).2.Alike (c'.convertRecord category v).2 := by
  have hbuild := Document.build_alike c.settings.style c'.settings.style
    c'.settings.sourceFilter category v
  unfold convertRecord
  rw [h.sourceFilter]
  generalize Document.build c.settings.style c'.settings.sourceFilter category v = outcome at *
  generalize Document.build c'.settings.style c'.settings.sourceFilter category v = outcome' at *
  cases hbuild with
  | built hd he =>
    obtain ⟨hdocument, hrest⟩ := accept_alike h hd he
    exact ⟨.cons hdocument .nil, hrest⟩
  | filtered name source? =>
    exact ⟨.nil, h.sources, h.collision, h.paths, by rw [h.stats], h.entries⟩
  | unnamed => exact ⟨.nil, h.sources, h.collision, h.paths, by rw [h.stats], h.entries⟩

/-- **The style shows in bodies and in summaries alone.**  Two runs of the same calls, whose
settings differ in the links and in the level of headings, make documents that are the same
up to their bodies, count the same, take the same paths and have the same global index, cross
references and keyword index, and the same quick references up to their summaries. -/
theorem style_shows_in_bodies_and_summaries (settings : Settings) (baseLevel : Nat)
    (linkReferences : Bool) (calls : List Call) :
    let first := (new settings).run calls
    let second := (new { settings with
      baseLevel := baseLevel, linkReferences := linkReferences }).run calls
    let entries := first.2.catalog.entries
    let entries' := second.2.catalog.entries
    List.Forall₂ Document.Alike first.1 second.1 ∧
    first.2.stats = second.2.stats ∧
    first.2.paths = second.2.paths ∧
    GlobalIndex.ofEntries entries = GlobalIndex.ofEntries entries' ∧
    (∀ x : CrossReference, x.groups entries = x.groups entries') ∧
    KeywordIndex.ofEntries entries = KeywordIndex.ofEntries entries' ∧
    (QuickReference.ofEntries entries).map (fun p => (p.1, p.2.map QuickReference.withoutSummary)) =
      (QuickReference.ofEntries entries').map
        fun p => (p.1, p.2.map QuickReference.withoutSummary) := by
  intro first second entries entries'
  have hnew : (new settings).Alike (new { settings with
      baseLevel := baseLevel, linkReferences := linkReferences }) :=
    ⟨rfl, rfl, rfl, rfl, .nil⟩
  obtain ⟨hdocuments, hend⟩ := run_related (fun _ _ => convertRecord_alike) calls hnew
  exact ⟨hdocuments, hend.stats, hend.paths, GlobalIndex.ofEntries_alike hend.entries,
    CrossReference.groups_alike hend.entries, KeywordIndex.ofEntries_alike hend.entries,
    QuickReference.ofEntries_alike hend.entries⟩

end Converter

end Compendium
