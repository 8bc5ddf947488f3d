import Compendium.Export.Plan
import Compendium.Proofs.Conversion.Accounts
import Compendium.Proofs.Index.InputOrder
import Compendium.Proofs.Index.Rows

/-!
# Indexes that no order shows

The global index and the keyword index are the same for every order of the entries: their
rows show all that they are sorted by.  The other views show more of an entry than they
are sorted by, but all of them are sorted by its path too.  So they are the same for every
order if no two entries have one path, as in a run whose documents get paths of their own.

* `indexes_hide_order`: both facts, and that such runs have distinct paths.
-/

namespace Compendium

theorem GlobalIndex.ofEntries_perm {entries permuted : List Entry} (h : entries.Perm permuted) :
    ofEntries permuted = ofEntries entries := by
  rw [ofEntries_eq, ofEntries_eq, sort_rows_perm (h.map Row.ofEntry)]

theorem KeywordIndex.ofEntries_perm {entries permuted : List Entry} (h : entries.Perm permuted) :
    ofEntries permuted = ofEntries entries := by
  rw [ofEntries_eq, ofEntries_eq, ofTags_perm (h.flatMap_right Tag.ofEntry)]

/-! ### Distinct paths -/

/-- No two entries have one path. -/
def Entry.PathsDistinct (entries : List Entry) : Prop :=
  (entries.map Entry.path).Nodup

section Distinct

variable {entries permuted : List Entry} (hd : Entry.PathsDistinct entries)

include hd

theorem Entry.PathsDistinct.eq_of_path {a b : Entry} (ha : a ∈ entries) (hb : b ∈ entries)
    (h : a.path = b.path) : a = b :=
  List.inj_on_of_nodup_map hd ha hb h

/-- Entries of distinct paths never tie. -/
theorem Entry.PathsDistinct.eq_of_order {a b : Entry} (ha : a ∈ entries) (hb : b ∈ entries)
    (h : Entry.order a b = .eq) : a = b := by
  have hrow : GlobalIndex.Row.ofEntry a = GlobalIndex.Row.ofEntry b :=
    GlobalIndex.Row.order_eq_iff.1 h
  exact hd.eq_of_path ha hb (congrArg GlobalIndex.Row.path hrow)

theorem Catalog.ofCategory_perm (h : entries.Perm permuted) (c : Category) :
    ofCategory ⟨permuted⟩ c = ofCategory ⟨entries⟩ c := by
  refine (Sorting.sort_eq_of_perm (h.filter _) fun a ha b hb hab => ?_).symm
  exact hd.eq_of_order (List.mem_filter.1 ha).1 (List.mem_filter.1 hb).1 hab

theorem QuickReference.summariesAgree : SummariesAgree entries := by
  intro a ha b hb _ _ _ hp
  rw [hd.eq_of_path ha hb hp]

theorem CrossReference.referencesAgree (x : CrossReference) : x.ReferencesAgree entries := by
  intro a ha b hb _ _ _ _ hp
  rw [hd.eq_of_path ha hb hp]
  exact ⟨rfl, rfl⟩

end Distinct

/-- **Where documents get paths of their own, entries have distinct ones.** -/
theorem Converter.pathsDistinct_run {settings : Settings}
    (hs : settings.collision = .suffixSource) (calls : List Call) :
    Entry.PathsDistinct ((new settings).run calls).2.catalog.entries := by
  rw [Entry.PathsDistinct, (kept_run settings calls).map_path]
  exact nodup_paths_run hs calls

/-! ### All views -/

/-- **What the order of the entries never shows in**: the global index with all that is
looked up in it, and the keyword index; and, if no two entries have one path, the entries
of each category, the quick references, the cross references and the listing pages.  Runs
whose documents get paths of their own have such entries. -/
theorem indexes_hide_order :
    (∀ entries permuted : List Entry, entries.Perm permuted →
      GlobalIndex.ofEntries permuted = GlobalIndex.ofEntries entries ∧
      KeywordIndex.ofEntries permuted = KeywordIndex.ofEntries entries ∧
      ((entries.map Entry.path).Nodup →
        (∀ c, Catalog.ofCategory ⟨permuted⟩ c = Catalog.ofCategory ⟨entries⟩ c) ∧
        QuickReference.ofEntries permuted = QuickReference.ofEntries entries ∧
        (∀ x : CrossReference, x.groups permuted = x.groups entries) ∧
        Export.pagesOf permuted = Export.pagesOf entries)) ∧
    ∀ (settings : Settings) (calls : List Converter.Call), settings.collision = .suffixSource →
      (((Converter.new settings).run calls).2.catalog.entries.map Entry.path).Nodup := by
  refine ⟨fun entries permuted h => ⟨GlobalIndex.ofEntries_perm h, KeywordIndex.ofEntries_perm h,
    fun hd => ?_⟩, fun settings calls hs => Converter.pathsDistinct_run hs calls⟩
  have hquick : QuickReference.ofEntries permuted = QuickReference.ofEntries entries :=
    (QuickReference.ofEntries_perm_iff entries).2 (QuickReference.summariesAgree hd) permuted h
  refine ⟨Catalog.ofCategory_perm hd h, hquick, fun x => ?_, ?_⟩
  · exact (x.groups_perm_iff entries).2 (x.referencesAgree hd) permuted h
  · rw [Export.pagesOf, Export.pagesOf, hquick]

/-- Two shields whose names differ in case alone, one of them without a source, in one
school that is written in two ways; and a run of two orbs of one name. -/
theorem indexes_hide_order_shields :
    let shield : Entry := ⟨"Shield", .spell, some "PHB", "spells/shield.md",
      ⟨[("school", .text "Abjuration")]⟩⟩
    let other : Entry := ⟨"shield", .spell, none, "spells/shield-2.md",
      ⟨[("school", .text " abjuration")]⟩⟩
    let orb : Json := .obj [("name", .str "Orb"), ("source", .str "DMG")]
    GlobalIndex.ofEntries [other, shield] = GlobalIndex.ofEntries [shield, other] ∧
      ([shield, other].map Entry.path).Nodup ∧
      QuickReference.ofEntries [other, shield] = QuickReference.ofEntries [shield, other] ∧
      (((Converter.new .default).run [.records .item [orb, orb]]).2.catalog.entries.map
        Entry.path).Nodup := by
  intro shield other orb
  have hperm : [shield, other].Perm [other, shield] := List.Perm.swap other shield []
  have hdistinct : ([shield, other].map Entry.path).Nodup := by decide
  refine ⟨(indexes_hide_order.1 _ _ hperm).1, hdistinct, ?_, ?_⟩
  · exact ((indexes_hide_order.1 _ _ hperm).2.2 hdistinct).2.1
  · exact indexes_hide_order.2 .default _ rfl

end Compendium
