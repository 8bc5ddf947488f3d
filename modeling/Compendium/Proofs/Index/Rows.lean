import Compendium.Index.CrossReference
import Compendium.Index.Global
import Compendium.Index.Keyword
import Compendium.Proofs.Distinct
import Compendium.Proofs.Index.Sorting

/-!
# What the indexes read of entries

Each index is made of rows that it takes from the entries one by one, and sorts them by
what the rows show: the global index has one row of each entry (`GlobalIndex.ofEntries_eq`),
the keyword index one tag for each keyword of an entry (`KeywordIndex.ofEntries_eq`).
Their orders tell any two rows apart, so neither index keeps anything of the order in
which the rows came.
-/

namespace Compendium

theorem Category.rank_injective : Function.Injective Category.rank := by
  intro c d h
  exact (List.idxOf_inj (mem_all c)).1 h

/-! ### The global index -/

namespace GlobalIndex

/-- The order of rows: that of their entries. -/
def Row.order : Row → Row → Ordering :=
  compareLex (compareOn fun r => Text.lower r.name) <|
  compareLex (compareOn fun r => r.name) <|
  compareLex (compareOn fun r => r.category.rank) <|
  compareLex (compareOn fun r => r.source?) (compareOn fun r => r.path)

instance : Std.TransCmp Row.order := by
  unfold Row.order
  infer_instance

/-- Only equal rows tie. -/
theorem Row.order_eq_iff {p q : Row} : Row.order p q = .eq ↔ p = q := by
  simp only [order, compareLex_eq_eq, compareOn, Std.LawfulEqCmp.compare_eq_iff_eq]
  constructor
  · rintro ⟨-, hn, hc, hs, hp⟩
    obtain ⟨name, category, source?, path⟩ := p
    obtain rfl := Category.rank_injective hc
    obtain rfl : name = q.name := hn
    obtain rfl : source? = q.source? := hs
    obtain rfl : path = q.path := hp
    rfl
  · rintro rfl
    exact ⟨rfl, rfl, rfl, rfl, rfl⟩

/-- **The global index sorts the rows of the entries.** -/
theorem ofEntries_eq (entries : List Entry) :
    ofEntries entries = ofRows (Sorting.sort Row.order (entries.map Row.ofEntry)) :=
  congrArg ofRows (Sorting.map_sort fun _ _ _ _ => rfl)

/-- **Rows come out in one order**, whatever order they came in. -/
theorem sort_rows_perm {rows permuted : List Row} (h : rows.Perm permuted) :
    Sorting.sort Row.order rows = Sorting.sort Row.order permuted :=
  Sorting.sort_eq_of_perm h fun _ _ _ _ => Row.order_eq_iff.1

end GlobalIndex

/-! ### The keyword index -/

namespace KeywordIndex

instance : Std.TransCmp Reference.order := by
  unfold Reference.order
  infer_instance

/-- Only equal references tie. -/
theorem Reference.order_eq_iff {p q : Reference} : Reference.order p q = .eq ↔ p = q := by
  simp only [order, compareLex_eq_eq, compareOn, Std.LawfulEqCmp.compare_eq_iff_eq]
  constructor
  · rintro ⟨-, hn, hp⟩
    obtain ⟨name, path⟩ := p
    obtain rfl : name = q.name := hn
    obtain rfl : path = q.path := hp
    rfl
  · rintro rfl
    exact ⟨rfl, rfl, rfl⟩

theorem Reference.sortDistinct_perm {references permuted : List Reference}
    (h : references.Perm permuted) :
    Reference.sortDistinct references = Reference.sortDistinct permuted :=
  congrArg List.eraseReps (Sorting.sort_eq_of_perm h fun _ _ _ _ => Reference.order_eq_iff.1)

/-- A reference with the keyword and the category under which it stands. -/
structure Tag where
  keyword : String
  category : Category
  reference : Reference

/-- The tags of an entry, one for each of its keywords. -/
def Tag.ofEntry (e : Entry) : List Tag :=
  (keywordsOf e).map fun keyword => ⟨keyword, e.category, .ofEntry e⟩

/-- The references that tags put under a keyword and a category. -/
def Tag.references (tags : List Tag) (keyword : String) (c : Category) : List Reference :=
  ((tags.filter fun t => t.keyword = keyword).filter fun t => t.category = c).map Tag.reference

/-- The keyword index of tags. -/
def ofTags (tags : List Tag) : KeywordIndex :=
  ⟨(Text.sortDistinct (tags.map Tag.keyword)).map fun keyword =>
    (keyword, Category.lists fun c => Reference.sortDistinct (Tag.references tags keyword c))⟩

/-- **The keyword index reads the tags of the entries.** -/
theorem ofEntries_eq (entries : List Entry) :
    ofEntries entries = ofTags (entries.flatMap Tag.ofEntry) := by
  -- A tag is a keyword with an entry of which only the reference is kept.
  have htags : entries.flatMap Tag.ofEntry =
      (entries.flatMap fun e => (keywordsOf e).map fun keyword => (keyword, e)).map
        fun p => ⟨p.1, p.2.category, .ofEntry p.2⟩ := by
    rw [List.map_flatMap]
    refine List.flatMap_congr fun e _ => ?_
    rw [Tag.ofEntry, List.map_map]
    rfl
  rw [htags, ofEntries, ofTags, List.map_map]
  refine congrArg KeywordIndex.mk (List.map_congr_left fun keyword _ => ?_)
  refine congrArg (Prod.mk keyword) ?_
  rw [referencesOf, Category.lists_inj]
  intro c
  rw [Tag.references, List.filter_map, List.filter_map, List.filter_map, List.map_map,
    List.map_map]
  rfl

/-- **Tags make one index**, whatever order they came in. -/
theorem ofTags_perm {tags permuted : List Tag} (h : tags.Perm permuted) :
    ofTags tags = ofTags permuted := by
  have hreferences : ∀ keyword c,
      Reference.sortDistinct (Tag.references tags keyword c) =
        Reference.sortDistinct (Tag.references permuted keyword c) := fun keyword c =>
    Reference.sortDistinct_perm (((h.filter _).filter _).map _)
  rw [ofTags, ofTags, Text.sortDistinct_eq_of_perm (h.map Tag.keyword)]
  simp only [hreferences]

end KeywordIndex

end Compendium
