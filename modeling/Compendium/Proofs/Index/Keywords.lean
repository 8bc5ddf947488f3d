import Compendium.Proofs.Assoc
import Compendium.Proofs.Case
import Compendium.Proofs.Index.Rows
import Compendium.Proofs.Index.Views

/-!
# What stands under a keyword

The keyword index turns the keyword facets of the entries around.  It is made of tags, one for
each keyword that an entry carries (`KeywordIndex.mem_tags`), and a reference stands under a
keyword and a category exactly if there is such a tag (`KeywordIndex.mem_references`), however
often an entry repeats a value.  Keywords are compared in lower case and without white space
around them; both are done once for good (`KeywordIndex.normalize_padded`), so every keyword finds
itself.

* `keywords_invert_facets`: what the index lists, in which order, and what a look-up returns.
-/

namespace Compendium

/-- What an entry carries as a keyword: a text that is not empty, and that a value of one of the
keyword facets is in lower case and without white space around it. -/
def Entry.Carries (e : Entry) (keyword : String) : Prop :=
  keyword ≠ "" ∧ ∃ key ∈ KeywordIndex.facetKeys, ∃ value,
    (e.facets.get? key = some (.text value) ∨
      ∃ items, e.facets.get? key = some (.list items) ∧ value ∈ items) ∧
    Text.lower (Text.trim value) = keyword

theorem Facets.mem_values {f : Facets} {key value : String} :
    value ∈ f.values key ↔
      f.get? key = some (.text value) ∨
        ∃ items, f.get? key = some (.list items) ∧ value ∈ items := by
  unfold values
  split
  · next t ht => simp [ht, eq_comm]
  · next items hitems => simp [hitems]
  · next htext hlist =>
    constructor
    · intro h
      cases h
    · rintro (h | ⟨items, h, -⟩)
      · exact absurd h (htext value)
      · exact absurd h (hlist items)

theorem Category.pairwise_lists {α : Type} (f : Category → List α) :
    (Category.lists f).Pairwise fun p q => p.1.rank < q.1.rank := by
  have hall : all.Pairwise fun c d => c.rank < d.rank := by decide
  have hkeys : ((lists f).map Prod.fst).Pairwise fun c d => c.rank < d.rank := by
    rw [map_fst_lists]
    exact hall.sublist List.filter_sublist
  rwa [List.pairwise_map] at hkeys

namespace KeywordIndex

/-! ### Keywords as they are compared -/

theorem normalize_padded (value : String) {front back : String} (hfront : Text.isBlank front = true)
    (hback : Text.isBlank back = true) :
    normalize (front ++ normalize value ++ back) = normalize value := by
  have htight : Chars.Tight (normalize value).toList := by
    rw [normalize, Text.lower, Text.trim, String.toList_ofList, String.toList_ofList]
    exact (Chars.tight_trim value.toList).lower
  have htrim : Text.trim (front ++ normalize value ++ back) = normalize value := by
    rw [Text.trim, String.toList_append, String.toList_append, htight.trim_padded hfront hback,
      String.ofList_toList]
  rw [normalize, htrim, normalize, Text.lower, Text.lower, String.toList_ofList, Chars.lower_lower]

theorem mem_keywordsOf {e : Entry} {keyword : String} :
    keyword ∈ keywordsOf e ↔ e.Carries keyword := by
  rw [keywordsOf, Text.mem_sortDistinct, List.mem_filter, List.mem_map, and_comm, Entry.Carries]
  simp only [List.mem_flatMap, Facets.mem_values, Bool.not_eq_true', String.isEmpty_eq_false_iff]
  refine and_congr_right fun _ => ?_
  constructor
  · rintro ⟨value, ⟨key, hkey, hvalue⟩, hnormal⟩
    exact ⟨key, hkey, value, hvalue, hnormal⟩
  · rintro ⟨key, hkey, value, hvalue, hnormal⟩
    exact ⟨value, ⟨key, hkey, hvalue⟩, hnormal⟩

/-! ### The order of references -/

namespace Reference

variable {r s : Reference}

/-- One reference stands in front of another one: its name is less in lower case, or less as it
stands, or its path is less. -/
def Before (r s : Reference) : Prop :=
  Text.lower r.name < Text.lower s.name ∨
    Text.lower r.name = Text.lower s.name ∧
      (r.name < s.name ∨ r.name = s.name ∧ r.path < s.path)

theorem order_eq_lt_iff : order r s = .lt ↔ r.Before s := by
  have hlt : ∀ s t : String, compare s t = .lt ↔ s < t := fun _ _ => compareOfLessAndEq_eq_lt
  simp only [order, compareLex, compareOn, Ordering.then_eq_lt, hlt,
    Std.LawfulEqCmp.compare_eq_iff_eq, Before]

theorem mem_sortDistinct {references : List Reference} :
    r ∈ sortDistinct references ↔ r ∈ references := by
  rw [sortDistinct, Text.mem_eraseReps, List.mem_mergeSort]

/-- **References come in strict order.** -/
theorem pairwise_sortDistinct (references : List Reference) :
    (sortDistinct references).Pairwise Before := by
  have hsorted := Sorting.pairwise_sort order references
  refine (Text.pairwise_eraseReps (fun a b hab hba => ?_) hsorted).imp ?_
  · exact order_eq_iff.1 (Std.OrientedCmp.isLE_antisymm hab hba)
  · rintro a b ⟨hab, hne⟩
    rw [← order_eq_lt_iff]
    cases h : order a b with
    | lt => rfl
    | eq => exact absurd (order_eq_iff.1 h) hne
    | gt =>
      rw [h] at hab
      cases hab

theorem Before.ne (h : r.Before s) : r ≠ s := by
  rintro rfl
  have heq : order r r = .eq := order_eq_iff.2 rfl
  rw [order_eq_lt_iff.2 h] at heq
  cases heq

end Reference

/-! ### Tags -/

section Tags

variable {entries : List Entry} {tags : List Tag} {keyword : String} {c : Category}
  {r : Reference} {lists : List (Category × List Reference)}

theorem mem_tags : (⟨keyword, c, r⟩ : Tag) ∈ entries.flatMap Tag.ofEntry ↔
    ∃ e ∈ entries, e.category = c ∧ Reference.ofEntry e = r ∧ e.Carries keyword := by
  simp only [List.mem_flatMap, Tag.ofEntry, List.mem_map, Tag.mk.injEq, mem_keywordsOf]
  constructor
  · rintro ⟨e, he, _, hcarries, rfl, rfl, rfl⟩
    exact ⟨e, he, rfl, rfl, hcarries⟩
  · rintro ⟨e, he, rfl, rfl, hcarries⟩
    exact ⟨e, he, keyword, hcarries, rfl, rfl, rfl⟩

theorem Tag.mem_references :
    r ∈ Tag.references tags keyword c ↔ (⟨keyword, c, r⟩ : Tag) ∈ tags := by
  simp only [references, List.mem_map, List.mem_filter, decide_eq_true_eq]
  constructor
  · rintro ⟨t, ⟨⟨ht, rfl⟩, rfl⟩, rfl⟩
    exact ht
  · intro ht
    exact ⟨_, ⟨⟨ht, rfl⟩, rfl⟩, rfl⟩

theorem mem_keywords_ofTags : (keyword, lists) ∈ (ofTags tags).keywords ↔
    (∃ t ∈ tags, t.keyword = keyword) ∧
      lists = Category.lists fun c => Reference.sortDistinct (Tag.references tags keyword c) := by
  rw [ofTags, List.mem_map]
  simp only [Text.mem_sortDistinct, List.mem_map, Prod.mk.injEq]
  constructor
  · rintro ⟨_, ht, rfl, rfl⟩
    exact ⟨ht, rfl⟩
  · rintro ⟨ht, rfl⟩
    exact ⟨keyword, ht, rfl, rfl⟩

theorem toList_ofTags : (ofTags tags).toList = Text.sortDistinct (tags.map Tag.keyword) := by
  rw [toList, ofTags, List.map_map]
  exact List.map_id'' (fun _ => rfl) _

/-- **A reference stands where there is a tag that puts it there.** -/
theorem mem_references : (∃ lists, (keyword, lists) ∈ (ofTags tags).keywords ∧
    ∃ references, (c, references) ∈ lists ∧ r ∈ references) ↔ (⟨keyword, c, r⟩ : Tag) ∈ tags := by
  rw [← Tag.mem_references]
  constructor
  · rintro ⟨lists, hlists, references, hreferences, hr⟩
    obtain ⟨-, rfl⟩ := mem_keywords_ofTags.1 hlists
    obtain ⟨rfl, -⟩ := Category.mem_lists.1 hreferences
    exact Reference.mem_sortDistinct.1 hr
  · intro hr
    have hr' := Reference.mem_sortDistinct.2 hr
    exact ⟨_, mem_keywords_ofTags.2 ⟨⟨_, Tag.mem_references.1 hr, rfl⟩, rfl⟩, _,
      Category.mem_lists.2 ⟨rfl, List.ne_nil_of_mem hr'⟩, hr'⟩

end Tags

end KeywordIndex

open KeywordIndex in
/-- **The keyword index inverts the keyword facets.**  A name and a path stand under a keyword and
a category if and only if an entry of the category with that name and path carries the keyword.
Keywords come in strictly ascending order and none of them is empty; the categories under a
keyword come in output order, at least one; the references under a category come in the order of
lower-cased name, name and path, at least one and each once.  A look-up returns what stands under
the keyword that it asks for, in lower case and without the white space around it, and so finds
every keyword in any padding. -/
theorem keywords_invert_facets (entries : List Entry) :
    let index := KeywordIndex.ofEntries entries
    (∀ keyword c name path,
      (∃ lists, (keyword, lists) ∈ index.keywords ∧
        ∃ references, (c, references) ∈ lists ∧ ⟨name, path⟩ ∈ references) ↔
      ∃ e ∈ entries, e.category = c ∧ e.name = name ∧ e.path = path ∧ e.Carries keyword) ∧
    (∀ keyword lists, (keyword, lists) ∈ index.keywords →
      keyword ≠ "" ∧ lists ≠ [] ∧ lists.Pairwise (fun p q => p.1.rank < q.1.rank) ∧
      ∀ c references, (c, references) ∈ lists →
        references ≠ [] ∧ references.Nodup ∧ references.Pairwise Reference.Before) ∧
    index.toList.Pairwise (· < ·) ∧
    (∀ query lists, index.get? query = some lists ↔
      (Text.lower (Text.trim query), lists) ∈ index.keywords) ∧
    ∀ keyword ∈ index.toList, ∀ front back, Text.isBlank front = true → Text.isBlank back = true →
      ∃ lists, (keyword, lists) ∈ index.keywords ∧
        index.get? (front ++ keyword ++ back) = some lists := by
  intro index
  have hindex : index = ofTags (entries.flatMap Tag.ofEntry) := ofEntries_eq entries
  have hsorted : index.toList.Pairwise (· < ·) := by
    rw [hindex, toList_ofTags]
    exact Text.pairwise_sortDistinct _
  have hget : ∀ query lists, index.get? query = some lists ↔
      (normalize query, lists) ∈ index.keywords := fun query lists =>
    Assoc.lookup_eq_some_iff hsorted
  -- An entry stands behind every keyword.
  have hcarried : ∀ {keyword lists}, (keyword, lists) ∈ index.keywords →
      ∃ e ∈ entries, e.Carries keyword ∧ lists = Category.lists fun c =>
        Reference.sortDistinct (Tag.references (entries.flatMap Tag.ofEntry) keyword c) := by
    intro keyword lists h
    rw [hindex] at h
    obtain ⟨⟨t, ht, rfl⟩, hlists⟩ := mem_keywords_ofTags.1 h
    obtain ⟨e, he, -, -, hcarries⟩ := mem_tags.1 ht
    exact ⟨e, he, hcarries, hlists⟩
  refine ⟨fun keyword c name path => ?_, fun keyword lists h => ?_, hsorted, hget, ?_⟩
  · rw [hindex, mem_references, mem_tags]
    simp only [KeywordIndex.Reference.ofEntry, KeywordIndex.Reference.mk.injEq, and_assoc]
  · obtain ⟨e, he, hcarries, rfl⟩ := hcarried h
    refine ⟨hcarries.1, ?_, Category.pairwise_lists _, ?_⟩
    · have htag := mem_tags.2 ⟨e, he, rfl, rfl, hcarries⟩
      have hmem := Reference.mem_sortDistinct.2 (Tag.mem_references.2 htag)
      exact List.ne_nil_of_mem (Category.mem_lists.2 ⟨rfl, List.ne_nil_of_mem hmem⟩)
    · intro c references hc
      obtain ⟨rfl, hne⟩ := Category.mem_lists.1 hc
      have hpairwise := Reference.pairwise_sortDistinct
        (Tag.references (entries.flatMap Tag.ofEntry) keyword c)
      exact ⟨hne, hpairwise.imp Reference.Before.ne, hpairwise⟩
  · intro keyword hkeyword front back hfront hback
    obtain ⟨⟨_, lists⟩, hlists, rfl⟩ := List.mem_map.1 hkeyword
    obtain ⟨_, -, ⟨-, _, -, value, -, rfl⟩, -⟩ := hcarried hlists
    refine ⟨lists, hlists, (hget _ _).2 ?_⟩
    have hself : normalize (front ++ Text.lower (Text.trim value) ++ back) =
        Text.lower (Text.trim value) :=
      normalize_padded value hfront hback
    rw [hself]
    exact hlists

end Compendium
