import Compendium.Proofs.Index.Groups
import Compendium.Proofs.Index.Keywords

/-!
# Groups and keywords

Three cross references group by facets whose values are keywords as well.  A group is named by a
value without the white space around it, and a keyword is the same in lower case; a value that is
blank makes neither.  So each group that an entry stands in has the name of a keyword that it
carries (`Entry.StandsUnder.carriesBy`), and each keyword that it carries by such a facet is the
name of a group in lower case (`Entry.CarriesBy.exists_standsUnder`).  Only integers are shown by
groups and not by keywords.

* `groups_agree_with_keywords`: each of the two indexes lists what the other one does.
-/

namespace Compendium

/-! ### Values as keywords -/

namespace KeywordIndex

theorem normalize_normalize (value : String) : normalize (normalize value) = normalize value := by
  have hblank : Text.isBlank "" = true := rfl
  have hself := normalize_padded value hblank hblank
  rwa [String.empty_append, String.append_empty] at hself

theorem normalize_trim (value : String) : normalize (Text.trim value) = normalize value := by
  rw [normalize, normalize, Text.trim, Text.trim, String.toList_ofList,
    (Chars.tight_trim value.toList).trim_eq]

theorem normalize_ne_empty {value : String} (h : Text.isBlank value = false) :
    normalize value ≠ "" := by
  intro hempty
  rw [normalize, Text.lower, Text.trim, String.toList_ofList, ← String.toList_inj,
    String.toList_ofList] at hempty
  have hblank := Chars.trim_eq_nil_iff.1 (Chars.lower_eq_nil_iff.1 hempty)
  exact absurd hblank (Bool.eq_false_iff.1 h)

end KeywordIndex

/-! ### What an entry shows -/

namespace Entry

variable {e : Entry} {facet key keyword : String}

/-- Whether a facet is what makes an entry carry a keyword: one of its values is the keyword in
lower case and without white space around it, and it is not blank. -/
def CarriesBy (e : Entry) (facet keyword : String) : Prop :=
  keyword ≠ "" ∧ ∃ value ∈ e.facets.values facet, Text.lower (Text.trim value) = keyword

theorem CarriesBy.carries (h : e.CarriesBy facet keyword)
    (hfacet : facet ∈ KeywordIndex.facetKeys) : e.Carries keyword := by
  obtain ⟨hne, value, hvalue, hlower⟩ := h
  exact ⟨hne, facet, hfacet, value, Facets.mem_values.1 hvalue, hlower⟩

theorem CarriesBy.normalize_eq (h : e.CarriesBy facet keyword) :
    KeywordIndex.normalize keyword = keyword := by
  obtain ⟨-, value, -, rfl⟩ := h
  exact KeywordIndex.normalize_normalize value

/-- The values of a facet that is no integer. -/
theorem standsUnder_iff (h : ∀ n, e.facets.get? facet ≠ some (.int n)) :
    e.StandsUnder facet key ↔
      ∃ value ∈ e.facets.values facet, Text.isBlank value = false ∧ Text.trim value = key := by
  unfold StandsUnder Facets.values
  cases hvalue : e.facets.get? facet with
  | none => simp
  | some value =>
    cases value with
    | int n => exact absurd hvalue (h n)
    | text t => simp [Facet.Shows]
    | list items => simp [Facet.Shows]
    | number x => simp [Facet.Shows]
    | flag b => simp [Facet.Shows]

theorem StandsUnder.carriesBy (h : ∀ n, e.facets.get? facet ≠ some (.int n))
    (hkey : e.StandsUnder facet key) : e.CarriesBy facet (KeywordIndex.normalize key) := by
  obtain ⟨value, hvalue, hblank, rfl⟩ := (standsUnder_iff h).1 hkey
  rw [KeywordIndex.normalize_trim]
  exact ⟨KeywordIndex.normalize_ne_empty hblank, value, hvalue, rfl⟩

theorem CarriesBy.exists_standsUnder (h : ∀ n, e.facets.get? facet ≠ some (.int n))
    (hkeyword : e.CarriesBy facet keyword) :
    ∃ key, e.StandsUnder facet key ∧ Text.lower key = keyword := by
  obtain ⟨hne, value, hvalue, rfl⟩ := hkeyword
  refine ⟨Text.trim value, (standsUnder_iff h).2 ⟨value, hvalue, ?_, rfl⟩, rfl⟩
  rw [← Text.isEmpty_trim, String.isEmpty_eq_false_iff]
  intro hempty
  rw [hempty] at hne
  exact hne rfl

end Entry

/-! ### What the keyword index lists -/

namespace KeywordIndex

/-- Whether a look-up of a keyword lists a reference under a category. -/
def Lists (index : KeywordIndex) (query : String) (c : Category) (r : Reference) : Prop :=
  ∃ lists, index.get? query = some lists ∧ ∃ references, (c, references) ∈ lists ∧ r ∈ references

theorem lists_iff {entries : List Entry} {query : String} {c : Category} {r : Reference} :
    (ofEntries entries).Lists query c r ↔
      ∃ e ∈ entries, e.category = c ∧ Reference.ofEntry e = r ∧ e.Carries (normalize query) := by
  have hsorted : (Assoc.keys (ofEntries entries).keywords).Pairwise (· < ·) := by
    have hkeys := Text.pairwise_sortDistinct ((entries.flatMap Tag.ofEntry).map Tag.keyword)
    rwa [← toList_ofTags, ← ofEntries_eq] at hkeys
  rw [← mem_tags, ← mem_references, ← ofEntries_eq]
  simp only [Lists, get?, Assoc.lookup_eq_some_iff hsorted]

end KeywordIndex

/-! ### Both indexes -/

namespace CrossReference

/-- The cross references that group by a facet whose values are keywords. -/
def byKeywords : List CrossReference :=
  [creaturesByType, spellsBySchool, itemsByRarity]

theorem facet_mem_facetKeys {x : CrossReference} (h : x ∈ byKeywords) :
    x.facet ∈ KeywordIndex.facetKeys := by
  have hall : ∀ x ∈ byKeywords, x.facet ∈ KeywordIndex.facetKeys := by decide
  exact hall x h

/-- **A reference stands in a group if an entry stands under its key.** -/
theorem mem_group_iff {x : CrossReference} {entries : List Entry} {key : String} {r : Reference} :
    (∃ g ∈ x.groups entries, g.key = key ∧ r ∈ g.references) ↔
      ∃ e ∈ entries, e.category = x.category ∧ e.StandsUnder x.facet key ∧
        Reference.ofEntry e = r := by
  constructor
  · rintro ⟨g, hg, rfl, hr⟩
    rw [(mem_groups_iff.1 hg).2, (Sorting.sort_perm _ _).mem_iff, List.mem_map] at hr
    obtain ⟨e, hm, rfl⟩ := hr
    obtain ⟨he, hc, hkey⟩ := mem_members.1 hm
    exact ⟨e, he, hc, mem_keys.1 hkey, rfl⟩
  · rintro ⟨e, he, hc, hkey, rfl⟩
    have hm : e ∈ members x key entries := mem_members.2 ⟨he, hc, mem_keys.2 hkey⟩
    let g : Group :=
      ⟨key, Sorting.sort Reference.order ((members x key entries).map Reference.ofEntry)⟩
    refine ⟨g, mem_groups_iff.2 ⟨List.ne_nil_of_mem hm, rfl⟩, rfl, ?_⟩
    rw [(Sorting.sort_perm _ _).mem_iff]
    exact List.mem_map_of_mem hm

end CrossReference

open CrossReference in
/-- **The groups of creatures by type, of spells by school and of items by rarity agree with the
keyword index**, if no entry of their category has an integer for the facet by which they group.
Where a name and a path stand in a group, the keyword index lists them for the name of the group,
under its category; and where this facet of an entry of the category makes it carry a keyword, the
keyword index lists the name and the path of the entry for the keyword, and they stand in a group
whose name is the keyword in lower case. -/
theorem groups_agree_with_keywords {x : CrossReference}
    (hx : x ∈ [creaturesByType, spellsBySchool, itemsByRarity]) {entries : List Entry}
    (h : ∀ e ∈ entries, e.category = x.category → ∀ n, e.facets.get? x.facet ≠ some (.int n)) :
    let index := KeywordIndex.ofEntries entries
    (∀ g ∈ x.groups entries, ∀ r ∈ g.references,
      index.Lists g.key x.category ⟨r.name, r.path⟩) ∧
    ∀ e ∈ entries, e.category = x.category → ∀ keyword, e.CarriesBy x.facet keyword →
      index.Lists keyword x.category ⟨e.name, e.path⟩ ∧
      ∃ g ∈ x.groups entries, Text.lower g.key = keyword ∧
        ∃ r ∈ g.references, r.name = e.name ∧ r.path = e.path := by
  intro index
  have hfacet : x.facet ∈ KeywordIndex.facetKeys := facet_mem_facetKeys hx
  constructor
  · intro g hg r hr
    obtain ⟨e, he, hc, hkey, rfl⟩ := mem_group_iff.1 ⟨g, hg, rfl, hr⟩
    have hcarries := hkey.carriesBy (h e he hc)
    exact KeywordIndex.lists_iff.2 ⟨e, he, hc, rfl, hcarries.carries hfacet⟩
  · intro e he hc keyword hkeyword
    constructor
    · refine KeywordIndex.lists_iff.2 ⟨e, he, hc, rfl, ?_⟩
      rw [hkeyword.normalize_eq]
      exact hkeyword.carries hfacet
    · obtain ⟨key, hkey, hlower⟩ := hkeyword.exists_standsUnder (h e he hc)
      obtain ⟨g, hg, rfl, hr⟩ := mem_group_iff.2 ⟨e, he, hc, hkey, rfl⟩
      exact ⟨g, hg, hlower, _, hr, rfl, rfl⟩

open CrossReference in
/-- Two creatures that share a path, one of a type with a capital and white space in front, and one
of the same type in lower case and of a blank one. -/
theorem groups_agree_with_keywords_fiends :
    let entry (name : String) (type : Facet) : Entry :=
      ⟨name, .creature, none, "bestiary/fiend.md", ⟨[("type", type)]⟩⟩
    let imp := entry "Imp" (.text " Fiend")
    let quasit := entry "Quasit" (.list ["fiend", " "])
    (creaturesByType ∈ [creaturesByType, spellsBySchool, itemsByRarity] ∧
      ∀ e ∈ [imp, quasit], e.category = .creature → ∀ n, e.facets.get? "type" ≠ some (.int n)) ∧
    (KeywordIndex.ofEntries [imp, quasit]).Lists "fiend" .creature ⟨"Imp", "bestiary/fiend.md"⟩ ∧
    ∃ g ∈ creaturesByType.groups [imp, quasit], Text.lower g.key = "fiend" ∧
      ∃ r ∈ g.references, r.name = "Quasit" ∧ r.path = "bestiary/fiend.md" := by
  intro entry imp quasit
  have hx : creaturesByType ∈ [creaturesByType, spellsBySchool, itemsByRarity] := by decide
  have hint : ∀ e ∈ [imp, quasit], e.category = .creature →
      ∀ n, e.facets.get? "type" ≠ some (.int n) := by
    intro e he _ n hn
    rcases List.mem_pair.1 he with rfl | rfl
    · cases hn
    · cases hn
  obtain ⟨-, hkeyword⟩ := groups_agree_with_keywords hx hint
  have himp : imp.CarriesBy "type" "fiend" :=
    ⟨by decide, " Fiend", by decide, by decide +kernel⟩
  have hquasit : quasit.CarriesBy "type" "fiend" :=
    ⟨by decide, "fiend", by decide, by decide +kernel⟩
  exact ⟨⟨hx, hint⟩, (hkeyword imp (by simp) rfl "fiend" himp).1,
    (hkeyword quasit (by simp) rfl "fiend" hquasit).2⟩

end Compendium
