import Mathlib.Data.List.Nodup
import Mathlib.Data.List.Count
import Compendium.Index.CrossReference
import Compendium.Index.QuickReference
import Compendium.Proofs.Distinct
import Compendium.Proofs.Index.Sorting

/-!
# When the order of entries shows

The quick references sort entries by name, category, source and path, and a line
also has a summary, which comes from the facets.  A group of a cross reference is
sorted by name without regard to case and by path, and a reference also shows the
name as it is written and the source.  So each index is the same for every order of
the entries exactly if rows that tie are equal:

* `QuickReference.ofEntries_perm_iff`: entries of one name, category, source and path
  have one summary;
* `CrossReference.groups_perm_iff`: entries of one group whose names differ at most
  in case and which have one path have one name and one source.

Runs in which documents take over the paths of others meet neither condition.
-/

namespace Compendium

instance : Std.TransCmp Entry.order := by
  unfold Entry.order
  infer_instance

instance : Std.TransCmp Reference.order := by
  unfold Reference.order
  infer_instance

/-! ### Quick references -/

namespace QuickReference

/-- The order of lines: that of their entries, inside one category. -/
def order : QuickReference → QuickReference → Ordering :=
  compareLex (compareOn fun q => Text.lower q.name) <|
  compareLex (compareOn fun q => q.name) <|
  compareLex (compareOn fun q => q.source?) (compareOn fun q => q.path)

instance : Std.TransCmp order := by
  unfold order
  infer_instance

theorem order_eq_iff {p q : QuickReference} :
    order p q = .eq ↔ p.name = q.name ∧ p.source? = q.source? ∧ p.path = q.path := by
  simp only [order, compareLex_eq_eq, compareOn, Std.LawfulEqCmp.compare_eq_iff_eq]
  constructor
  · rintro ⟨-, hn, hs, hp⟩
    exact ⟨hn, hs, hp⟩
  · rintro ⟨hn, hs, hp⟩
    exact ⟨by rw [hn], hn, hs, hp⟩

/-- Inside one category, entries stand in the order of their lines. -/
theorem order_ofEntry {a b : Entry} (h : a.category = b.category) :
    Entry.order a b = order (ofEntry a) (ofEntry b) := by
  have he : compareOn (fun e : Entry => e.category.rank) a b = .eq := by
    rw [compareOn, h]
    exact Std.ReflCmp.compare_self
  simp only [Entry.order, order, compareLex, he, Ordering.eq_then]
  rfl

/-- The lines of a category, as the entries came. -/
def linesOf (c : Category) (entries : List Entry) : List QuickReference :=
  (entries.filter fun e => e.category = c).map ofEntry

theorem linesOf_cons {c : Category} {e : Entry} (h : e.category = c) (rest : List Entry) :
    linesOf c (e :: rest) = ofEntry e :: linesOf c rest := by
  rw [linesOf, List.filter_cons, if_pos (decide_eq_true h)]
  rfl

/-- **Each category lists its lines in order.** -/
theorem ofEntries_eq (entries : List Entry) :
    ofEntries entries = Category.lists fun c => Sorting.sort order (linesOf c entries) := by
  refine Category.lists_inj.2 fun c => ?_
  have hf : (Entry.sort entries).filter (fun e => e.category = c) =
      Sorting.sort Entry.order (entries.filter fun e => e.category = c) :=
    Sorting.filter_sort _ entries
  have hm : (Sorting.sort Entry.order (entries.filter fun e => e.category = c)).map ofEntry =
      Sorting.sort order (linesOf c entries) := by
    refine Sorting.map_sort fun a ha b hb => order_ofEntry ?_
    rw [of_decide_eq_true (List.mem_filter.1 ha).2, of_decide_eq_true (List.mem_filter.1 hb).2]
  rw [hf, hm]

/-- The quick references show the first of the entries that tie. -/
theorem ofEntry_eq_of_ofEntries_eq {a b : Entry} {s t : List Entry} (hc : a.category = b.category)
    (htie : order (ofEntry a) (ofEntry b) = .eq) (h : ofEntries (a :: s) = ofEntries (b :: t)) :
    ofEntry a = ofEntry b := by
  rw [ofEntries_eq, ofEntries_eq, Category.lists_inj] at h
  have hlines := h a.category
  rw [linesOf_cons rfl, linesOf_cons hc.symm] at hlines
  exact Sorting.eq_of_sort_cons_eq htie hlines

/-- Entries that tie have one summary. -/
def SummariesAgree (entries : List Entry) : Prop :=
  ∀ a ∈ entries, ∀ b ∈ entries, a.name = b.name → a.category = b.category →
    a.source? = b.source? → a.path = b.path →
    Summary.ofFacets a.category a.facets = Summary.ofFacets b.category b.facets

/-- **The quick references never show the order of entries exactly if entries that
tie have one summary.** -/
theorem ofEntries_perm_iff (entries : List Entry) :
    (∀ permuted, entries.Perm permuted → ofEntries permuted = ofEntries entries) ↔
      SummariesAgree entries := by
  constructor
  · intro h a ha b hb hn hc hsrc hp
    -- One of the two entries first, then the other.
    obtain ⟨s, hs⟩ := Sorting.exists_perm_cons ha
    obtain ⟨t, ht⟩ := Sorting.exists_perm_cons hb
    have he : ofEntries (a :: s) = ofEntries (b :: t) := (h _ hs).trans (h _ ht).symm
    have hline := ofEntry_eq_of_ofEntries_eq hc (order_eq_iff.2 ⟨hn, hsrc, hp⟩) he
    exact congrArg QuickReference.summary hline
  · intro h permuted hperm
    rw [ofEntries_eq, ofEntries_eq, Category.lists_inj]
    intro c
    refine (Sorting.sort_eq_of_perm ((hperm.filter _).map ofEntry) ?_).symm
    intro p hp q hq hpq
    obtain ⟨a, ha, rfl⟩ := List.mem_map.1 hp
    obtain ⟨b, hb, rfl⟩ := List.mem_map.1 hq
    obtain ⟨ha, hac⟩ := List.mem_filter.1 ha
    obtain ⟨hb, hbc⟩ := List.mem_filter.1 hb
    obtain ⟨hn, hs, hp⟩ := order_eq_iff.1 hpq
    have hc : a.category = b.category :=
      (of_decide_eq_true hac).trans (of_decide_eq_true hbc).symm
    have hsum := h a ha b hb hn hc hs hp
    change a.name = b.name at hn
    change a.path = b.path at hp
    change a.source? = b.source? at hs
    simp only [ofEntry, hn, hs, hp, hsum]

end QuickReference

/-! ### Cross references -/

theorem Reference.order_eq_iff {p q : Reference} :
    Reference.order p q = .eq ↔ Text.lower p.name = Text.lower q.name ∧ p.path = q.path := by
  simp only [Reference.order, compareLex_eq_eq, compareOn, Std.LawfulEqCmp.compare_eq_iff_eq]

namespace CrossReference

variable {x : CrossReference} {entries : List Entry}

/-- The references under a value, as the entries came. -/
def referencesAt (x : CrossReference) (key : String) (entries : List Entry) : List Reference :=
  ((x.placements entries).filter fun p => p.1 = key).map Prod.snd

theorem placements_cons_of_eq {e : Entry} (hc : e.category = x.category) (rest : List Entry) :
    x.placements (e :: rest) =
      (keys x.facet e).map (fun key => (key, Reference.ofEntry e)) ++ x.placements rest := by
  rw [placements, List.filter_cons, if_pos (decide_eq_true hc), List.flatMap_cons]
  rfl

theorem placements_cons_of_ne {e : Entry} (hc : e.category ≠ x.category) (rest : List Entry) :
    x.placements (e :: rest) = x.placements rest := by
  rw [placements, List.filter_cons, if_neg (by simpa using hc)]
  rfl

theorem mem_placements {key : String} {r : Reference} :
    (key, r) ∈ x.placements entries ↔
      ∃ e ∈ entries, e.category = x.category ∧ key ∈ keys x.facet e ∧ r = Reference.ofEntry e := by
  rw [placements, List.mem_flatMap]
  constructor
  · rintro ⟨e, he, hp⟩
    obtain ⟨he, hc⟩ := List.mem_filter.1 he
    obtain ⟨k, hk, hp⟩ := List.mem_map.1 hp
    obtain ⟨rfl, rfl⟩ := Prod.mk.inj hp
    exact ⟨e, he, of_decide_eq_true hc, hk, rfl⟩
  · rintro ⟨e, he, hc, hk, rfl⟩
    exact ⟨e, List.mem_filter.2 ⟨he, decide_eq_true hc⟩, List.mem_map.2 ⟨key, hk, rfl⟩⟩

/-- An entry gives a group one reference or none. -/
theorem referencesAt_keys (facet key : String) (e : Entry) (r : Reference) :
    (((keys facet e).map fun k => (k, r)).filter fun p => p.1 = key).map Prod.snd =
      if key ∈ keys facet e then [r] else [] := by
  have hfilter : (keys facet e).filter ((fun p : String × Reference => decide (p.1 = key)) ∘
      fun k => (k, r)) = List.replicate ((keys facet e).count key) key := List.filter_eq key
  have hnodup : (keys facet e).Nodup := Text.nodup_sortDistinct _
  rw [List.filter_map, List.map_map, hfilter, List.map_replicate, hnodup.count]
  by_cases hk : key ∈ keys facet e
  · rw [if_pos hk, if_pos hk]
    rfl
  · rw [if_neg hk, if_neg hk]
    rfl

/-- The entries that stand under a value. -/
def members (x : CrossReference) (key : String) (entries : List Entry) : List Entry :=
  entries.filter fun e => e.category = x.category ∧ key ∈ keys x.facet e

theorem mem_members {key : String} {e : Entry} :
    e ∈ members x key entries ↔
      e ∈ entries ∧ e.category = x.category ∧ key ∈ keys x.facet e := by
  rw [members, List.mem_filter, decide_eq_true_eq]

/-- **There is one reference for each entry under a value.** -/
theorem referencesAt_eq (x : CrossReference) (key : String) (entries : List Entry) :
    referencesAt x key entries = (members x key entries).map Reference.ofEntry := by
  -- The placements of one entry are neighbours, and no two of them have one key.
  induction entries with
  | nil => rfl
  | cons e rest ih =>
    rw [referencesAt] at ih ⊢
    by_cases hc : e.category = x.category
    · rw [placements_cons_of_eq hc, List.filter_append, List.map_append, referencesAt_keys, ih]
      by_cases hk : key ∈ keys x.facet e
      · rw [if_pos hk, members, members, List.filter_cons, if_pos (decide_eq_true ⟨hc, hk⟩)]
        rfl
      · rw [if_neg hk, members, members, List.filter_cons_of_neg (by simp [hk])]
        rfl
    · rw [placements_cons_of_ne hc, ih, members, members, List.filter_cons_of_neg (by simp [hc])]

theorem mem_referencesAt {key : String} {r : Reference} :
    r ∈ referencesAt x key entries ↔
      ∃ e ∈ entries, e.category = x.category ∧ key ∈ keys x.facet e ∧ r = Reference.ofEntry e := by
  rw [referencesAt_eq, List.mem_map]
  constructor
  · rintro ⟨e, hm, rfl⟩
    obtain ⟨he, hc, hk⟩ := mem_members.1 hm
    exact ⟨e, he, hc, hk, rfl⟩
  · rintro ⟨e, he, hc, hk, rfl⟩
    exact ⟨e, mem_members.2 ⟨he, hc, hk⟩, rfl⟩

/-- The reference of the first entry comes first. -/
theorem referencesAt_cons {key : String} {e : Entry} (hc : e.category = x.category)
    (hk : key ∈ keys x.facet e) (rest : List Entry) :
    ∃ others, referencesAt x key (e :: rest) = Reference.ofEntry e :: others := by
  rw [referencesAt_eq, members, List.filter_cons, if_pos (decide_eq_true ⟨hc, hk⟩), List.map_cons]
  exact ⟨_, rfl⟩

/-- The groups, each with its references in order. -/
theorem mem_groups {g : Group} :
    g ∈ x.groups entries ↔ g.key ∈ (x.placements entries).map Prod.fst ∧
      g.references = Sorting.sort Reference.order (referencesAt x g.key entries) := by
  rw [groups, List.mem_mergeSort, List.mem_map]
  constructor
  · rintro ⟨key, hk, rfl⟩
    exact ⟨Text.mem_sortDistinct.1 hk, rfl⟩
  · rintro ⟨hk, hr⟩
    refine ⟨g.key, Text.mem_sortDistinct.2 hk, ?_⟩
    obtain ⟨key, references⟩ := g
    exact congrArg (Group.mk key) hr.symm

theorem placements_perm {permuted : List Entry} (h : entries.Perm permuted) :
    (x.placements entries).Perm (x.placements permuted) :=
  (h.filter _).flatMap_right _

/-- A group shows the first of the entries that tie in it. -/
theorem ofEntry_eq_of_groups_eq (key : String) {a b : Entry} {s t : List Entry}
    (hac : a.category = x.category) (hbc : b.category = x.category)
    (hka : key ∈ keys x.facet a) (hkb : key ∈ keys x.facet b)
    (htie : Reference.order (Reference.ofEntry a) (Reference.ofEntry b) = .eq)
    (h : x.groups (a :: s) = x.groups (b :: t)) : Reference.ofEntry a = Reference.ofEntry b := by
  obtain ⟨others, ha⟩ := referencesAt_cons hac hka s
  obtain ⟨others', hb⟩ := referencesAt_cons hbc hkb t
  have hp : (key, Reference.ofEntry a) ∈ x.placements (a :: s) :=
    mem_placements.2 ⟨a, List.mem_cons_self, hac, hka, rfl⟩
  have hg : ⟨key, Sorting.sort Reference.order (referencesAt x key (a :: s))⟩ ∈ x.groups (a :: s) :=
    mem_groups.2 ⟨List.mem_map.2 ⟨_, hp, rfl⟩, rfl⟩
  rw [h] at hg
  have hr : Sorting.sort Reference.order (referencesAt x key (a :: s)) =
      Sorting.sort Reference.order (referencesAt x key (b :: t)) := (mem_groups.1 hg).2
  rw [ha, hb] at hr
  exact Sorting.eq_of_sort_cons_eq htie hr

/-- References that stand in one group and tie are equal. -/
def ReferencesAgree (x : CrossReference) (entries : List Entry) : Prop :=
  ∀ a ∈ entries, ∀ b ∈ entries, a.category = x.category → b.category = x.category →
    (∃ key, key ∈ keys x.facet a ∧ key ∈ keys x.facet b) →
    Text.lower a.name = Text.lower b.name → a.path = b.path →
    a.name = b.name ∧ a.source? = b.source?

/-- **A cross reference never shows the order of entries exactly if references that
stand in one group and tie are equal.** -/
theorem groups_perm_iff (x : CrossReference) (entries : List Entry) :
    (∀ permuted, entries.Perm permuted → x.groups permuted = x.groups entries) ↔
      ReferencesAgree x entries := by
  constructor
  · rintro h a ha b hb hac hbc ⟨key, hka, hkb⟩ hn hp
    obtain ⟨s, hs⟩ := Sorting.exists_perm_cons ha
    obtain ⟨t, ht⟩ := Sorting.exists_perm_cons hb
    have he : x.groups (a :: s) = x.groups (b :: t) := (h _ hs).trans (h _ ht).symm
    have heq := ofEntry_eq_of_groups_eq key hac hbc hka hkb (Reference.order_eq_iff.2 ⟨hn, hp⟩) he
    exact ⟨congrArg Reference.name heq, congrArg Reference.source? heq⟩
  · intro h permuted hperm
    have hplace := placements_perm (x := x) hperm
    have hgroup : ∀ key,
        groupOf (x.placements permuted) key = groupOf (x.placements entries) key := by
      intro key
      have hrefs : Reference.sort (referencesAt x key entries) =
          Reference.sort (referencesAt x key permuted) := by
        refine Sorting.sort_eq_of_perm ((hplace.filter _).map Prod.snd) fun p hp q hq hpq => ?_
        obtain ⟨a, ha, hac, hka, rfl⟩ := mem_referencesAt.1 hp
        obtain ⟨b, hb, hbc, hkb, rfl⟩ := mem_referencesAt.1 hq
        obtain ⟨hn, hpath⟩ := Reference.order_eq_iff.1 hpq
        obtain ⟨hname, hsource⟩ := h a ha b hb hac hbc ⟨key, hka, hkb⟩ hn hpath
        change a.path = b.path at hpath
        simp only [Reference.ofEntry, hname, hsource, hpath]
      exact congrArg (Group.mk key) hrefs.symm
    rw [groups, groups, funext hgroup, Text.sortDistinct_eq_of_perm (hplace.map Prod.fst).symm]

end CrossReference

/-! ### Both -/

/-- **The order in which entries came shows exactly if rows that tie differ**: in the
quick references by their summaries, in a cross reference by their names or sources. -/
theorem indexes_perm_iff (entries : List Entry) :
    ((∀ permuted, entries.Perm permuted →
        QuickReference.ofEntries permuted = QuickReference.ofEntries entries) ↔
      QuickReference.SummariesAgree entries) ∧
    ∀ x : CrossReference,
      (∀ permuted, entries.Perm permuted → x.groups permuted = x.groups entries) ↔
        x.ReferencesAgree entries :=
  ⟨QuickReference.ofEntries_perm_iff entries, fun x => CrossReference.groups_perm_iff x entries⟩

/-- Two imps of one book, the second in place of the first, show the order in the quick
references; two imps of two books under one path show it in the creatures by type. -/
theorem indexes_show_order :
    let imp (source rating : String) : Entry :=
      ⟨"Imp", .creature, some source, "bestiary/imp.md",
        ⟨[("cr", .text rating), ("type", .text "fiend")]⟩⟩
    QuickReference.ofEntries [imp "MM" "1", imp "MM" "2"] ≠
        QuickReference.ofEntries [imp "MM" "2", imp "MM" "1"] ∧
      CrossReference.creaturesByType.groups [imp "MM" "1", imp "VGM" "1"] ≠
        CrossReference.creaturesByType.groups [imp "VGM" "1", imp "MM" "1"] := by
  constructor
  · intro h
    have hline := QuickReference.ofEntry_eq_of_ofEntries_eq ?_ ?_ h
    · exact absurd (congrArg QuickReference.summary hline) (by decide)
    · rfl
    · exact QuickReference.order_eq_iff.2 ⟨rfl, rfl, rfl⟩
  · intro h
    have href := CrossReference.ofEntry_eq_of_groups_eq "fiend" ?_ ?_ ?_ ?_ ?_ h
    · exact absurd (congrArg Reference.source? href) (by decide)
    · rfl
    · rfl
    · exact Text.mem_sortDistinct.2 (by decide)
    · exact Text.mem_sortDistinct.2 (by decide)
    · exact Reference.order_eq_iff.2 ⟨rfl, rfl⟩

end Compendium
