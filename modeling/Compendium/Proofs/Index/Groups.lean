import Compendium.Proofs.Index.InputOrder
import Compendium.Proofs.Index.KeyOrder
import Compendium.Proofs.Trim

/-!
# What the groups of a cross reference hold

An entry stands under the values that one of its facets shows: the text or the elements of
the list, trimmed and without blank ones, or the digits of the integer (`mem_keys`).  Its
values are taken once each, so an entry gives each group that it stands in one reference
(`referencesAt_eq`), and no two groups have one key.

* `groups_hold`: which groups there are, what each of them holds, in which order they come,
  and what a look-up finds.
-/

namespace Compendium

/-! ### Values -/

/-- Whether a value of a facet shows a key: as its text or one of its elements, trimmed and
not blank, or as its digits. -/
def Facet.Shows (key : String) : Facet → Prop
  | .text t => Text.isBlank t = false ∧ Text.trim t = key
  | .list items => ∃ t ∈ items, Text.isBlank t = false ∧ Text.trim t = key
  | .int n => toString n = key
  | .number _ => False
  | .flag _ => False

instance (key : String) : DecidablePred (Facet.Shows key)
  | .text _ => inferInstanceAs (Decidable (_ ∧ _))
  | .list items => inferInstanceAs (Decidable (∃ t ∈ items, _ ∧ _))
  | .int n => inferInstanceAs (Decidable (toString n = key))
  | .number _ => inferInstanceAs (Decidable False)
  | .flag _ => inferInstanceAs (Decidable False)

/-- Whether an entry has a facet that shows a key. -/
def Entry.StandsUnder (e : Entry) (facet key : String) : Prop :=
  ∃ value ∈ e.facets.get? facet, value.Shows key

instance (e : Entry) (facet key : String) : Decidable (e.StandsUnder facet key) :=
  inferInstanceAs (Decidable (∃ value ∈ e.facets.get? facet, value.Shows key))

namespace CrossReference

theorem mem_trimmed {values : List String} {key : String} :
    key ∈ (values.map Text.trim).filter (fun value => !value.isEmpty) ↔
      ∃ t ∈ values, Text.isBlank t = false ∧ Text.trim t = key := by
  rw [List.mem_filter, List.mem_map, Bool.not_eq_true']
  constructor
  · rintro ⟨⟨t, ht, rfl⟩, hne⟩
    exact ⟨t, ht, (Text.isEmpty_trim t).symm.trans hne, rfl⟩
  · rintro ⟨t, ht, hb, rfl⟩
    exact ⟨⟨t, ht, rfl⟩, (Text.isEmpty_trim t).trans hb⟩

/-- **An entry stands under the values that its facet shows.** -/
theorem mem_keys {facet key : String} {e : Entry} :
    key ∈ keys facet e ↔ e.StandsUnder facet key := by
  rw [keys, Text.mem_sortDistinct, Entry.StandsUnder, Facets.values]
  cases e.facets.get? facet with
  | none => simp
  | some value =>
    have hvalue : (∃ v ∈ some value, v.Shows key) ↔ value.Shows key := by simp
    rw [hvalue]
    cases value with
    | text t => exact mem_trimmed.trans (by simp [Facet.Shows])
    | list items => exact mem_trimmed
    | int n => exact List.mem_singleton.trans eq_comm
    | number x => simp [Facet.Shows]
    | flag b => simp [Facet.Shows]

/-! ### Groups -/

variable {x : CrossReference} {entries : List Entry}

theorem members_eq (x : CrossReference) (key : String) (entries : List Entry) :
    members x key entries =
      entries.filter fun e => e.category = x.category ∧ e.StandsUnder x.facet key :=
  List.filter_congr fun _ _ => decide_eq_decide.2 (and_congr_right fun _ => mem_keys)

theorem mem_map_fst_placements {key : String} :
    key ∈ (x.placements entries).map Prod.fst ↔ members x key entries ≠ [] := by
  constructor
  · intro h
    obtain ⟨⟨k, r⟩, hp, rfl⟩ := List.mem_map.1 h
    obtain ⟨e, he, hc, hk, -⟩ := mem_placements.1 hp
    exact List.ne_nil_of_mem (mem_members.2 ⟨he, hc, hk⟩)
  · intro h
    obtain ⟨e, hm⟩ := List.exists_mem_of_ne_nil _ h
    obtain ⟨he, hc, hk⟩ := mem_members.1 hm
    have hp : (key, Reference.ofEntry e) ∈ x.placements entries :=
      mem_placements.2 ⟨e, he, hc, hk, rfl⟩
    exact List.mem_map.2 ⟨_, hp, rfl⟩

/-- **The groups are those with members**, each of which gives one reference. -/
theorem mem_groups_iff {g : Group} : g ∈ x.groups entries ↔ members x g.key entries ≠ [] ∧
    g.references = Sorting.sort Reference.order
      ((members x g.key entries).map Reference.ofEntry) := by
  rw [mem_groups, mem_map_fst_placements, referencesAt_eq]

theorem nodup_key_groups (x : CrossReference) (entries : List Entry) :
    ((x.groups entries).map Group.key).Nodup := by
  have hperm : ((x.groups entries).map Group.key).Perm
      (Text.sortDistinct ((x.placements entries).map Prod.fst)) := by
    have hsort := (List.mergeSort_perm
      ((Text.sortDistinct ((x.placements entries).map Prod.fst)).map
        (groupOf (x.placements entries))) fun a b => (x.order a.key b.key).isLE).map Group.key
    rw [List.map_map] at hsort
    exact hsort.trans (List.Perm.of_eq (List.map_id _))
  exact hperm.nodup_iff.2 (Text.nodup_sortDistinct _)

theorem pairwise_groups (x : CrossReference) (entries : List Entry) :
    (x.groups entries).Pairwise fun g h => (x.order g.key h.key).isLE = true :=
  List.pairwise_mergeSort
    (fun g h k hgh hhk => Sorting.isLE_trans x.order g.key h.key k.key hgh hhk)
    (fun g h => Sorting.isLE_total x.order g.key h.key) _

theorem find?_eq_some_iff {key : String} {g : Group} :
    find? (x.groups entries) key = some g ↔ g ∈ x.groups entries ∧ g.key = key := by
  constructor
  · intro h
    have hkey := List.find?_some (p := fun group : Group => decide (group.key = key)) h
    exact ⟨List.mem_of_find?_eq_some h, of_decide_eq_true hkey⟩
  · rintro ⟨hg, hk⟩
    cases hf : find? (x.groups entries) key with
    | none =>
      have hne := List.find?_eq_none.1 hf g hg
      exact absurd (decide_eq_true hk) hne
    | some g' =>
      have hg' : g' ∈ x.groups entries := List.mem_of_find?_eq_some hf
      have hk' : g'.key = key := of_decide_eq_true
        (List.find?_some (p := fun group : Group => decide (group.key = key)) hf)
      rw [List.inj_on_of_nodup_map (nodup_key_groups x entries) hg' hg (hk'.trans hk.symm)]

theorem find?_eq_none_iff {key : String} :
    find? (x.groups entries) key = none ↔ members x key entries = [] := by
  constructor
  · intro h
    by_contra hne
    have hg : ⟨key, Sorting.sort Reference.order
        ((members x key entries).map Reference.ofEntry)⟩ ∈ x.groups entries :=
      mem_groups_iff.2 ⟨hne, rfl⟩
    exact absurd (decide_eq_true rfl) (List.find?_eq_none.1 h _ hg)
  · intro h
    refine List.find?_eq_none.2 fun g hg hk => ?_
    have hne := (mem_groups_iff.1 hg).1
    rw [of_decide_eq_true hk] at hne
    exact hne h

/-- **What the groups of a cross reference hold.**  No two groups have one key and none is
empty; a group holds one reference for each entry of the category that stands under its key,
and nothing else; groups come in the order of their keys and references by lower-cased name and
path; and a look-up finds the group of a key, or nothing if no entry stands under it. -/
theorem groups_hold (x : CrossReference) (entries : List Entry) :
    ((x.groups entries).map Group.key).Nodup ∧
      (∀ g ∈ x.groups entries, g.references ≠ [] ∧
        g.references.Perm ((entries.filter fun e =>
          e.category = x.category ∧ e.StandsUnder x.facet g.key).map Reference.ofEntry) ∧
        g.references.Pairwise fun r s => (Reference.order r s).isLE = true) ∧
      ((x.groups entries).Pairwise fun g h => (x.order g.key h.key).isLE = true) ∧
      ∀ key, (∀ g, find? (x.groups entries) key = some g ↔ g ∈ x.groups entries ∧ g.key = key) ∧
        (find? (x.groups entries) key = none ↔
          ∀ e ∈ entries, e.category = x.category → ¬ e.StandsUnder x.facet key) := by
  refine ⟨nodup_key_groups x entries, ?_, pairwise_groups x entries, ?_⟩
  · intro g hg
    obtain ⟨hne, hr⟩ := mem_groups_iff.1 hg
    have hperm : g.references.Perm ((members x g.key entries).map Reference.ofEntry) := by
      rw [hr]
      exact Sorting.sort_perm _ _
    refine ⟨?_, ?_, ?_⟩
    · intro hnil
      rw [hnil, List.nil_perm, List.map_eq_nil_iff] at hperm
      exact hne hperm
    · rwa [members_eq] at hperm
    · rw [hr]
      exact Sorting.pairwise_sort _ _
  · intro key
    refine ⟨fun g => find?_eq_some_iff, ?_⟩
    rw [find?_eq_none_iff, members_eq, List.filter_eq_nil_iff]
    constructor
    · intro h e he hc hk
      exact h e he (decide_eq_true ⟨hc, hk⟩)
    · intro h e he hck
      obtain ⟨hc, hk⟩ := of_decide_eq_true hck
      exact h e he hc hk

/-- A spell of wizards and bards, whose list names wizards twice, and a spell of wizards only
share a group; a creature of that class has no place in it, and no spell is one of clerics. -/
theorem groups_hold_wizards :
    let entry (category : Category) (name : String) (classes : Facet) : Entry :=
      ⟨name, category, some "PHB", name ++ ".md", ⟨[("classes", classes)]⟩⟩
    let shield := entry .spell "Shield" (.text "Wizard")
    let mage := entry .creature "Mage" (.text "Wizard")
    let charm := entry .spell "Charm" (.list [" Wizard", "Wizard", "Bard "])
    let groups := spellsByClass.groups [shield, mage, charm]
    (∃ g, find? groups "Wizard" = some g ∧
      g.references.Perm [Reference.ofEntry shield, Reference.ofEntry charm]) ∧
    find? groups "Cleric" = none := by
  intro entry shield mage charm groups
  obtain ⟨-, hgroup, -, hfind⟩ := groups_hold spellsByClass [shield, mage, charm]
  constructor
  · cases hf : find? groups "Wizard" with
    | none =>
      have hshield := (hfind "Wizard").2.1 hf shield List.mem_cons_self rfl
      exact absurd (by decide) hshield
    | some g =>
      obtain ⟨hg, hkey⟩ := ((hfind "Wizard").1 g).1 hf
      obtain ⟨-, hperm, -⟩ := hgroup g hg
      rw [hkey] at hperm
      exact ⟨g, rfl, hperm⟩
  · exact (hfind "Cleric").2.2 (by decide)

end CrossReference

end Compendium
