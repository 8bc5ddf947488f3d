import Compendium.Index.Global
import Compendium.Proofs.Index.InputOrder

/-!
# One listing behind all views

A catalog sorts the entries of one category, while the global index and the quick references
sort all entries and group them afterwards.  A sort that is stable may be moved past a filter
(`Sorting.filter_sort`), so all of them read one listing of the entries: the entries of a
category are a filter of it (`Catalog.ofCategory_eq`), and the lists that an index keeps by
category are maps of those filters (`Category.listed_lists`).  So the views agree line by line,
also where entries tie and differ in their facets alone.

* `views_read_one_listing`: the listing, and what each view reads of it.
-/

namespace Compendium

namespace Category

variable {α : Type}

/-- What stands under a category in lists by category. -/
def listed (lists : List (Category × List α)) (c : Category) : List α :=
  (lists.lookup c).getD []

theorem listed_filter_map (f : Category → List α) (c : Category) (cs : List Category) :
    listed ((cs.map fun d => (d, f d)).filter fun p => !p.2.isEmpty) c =
      if c ∈ cs then f c else [] := by
  induction cs with
  | nil => rfl
  | cons d rest ih =>
    rw [listed] at ih ⊢
    rw [List.map_cons, List.filter_cons]
    by_cases hd : f d = []
    · -- The head has nothing to list, so it is no key, and nothing is what `c = d` lists.
      rw [if_neg (by simp [hd]), ih]
      by_cases hc : c = d
      · subst hc
        simp [hd]
      · simp [hc]
    · rw [if_pos (by simpa using hd), List.lookup_cons]
      by_cases hc : c = d
      · subst hc
        simp
      · rw [beq_false_of_ne hc, ih]
        simp [hc]

/-- **Under every category stands what it has to list.** -/
@[simp]
theorem listed_lists (f : Category → List α) (c : Category) : listed (lists f) c = f c := by
  rw [lists, listed_filter_map, if_pos (mem_all c)]

/-- The categories that are listed come in output order. -/
theorem map_fst_lists (f : Category → List α) :
    (lists f).map Prod.fst = all.filter fun c => !(f c).isEmpty := by
  rw [lists, List.filter_map, List.map_map]
  exact List.map_id'' (fun _ => rfl) _

end Category

/-! ### The listing -/

section Listing

variable (entries : List Entry)

theorem Entry.sort_perm : (Entry.sort entries).Perm entries :=
  Sorting.sort_perm Entry.order entries

theorem Entry.pairwise_sort :
    (Entry.sort entries).Pairwise fun a b => (Entry.order a b).isLE = true :=
  Sorting.pairwise_sort Entry.order entries

/-- **The entries of a category are a part of the listing of all entries.** -/
theorem Catalog.ofCategory_eq (c : Category) :
    Catalog.ofCategory ⟨entries⟩ c = (Entry.sort entries).filter fun e => e.category = c := by
  have hsort : (Sorting.sort Entry.order entries).filter (fun e => e.category = c) =
      Sorting.sort Entry.order (entries.filter fun e => e.category = c) :=
    Sorting.filter_sort _ entries
  exact hsort.symm

theorem Catalog.category_of_mem_ofCategory {e : Entry} {c : Category}
    (h : e ∈ Catalog.ofCategory ⟨entries⟩ c) : e.category = c := by
  rw [Catalog.ofCategory_eq, List.mem_filter] at h
  exact of_decide_eq_true h.2

/-- A category has a part of the listing exactly if it has entries. -/
theorem Catalog.isEmpty_ofCategory (c : Category) :
    (!(Catalog.ofCategory ⟨entries⟩ c).isEmpty) = entries.any fun e => e.category = c := by
  rw [Bool.eq_iff_iff, List.any_eq_true, Bool.not_eq_true', List.isEmpty_eq_false_iff_exists_mem,
    Catalog.ofCategory_eq]
  simp only [List.mem_filter, (Entry.sort_perm entries).mem_iff]

/-! ### What the views read of it -/

theorem GlobalIndex.filter_rows (c : Category) :
    (GlobalIndex.ofEntries entries).rows.filter (fun row => row.category = c) =
      (Catalog.ofCategory ⟨entries⟩ c).map Row.ofEntry := by
  rw [Catalog.ofCategory_eq, rows_ofEntries, List.filter_map]
  rfl

theorem GlobalIndex.names_eq :
    (GlobalIndex.ofEntries entries).names =
      Category.lists fun c => (Catalog.ofCategory ⟨entries⟩ c).map Entry.name := by
  refine Category.lists_inj.2 fun c => ?_
  rw [filter_rows, List.map_map]
  rfl

theorem QuickReference.ofEntries_eq_lists :
    QuickReference.ofEntries entries =
      Category.lists fun c => (Catalog.ofCategory ⟨entries⟩ c).map ofEntry := by
  refine Category.lists_inj.2 fun c => ?_
  rw [Catalog.ofCategory_eq]

/-- The categories under which an index lists what it reads of the entries. -/
theorem Catalog.map_fst_lists {α : Type} (f : Entry → α) :
    (Category.lists fun c => (Catalog.ofCategory ⟨entries⟩ c).map f).map Prod.fst =
      Catalog.categories ⟨entries⟩ := by
  rw [Category.map_fst_lists, Catalog.categories]
  refine List.filter_congr fun c _ => ?_
  rw [List.isEmpty_map, Catalog.isEmpty_ofCategory]

/-- The categories with quick references are those with entries. -/
theorem QuickReference.map_fst_ofEntries :
    (QuickReference.ofEntries entries).map Prod.fst = Catalog.categories ⟨entries⟩ := by
  rw [QuickReference.ofEntries_eq_lists]
  exact Catalog.map_fst_lists entries ofEntry

end Listing

/-- **All views read one listing of the entries**, which holds every entry and is in order: the
global index has a row for each of its entries, and the entries of a category, its rows, its
quick references and its names are those of the same entries in the same places.  Quick
references and names are there for the categories that have entries, in output order. -/
theorem views_read_one_listing (entries : List Entry) :
    let catalog : Catalog := ⟨entries⟩
    let index := GlobalIndex.ofEntries entries
    let quick := QuickReference.ofEntries entries
    (∃ listing : List Entry, listing.Perm entries ∧
      listing.Pairwise (fun a b => (Entry.order a b).isLE = true) ∧
      index.rows = listing.map GlobalIndex.Row.ofEntry ∧
      ∀ c, catalog.ofCategory c = listing.filter fun e => e.category = c) ∧
    index.rows.Perm (entries.map GlobalIndex.Row.ofEntry) ∧
    index.total = entries.length ∧
    (∀ c,
      index.rows.filter (fun row => row.category = c) =
        (catalog.ofCategory c).map GlobalIndex.Row.ofEntry ∧
      Category.listed quick c = (catalog.ofCategory c).map (fun e =>
        ⟨e.name, e.path, e.source?, Summary.ofFacets c e.facets⟩) ∧
      Category.listed index.names c = (catalog.ofCategory c).map Entry.name) ∧
    index.names.map Prod.fst = catalog.categories ∧
    quick.map Prod.fst = catalog.categories ∧
    catalog.categories = Category.all.filter fun c => ∃ e ∈ entries, e.category = c := by
  intro catalog index quick
  have hperm : (Entry.sort entries).Perm entries := Entry.sort_perm entries
  refine ⟨⟨Entry.sort entries, hperm, Entry.pairwise_sort entries, rfl,
    Catalog.ofCategory_eq entries⟩, hperm.map _, ?_, fun c => ⟨?_, ?_, ?_⟩, ?_, ?_, ?_⟩
  · exact (List.length_map _).trans hperm.length_eq
  · exact GlobalIndex.filter_rows entries c
  · have hquick : quick = _ := QuickReference.ofEntries_eq_lists entries
    rw [hquick, Category.listed_lists]
    refine List.map_congr_left fun e he => ?_
    rw [QuickReference.ofEntry, Catalog.category_of_mem_ofCategory entries he]
  · have hnames : index.names = _ := GlobalIndex.names_eq entries
    rw [hnames, Category.listed_lists]
  · have hnames : index.names = _ := GlobalIndex.names_eq entries
    rw [hnames]
    exact Catalog.map_fst_lists entries Entry.name
  · exact QuickReference.map_fst_ofEntries entries
  · refine List.filter_congr fun c _ => ?_
    rw [Bool.eq_iff_iff, List.any_eq_true]
    simp only [decide_eq_true_eq, catalog]

end Compendium
