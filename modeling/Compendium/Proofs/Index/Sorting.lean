import Mathlib.Data.List.Basic
import Compendium.Index.Catalog

/-!
# Sorting rows

A sort by a comparator never moves rows that tie past each other.  So the sorted
list is the one list in order whose rows that tie with a given one stand as they
came (`eq_of_filter_eq`), and a sort may be moved past a filter (`filter_sort`) and
past a map (`map_sort`).

Two lists of the same rows sort into the same list if rows that tie are equal
(`sort_eq_of_perm`).  Otherwise the order in which the rows came shows, because the
first of the rows that tie comes out first (`eq_of_sort_cons_eq`).
-/

namespace Compendium.Sorting

variable {α β : Type}

/-- Rows in the order of a comparator; rows that tie keep their order. -/
def sort (cmp : α → α → Ordering) (rows : List α) : List α :=
  rows.mergeSort fun a b => (cmp a b).isLE

/-- Whether a row ties with `a`. -/
def ties (cmp : α → α → Ordering) (a b : α) : Bool :=
  cmp a b = .eq

/-- Any row can be brought to the front. -/
theorem exists_perm_cons {a : α} {rows : List α} (h : a ∈ rows) :
    ∃ rest, rows.Perm (a :: rest) := by
  obtain ⟨front, back, rfl⟩ := List.append_of_mem h
  exact ⟨front ++ back, List.perm_middle⟩

theorem sort_perm (cmp : α → α → Ordering) (rows : List α) : (sort cmp rows).Perm rows :=
  List.mergeSort_perm rows _

section Stable

variable (cmp : α → α → Ordering) [Std.TransCmp cmp]

theorem isLE_trans (a b c : α) (hab : (cmp a b).isLE = true) (hbc : (cmp b c).isLE = true) :
    (cmp a c).isLE = true :=
  Std.TransCmp.isLE_trans hab hbc

theorem isLE_total (a b : α) : ((cmp a b).isLE || (cmp b a).isLE) = true := by
  have hswap : cmp b a = (cmp a b).swap := Std.OrientedCmp.eq_swap
  rw [hswap]
  cases cmp a b <;> rfl

theorem pairwise_sort (rows : List α) :
    (sort cmp rows).Pairwise fun a b => (cmp a b).isLE = true :=
  List.pairwise_mergeSort (isLE_trans cmp) (isLE_total cmp) rows

variable {cmp}

/-- Rows that a test picks out, where only rows which tie pass it, come out of a sort
as they went in. -/
theorem filter_sort_of_ties {p : α → Bool}
    (hp : ∀ a b, p a = true → p b = true → cmp a b = .eq) (rows : List α) :
    (sort cmp rows).filter p = rows.filter p := by
  have hpair : (rows.filter p).Pairwise fun a b => (cmp a b).isLE = true := by
    refine List.pairwise_of_forall_mem_list fun a ha b hb => ?_
    rw [hp a b (List.mem_filter.1 ha).2 (List.mem_filter.1 hb).2]
    rfl
  have hsub : (rows.filter p).Sublist (sort cmp rows) :=
    List.sublist_mergeSort (isLE_trans cmp) (isLE_total cmp) hpair List.filter_sublist
  have hsub' : (rows.filter p).Sublist ((sort cmp rows).filter p) := by
    have hf := hsub.filter p
    rwa [List.filter_filter, List.filter_congr (q := p) (fun a _ => Bool.and_self (p a))] at hf
  exact (hsub'.eq_of_length ((sort_perm cmp rows).filter p).length_eq.symm).symm

theorem eq_of_ties {a b c : α} (hb : ties cmp a b = true) (hc : ties cmp a c = true) :
    cmp b c = .eq := by
  have hab : cmp a b = .eq := of_decide_eq_true hb
  have hac : cmp a c = .eq := of_decide_eq_true hc
  exact Std.TransCmp.eq_trans (Std.OrientedCmp.eq_symm hab) hac

theorem ties_self (a : α) : ties cmp a a = true :=
  decide_eq_true Std.ReflCmp.compare_self

theorem filter_ties_sort (a : α) (rows : List α) :
    (sort cmp rows).filter (ties cmp a) = rows.filter (ties cmp a) :=
  filter_sort_of_ties (fun _ _ => eq_of_ties (a := a)) rows

/-- A row stands in every list that holds the same rows which tie with it. -/
theorem mem_of_filter_ties_eq {a : α} {s t : List α}
    (h : s.filter (ties cmp a) = t.filter (ties cmp a)) (ha : a ∈ s) : a ∈ t := by
  have hm : a ∈ s.filter (ties cmp a) := List.mem_filter.2 ⟨ha, ties_self a⟩
  rw [h] at hm
  exact (List.mem_filter.1 hm).1

/-- The first row of an ordered list comes before every row of it. -/
theorem isLE_of_mem_cons {a b : α} {s : List α}
    (hs : (a :: s).Pairwise fun a b => (cmp a b).isLE = true) (hb : b ∈ a :: s) :
    (cmp a b).isLE = true := by
  rcases List.mem_cons.1 hb with rfl | hb
  · exact Std.ReflCmp.isLE_rfl
  · exact (List.pairwise_cons.1 hs).1 b hb

/-- **Ties and order settle a list.** -/
theorem eq_of_filter_eq {s t : List α} (hs : s.Pairwise fun a b => (cmp a b).isLE = true)
    (ht : t.Pairwise fun a b => (cmp a b).isLE = true)
    (h : ∀ a, s.filter (ties cmp a) = t.filter (ties cmp a)) : s = t := by
  induction s generalizing t with
  | nil =>
    cases t with
    | nil => rfl
    | cons y t => cases mem_of_filter_ties_eq (h y).symm List.mem_cons_self
  | cons x s ih =>
    cases t with
    | nil => cases mem_of_filter_ties_eq (h x) List.mem_cons_self
    | cons y t =>
      -- Each head stands in the other list, behind that list's head, so the two tie.
      have hyx : (cmp y x).isLE = true :=
        isLE_of_mem_cons ht (mem_of_filter_ties_eq (h x) List.mem_cons_self)
      have hxy : (cmp x y).isLE = true :=
        isLE_of_mem_cons hs (mem_of_filter_ties_eq (h y).symm List.mem_cons_self)
      have htie : ties cmp x y = true := decide_eq_true (Std.OrientedCmp.isLE_antisymm hxy hyx)
      have hhead := h x
      rw [List.filter_cons_of_pos (ties_self x), List.filter_cons_of_pos htie] at hhead
      obtain ⟨rfl, -⟩ := List.cons.inj hhead
      refine congrArg (x :: ·) (ih (List.pairwise_cons.1 hs).2 (List.pairwise_cons.1 ht).2 ?_)
      intro a
      have ha := h a
      rw [List.filter_cons, List.filter_cons] at ha
      split at ha
      · exact (List.cons.inj ha).2
      · exact ha

/-- **A sort may be moved past a filter.** -/
theorem filter_sort (p : α → Bool) (rows : List α) :
    (sort cmp rows).filter p = sort cmp (rows.filter p) := by
  refine eq_of_filter_eq ((pairwise_sort cmp rows).sublist List.filter_sublist)
    (pairwise_sort cmp _) fun a => ?_
  rw [filter_ties_sort, List.filter_filter, List.filter_filter, filter_sort_of_ties]
  intro b c hb hc
  rw [Bool.and_eq_true] at hb hc
  exact eq_of_ties hb.1 hc.1

/-- **Where ties are equal, the order in which rows came does not show.** -/
theorem sort_eq_of_perm {rows permuted : List α} (h : rows.Perm permuted)
    (heq : ∀ a ∈ rows, ∀ b ∈ rows, cmp a b = .eq → a = b) :
    sort cmp rows = sort cmp permuted := by
  have hp : (sort cmp rows).Perm (sort cmp permuted) :=
    (sort_perm cmp rows).trans (h.trans (sort_perm cmp permuted).symm)
  refine hp.eq_of_pairwise ?_ (pairwise_sort cmp rows) (pairwise_sort cmp permuted)
  intro a b ha hb hab hba
  have hb' : b ∈ rows := h.mem_iff.2 ((sort_perm cmp permuted).mem_iff.1 hb)
  exact heq a ((sort_perm cmp rows).mem_iff.1 ha) b hb' (Std.OrientedCmp.isLE_antisymm hab hba)

/-- **The first of the rows that tie comes out first.** -/
theorem eq_of_sort_cons_eq {a b : α} {s t : List α} (hab : cmp a b = .eq)
    (h : sort cmp (a :: s) = sort cmp (b :: t)) : a = b := by
  have hb : ties cmp a b = true := decide_eq_true hab
  have hf := congrArg (List.filter (ties cmp a)) h
  rw [filter_ties_sort, filter_ties_sort, List.filter_cons_of_pos (ties_self a),
    List.filter_cons_of_pos hb] at hf
  exact (List.cons.inj hf).1

end Stable

/-- **A sort may be moved past a map** that the comparator does not notice. -/
theorem map_sort {cmp : α → α → Ordering} {cmp' : β → β → Ordering} {f : α → β} {rows : List α}
    (h : ∀ a ∈ rows, ∀ b ∈ rows, cmp a b = cmp' (f a) (f b)) :
    (sort cmp rows).map f = sort cmp' (rows.map f) :=
  List.map_mergeSort fun a ha b hb => congrArg Ordering.isLE (h a ha b hb)

end Compendium.Sorting

namespace Compendium.Category

variable {α : Type} {f g : Category → List α}

/-- A category is listed if it has something to list. -/
theorem mem_lists {c : Category} {items : List α} :
    (c, items) ∈ lists f ↔ items = f c ∧ f c ≠ [] := by
  rw [lists, List.mem_filter, List.mem_map]
  constructor
  · rintro ⟨⟨d, -, he⟩, hn⟩
    obtain ⟨rfl, rfl⟩ := Prod.mk.inj he
    exact ⟨rfl, fun h => by simp [h] at hn⟩
  · rintro ⟨rfl, hn⟩
    exact ⟨⟨c, mem_all c, rfl⟩, by simpa using hn⟩

/-- The listed categories settle what each category has to list. -/
theorem lists_inj : lists f = lists g ↔ ∀ c, f c = g c := by
  constructor
  · intro h c
    by_cases hf : f c = []
    · by_cases hg : g c = []
      · rw [hf, hg]
      · have hm : (c, g c) ∈ lists g := mem_lists.2 ⟨rfl, hg⟩
        rw [← h] at hm
        exact (mem_lists.1 hm).1.symm
    · have hm : (c, f c) ∈ lists f := mem_lists.2 ⟨rfl, hf⟩
      rw [h] at hm
      exact (mem_lists.1 hm).1
  · intro h
    rw [funext h]

end Compendium.Category
