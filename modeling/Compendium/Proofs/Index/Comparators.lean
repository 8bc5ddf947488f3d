import Compendium.Proofs.Index.InputOrder
import Compendium.Proofs.Index.KeyOrder
import Compendium.Proofs.Index.Rows

/-!
# Comparators put all rows in one line

What a sort makes of rows is settled only if its comparator puts them in one line: seen from the
other side two rows compare the other way round, and a row that is not behind a second one is not
behind a third one either, if the second is not.  Comparators that look at one field after another
have this from the orders of the fields.  Those of keys that may be numbers are put together from
two orders, one for keys with a place and one for the others.  They have it because all keys with a
place come first (`Index.byPlace_swap`, `Index.byPlace_trans`); the words for what is no number and
for what has no bound have places like any number.

* `comparators_consistent`: this for every comparator of the indexes, and which rows tie.
-/

namespace Compendium

/-- A comparator that puts all rows in one line, in which rows that tie share a place. -/
structure Sorting.Consistent {α : Type} (cmp : α → α → Ordering) : Prop where
  swap : ∀ a b, cmp a b = (cmp b a).swap
  trans : ∀ a b c, cmp a b ≠ .gt → cmp b c ≠ .gt → cmp a c ≠ .gt

theorem Sorting.consistent {α : Type} (cmp : α → α → Ordering) [Std.TransCmp cmp] :
    Consistent cmp where
  swap _ _ := Std.OrientedCmp.eq_swap
  trans a b c := by
    simp only [Ordering.ne_gt_iff_isLE]
    exact isLE_trans cmp a b c

/-! ### Ties -/

namespace Index

theorem byText_eq_iff {a b : String} : byText a b = .eq ↔ a = b := by
  simp only [byText, compareLex_eq_eq, compareOn, id, Std.LawfulEqCmp.compare_eq_iff_eq]
  exact and_iff_right_of_imp fun h => congrArg Text.lower h

theorem byRarity_eq_iff {a b : String} : byRarity a b = .eq ↔ a = b := by
  simp only [byRarity, compareLex_eq_eq, compareOn, Std.LawfulEqCmp.compare_eq_iff_eq,
    byText_eq_iff]
  exact and_iff_right_of_imp fun h => congrArg rarityRank h

/-- **Keys tie if they have one place**, or if they have none and are the same text. -/
theorem byPlace_eq_iff {place? : String → Option Int} {a b : String} :
    byPlace place? a b = .eq ↔
      place? a = place? b ∧ ((place? a).isSome = true ∨ a = b) := by
  cases ha : place? a with
  | none =>
    cases hb : place? b with
    | none => simp [byPlace_of_none ha hb, byText_eq_iff]
    | some n => simp [byPlace, ha, hb]
  | some m =>
    cases hb : place? b with
    | none => simp [byPlace, ha, hb]
    | some n => simp [byPlace_of_some ha hb]

/-- A fraction ties with the decimal number of its value. -/
example : byRating "1/2" "0.5" = .eq ∧ byText "1/2" "0.5" = .gt := by
  decide +kernel

end Index

theorem Entry.order_eq_iff {a b : Entry} : Entry.order a b = .eq ↔
    a.name = b.name ∧ a.category = b.category ∧ a.source? = b.source? ∧ a.path = b.path := by
  have hrow : Entry.order a b = GlobalIndex.Row.order (.ofEntry a) (.ofEntry b) := rfl
  rw [hrow, GlobalIndex.Row.order_eq_iff, GlobalIndex.Row.ofEntry, GlobalIndex.Row.ofEntry,
    GlobalIndex.Row.mk.injEq]

/-- **Every comparator puts all rows in one line**: those of texts, numbers, ratings and rarities,
that of entries, that of the references in a group and that of the references under a keyword.
Texts and rarities tie only with themselves, and entries only if they have one name, category,
source and path; numbers and ratings tie if they have one place, or if they have none and are the
same text. -/
theorem comparators_consistent :
    (Sorting.Consistent Index.byText ∧ Sorting.Consistent Index.byNumber ∧
      Sorting.Consistent Index.byRating ∧ Sorting.Consistent Index.byRarity ∧
      Sorting.Consistent Entry.order ∧ Sorting.Consistent Reference.order ∧
      Sorting.Consistent KeywordIndex.Reference.order) ∧
    (∀ a b, Index.byText a b = .eq ↔ a = b) ∧
    (∀ a b, Index.byRarity a b = .eq ↔ a = b) ∧
    (∀ a b, Entry.order a b = .eq ↔
      a.name = b.name ∧ a.category = b.category ∧ a.source? = b.source? ∧ a.path = b.path) ∧
    (∀ a b, Index.byNumber a b = .eq ↔ Decimal.place? a.toList = Decimal.place? b.toList ∧
      ((Decimal.place? a.toList).isSome = true ∨ a = b)) ∧
    (∀ a b, Index.byRating a b = .eq ↔ Challenge.place? a = Challenge.place? b ∧
      ((Challenge.place? a).isSome = true ∨ a = b)) := by
  have hnumber : Sorting.Consistent Index.byNumber :=
    Sorting.consistent (Index.byPlace fun text => Decimal.place? text.toList)
  have hrating : Sorting.Consistent Index.byRating :=
    Sorting.consistent (Index.byPlace Challenge.place?)
  exact ⟨⟨Sorting.consistent _, hnumber, hrating, Sorting.consistent _, Sorting.consistent _,
    Sorting.consistent _, Sorting.consistent _⟩, fun _ _ => Index.byText_eq_iff,
    fun _ _ => Index.byRarity_eq_iff, fun _ _ => Entry.order_eq_iff,
    fun _ _ => Index.byPlace_eq_iff, fun _ _ => Index.byPlace_eq_iff⟩

end Compendium
