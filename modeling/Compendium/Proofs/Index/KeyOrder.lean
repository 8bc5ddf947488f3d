import Compendium.Index.CrossReference

/-!
# Orders of keys are orders

Keys with a place come by their places, in front of keys without one, and those come as
texts.  Two keys with one place tie although they are different texts, so such an order is
no order of texts; but it can be turned around (`byPlace_swap`) and it is transitive, which
is what sorting by it needs.
-/

namespace Compendium

namespace Index

instance : Std.TransCmp byText := by
  unfold byText
  infer_instance

section Places

variable {place? : String → Option Int} {a b c : String}

theorem byPlace_of_some {m n : Int} (ha : place? a = some m) (hb : place? b = some n) :
    byPlace place? a b = compare m n := by
  rw [byPlace, ha, hb]

theorem byPlace_of_none (ha : place? a = none) (hb : place? b = none) :
    byPlace place? a b = byText a b := by
  rw [byPlace, ha, hb]

variable (place?) in
theorem byPlace_swap (a b : String) : byPlace place? a b = (byPlace place? b a).swap := by
  cases ha : place? a with
  | none =>
    cases hb : place? b with
    | none =>
      rw [byPlace_of_none ha hb, byPlace_of_none hb ha]
      exact Std.OrientedCmp.eq_swap
    | some n =>
      rw [byPlace, byPlace, ha, hb]
      rfl
  | some m =>
    cases hb : place? b with
    | none =>
      rw [byPlace, byPlace, ha, hb]
      rfl
    | some n =>
      rw [byPlace_of_some ha hb, byPlace_of_some hb ha]
      exact Std.OrientedOrd.eq_swap

/-- A key without a place never comes in front of a key with one. -/
theorem eq_none_of_isLE_byPlace (h : (byPlace place? a b).isLE = true) (ha : place? a = none) :
    place? b = none := by
  cases hb : place? b with
  | none => rfl
  | some n =>
    simp only [byPlace, ha, hb] at h
    exact absurd h (by decide)

theorem byPlace_trans (hab : (byPlace place? a b).isLE = true)
    (hbc : (byPlace place? b c).isLE = true) : (byPlace place? a c).isLE = true := by
  -- A key without a place has only such keys behind it, so the three are compared alike unless
  -- the last one has none.
  cases ha : place? a with
  | none =>
    have hb := eq_none_of_isLE_byPlace hab ha
    have hc := eq_none_of_isLE_byPlace hbc hb
    rw [byPlace_of_none ha hb] at hab
    rw [byPlace_of_none hb hc] at hbc
    rw [byPlace_of_none ha hc]
    exact Std.TransCmp.isLE_trans hab hbc
  | some m =>
    cases hc : place? c with
    | none =>
      simp only [byPlace, ha, hc]
      rfl
    | some k =>
      cases hb : place? b with
      | none => exact absurd (eq_none_of_isLE_byPlace hbc hb) (by rw [hc]; simp)
      | some n =>
        rw [byPlace_of_some ha hb] at hab
        rw [byPlace_of_some hb hc] at hbc
        rw [byPlace_of_some ha hc]
        exact Std.TransOrd.isLE_trans hab hbc

end Places

instance (place? : String → Option Int) : Std.TransCmp (byPlace place?) where
  eq_swap := byPlace_swap place? _ _
  isLE_trans := byPlace_trans

instance : Std.TransCmp byRarity := by
  unfold byRarity
  infer_instance

end Index

/-- **Every cross reference puts its groups in an order.** -/
instance (x : CrossReference) : Std.TransCmp x.order := by
  cases x with
  | creaturesByRating => exact inferInstanceAs (Std.TransCmp (Index.byPlace _))
  | creaturesByType => exact inferInstanceAs (Std.TransCmp Index.byText)
  | spellsByLevel => exact inferInstanceAs (Std.TransCmp (Index.byPlace _))
  | spellsBySchool => exact inferInstanceAs (Std.TransCmp Index.byText)
  | spellsByClass => exact inferInstanceAs (Std.TransCmp Index.byText)
  | itemsByRarity => exact inferInstanceAs (Std.TransCmp Index.byRarity)

end Compendium
