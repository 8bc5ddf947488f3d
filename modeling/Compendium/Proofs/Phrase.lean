import Mathlib.Data.List.Flatten
import Compendium.Phrase
import Compendium.Proofs.Chars
import Compendium.Proofs.Decimal

/-!
# Numbers and amounts in prose

Commas are put into a numeral from its front, but where they stand is counted from its end: one
digit more in front makes the first group longer until it has three digits, and then begins a new
one (`exists_isGrouping`).  Taking the commas out again leaves the text of the number, which is read
back as the number.  An amount of copper pieces is a whole number of the largest coin that it can be
cut into, so nothing is lost in the division, whatever its sign.

* `amounts_are_exact`: the coin of an amount, and the digits and groups of a number.
-/

namespace Compendium.Phrase

open Decimal (fitsInt64 parseInt64?)

/-! ### Groups of digits -/

/-- Digits cut into groups, of three digits each but for the first, which may have fewer. -/
structure IsGrouping (digits first : List Char) (groups : List (List Char)) : Prop where
  flatten : first ++ groups.flatten = digits
  first_ne_nil : first ≠ []
  length_first : first.length ≤ 3
  length_group : ∀ g ∈ groups, g.length = 3

theorem IsGrouping.length_digits {digits first : List Char} {groups : List (List Char)}
    (h : IsGrouping digits first groups) : digits.length = first.length + 3 * groups.length := by
  have hsum : groups.flatten.length = 3 * groups.length := by
    rw [List.length_flatten, List.map_congr_left h.length_group, List.map_const',
      List.sum_replicate_nat, Nat.mul_comm]
  rw [← h.flatten, List.length_append, hsum]

/-- One digit more in front of a first group that has fewer than three. -/
theorem IsGrouping.longer {digits first : List Char} {groups : List (List Char)}
    (h : IsGrouping digits first groups) (hshort : first.length < 3) (c : Char) :
    IsGrouping (c :: digits) (c :: first) groups where
  flatten := by rw [List.cons_append, h.flatten]
  first_ne_nil := List.cons_ne_nil _ _
  length_first := hshort
  length_group := h.length_group

/-- One digit more in front of a first group that is full. -/
theorem IsGrouping.begin {digits first : List Char} {groups : List (List Char)}
    (h : IsGrouping digits first groups) (hfull : first.length = 3) (c : Char) :
    IsGrouping (c :: digits) [c] (first :: groups) where
  flatten := by rw [List.flatten_cons, h.flatten, List.singleton_append]
  first_ne_nil := List.cons_ne_nil _ _
  length_first := by simp
  length_group := by
    intro g hg
    rcases List.mem_cons.1 hg with rfl | hg
    · exact hfull
    · exact h.length_group g hg

/-- A comma stands behind a digit if digits in full groups follow. -/
theorem group_cons (c : Char) (rest : List Char) : group (c :: rest) =
    if rest.length % 3 = 0 ∧ rest ≠ [] then c :: ',' :: group rest else c :: group rest := by
  rw [group]
  simp only [Bool.and_eq_true, decide_eq_true_eq, Bool.not_eq_true', List.isEmpty_eq_false_iff]

/-- **The commas stand between groups.** -/
theorem exists_isGrouping {digits : List Char} (h : digits ≠ []) : ∃ first groups,
    IsGrouping digits first groups ∧ group digits = [','].intercalate (first :: groups) := by
  induction digits with
  | nil => exact absurd rfl h
  | cons c rest ih =>
    by_cases hrest : rest = []
    · subst hrest
      exact ⟨[c], [], ⟨rfl, by simp, by simp, by simp⟩, rfl⟩
    · obtain ⟨first, groups, hgroups, heq⟩ := ih hrest
      -- The number of digits tells how full the first group is.
      have hlength := hgroups.length_digits
      have hlower := List.length_pos_iff.2 hgroups.first_ne_nil
      have hupper := hgroups.length_first
      by_cases hfull : first.length = 3
      · refine ⟨[c], first :: groups, hgroups.begin hfull c, ?_⟩
        rw [group_cons, if_pos ⟨by omega, hrest⟩, heq, List.intercalate_cons_cons]
        rfl
      · have hopen : ¬ (rest.length % 3 = 0 ∧ rest ≠ []) := fun h => hfull (by omega)
        refine ⟨c :: first, groups, hgroups.longer (by omega) c, ?_⟩
        rw [group_cons, if_neg hopen, heq, Chars.intercalate_cons_front]

theorem filter_group {digits : List Char} (h : ',' ∉ digits) :
    (group digits).filter (· ≠ ',') = digits := by
  induction digits with
  | nil => rfl
  | cons c rest ih =>
    rw [List.mem_cons, not_or] at h
    have hc : c ≠ ',' := Ne.symm h.1
    rw [group_cons]
    split <;> simpa [hc] using ih h.2

/-! ### Numbers -/

theorem toList_thousands (n : Int) : (thousands n).toList =
    (if n < 0 then ['-'] else []) ++ group (toString n.natAbs).toList := by
  rw [thousands, String.toList_append, String.toList_ofList]
  split <;> rfl

theorem comma_notMem_toString (m : Nat) : ',' ∉ (toString m).toList :=
  fun h => absurd (Decimal.isDigit_of_mem_toString h) (by decide)

/-- A text without its commas. -/
def withoutCommas (s : String) : List Char :=
  s.toList.filter (· ≠ ',')

theorem withoutCommas_thousands (n : Int) : withoutCommas (thousands n) = (toString n).toList := by
  rw [withoutCommas, toList_thousands, List.filter_append, filter_group (comma_notMem_toString _),
    Decimal.toList_toString]
  split <;> rfl

/-! ### Coins -/

/-- The coins of an amount, with what each is worth in copper pieces. -/
def coinage : List (String × Int) :=
  [("gp", 100), ("sp", 10), ("cp", 1)]

/-- So many of a coin are worth the copper pieces, and no coin that they could be cut into is worth
more. -/
structure IsLargestCoin (copper amount : Int) (coin : String × Int) : Prop where
  mem : coin ∈ coinage
  worth : coin.2 * amount = copper
  largest : ∀ other ∈ coinage, other.2 ∣ copper → other.2 ≤ coin.2

theorem append_space {unit suffix : String} (h : " " ++ unit = suffix) (s : String) :
    s ++ suffix = s ++ " " ++ unit := by
  rw [String.append_assoc, h]

theorem exists_isLargestCoin (copper : Int) : ∃ amount coin,
    coins copper = thousands amount ++ " " ++ coin.1 ∧ IsLargestCoin copper amount coin := by
  by_cases hgp : copper % 100 = 0
  · refine ⟨copper / 100, ("gp", 100), ?_, by simp [coinage], ?_, ?_⟩
    · rw [coins, if_pos hgp]
      exact append_space (by decide) _
    · exact Int.mul_ediv_cancel' (Int.dvd_of_emod_eq_zero hgp)
    · simp [coinage]
  have hno : ¬ (100 : Int) ∣ copper := fun h => hgp (Int.emod_eq_zero_of_dvd h)
  by_cases hsp : copper % 10 = 0
  · refine ⟨copper / 10, ("sp", 10), ?_, by simp [coinage], ?_, ?_⟩
    · rw [coins, if_neg hgp, if_pos hsp]
      exact append_space (by decide) _
    · exact Int.mul_ediv_cancel' (Int.dvd_of_emod_eq_zero hsp)
    · simp [coinage, hno]
  · have hno' : ¬ (10 : Int) ∣ copper := fun h => hsp (Int.emod_eq_zero_of_dvd h)
    refine ⟨copper, ("cp", 1), ?_, by simp [coinage], Int.one_mul _, ?_⟩
    · rw [coins, if_neg hgp, if_neg hsp]
      exact append_space (by decide) _
    · simp [coinage, hno, hno']

/-! ### What is written is exact -/

/-- **An amount is a whole number of the largest coin, and a number is written digit by digit.**
Nothing is lost in the division, also when the amount is owed.  Without its commas a number is the
text of the integer, which reads as it for every number of 64 bits, and the commas stand between a
first group of one to three digits and groups of three. -/
theorem amounts_are_exact :
    (∀ copper : Int, ∃ amount coin, coins copper = thousands amount ++ " " ++ coin.1 ∧
      IsLargestCoin copper amount coin) ∧
    ∀ n : Int, withoutCommas (thousands n) = (toString n).toList ∧
      (fitsInt64 n = true → parseInt64? (withoutCommas (thousands n)) = some n) ∧
      ∃ first groups, IsGrouping (toString n.natAbs).toList first groups ∧
        (thousands n).toList =
          (if n < 0 then ['-'] else []) ++ [','].intercalate (first :: groups) := by
  refine ⟨exists_isLargestCoin, fun n => ⟨withoutCommas_thousands n, fun h => ?_, ?_⟩⟩
  · rw [withoutCommas_thousands]
    exact Decimal.parseInt64?_toString h
  · obtain ⟨first, groups, hgroups, heq⟩ := exists_isGrouping (Decimal.toString_ne_nil n.natAbs)
    exact ⟨first, groups, hgroups, by rw [toList_thousands, heq]⟩

/-- The least number of 64 bits, whose absolute value does not fit, reads back. -/
theorem amounts_are_exact_least :
    thousands (-0x8000000000000000) = "-9,223,372,036,854,775,808" ∧
    fitsInt64 (-0x8000000000000000) = true ∧
    parseInt64? (withoutCommas (thousands (-0x8000000000000000))) = some (-0x8000000000000000) :=
  ⟨by decide +kernel, by decide, (amounts_are_exact.2 _).2.1 (by decide)⟩

example : coins (-1500) = "-15 gp" ∧ coins 50 = "5 sp" ∧ coins (-7) = "-7 cp" := by
  decide +kernel

end Compendium.Phrase
