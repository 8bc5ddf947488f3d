import Mathlib.Data.List.Basic
import Compendium.Decimal.Integer

/-!
# Numerals

The text of an integer is a minus sign, if it is negative, and the numeral of its absolute value
(`toList_toString`).  A numeral holds digits alone and its value is the number, so the text of every
number of 64 bits is read back as it (`parseInt64?_toString`), down to the least one, whose absolute
value does not fit.
-/

namespace Compendium.Decimal

/-! ### The numeral of a number -/

theorem isDigit_of_mem_toString {m : Nat} {c : Char} (h : c ∈ (toString m).toList) :
    c.isDigit = true := by
  rw [Nat.toString_eq_repr, Nat.toList_repr] at h
  exact Nat.isDigit_of_mem_toDigits (by decide) (by decide) h

theorem toString_ne_nil (m : Nat) : (toString m).toList ≠ [] := by
  rw [Nat.toString_eq_repr, Nat.toList_repr]
  exact Nat.toDigits_ne_nil

theorem isNumeral_toString (m : Nat) : isNumeral (toString m).toList = true := by
  rw [isNumeral, Bool.and_eq_true, Bool.not_eq_true', List.isEmpty_eq_false_iff]
  exact ⟨toString_ne_nil m, List.all_eq_true.2 fun _ => isDigit_of_mem_toString⟩

theorem value_toString (m : Nat) : value (toString m).toList = m := by
  have hstep : (fun n c => n * 10 + digitValue c) = fun n c => 10 * n + (c.toNat - '0'.toNat) := by
    funext n c
    rw [Nat.mul_comm, digitValue]
  rw [value, valueFrom, hstep, Nat.toString_eq_repr, Nat.toList_repr]
  exact Nat.ofDigitChars_ten_toDigits

theorem toString_injective : Function.Injective (toString : Nat → String) := by
  intro m n h
  rw [← value_toString m, h, value_toString]

/-! ### Signs -/

theorem toList_toString (n : Int) :
    (toString n).toList = (if n < 0 then ['-'] else []) ++ (toString n.natAbs).toList := by
  cases n with
  | ofNat m => rfl
  | negSucc m =>
    rw [if_pos (Int.negSucc_lt_zero m)]
    change ("-" ++ toString (m + 1)).toList = _
    rw [String.toList_append]
    rfl

theorem splitSign_suffix (s : List Char) : (splitSign s).2 <:+ s := by
  unfold splitSign
  split
  · exact List.suffix_cons _ _
  · exact List.suffix_cons _ _
  · exact List.suffix_rfl

theorem splitSign_of_isDigit {c : Char} (h : c.isDigit = true) (rest : List Char) :
    splitSign (c :: rest) = (false, c :: rest) := by
  unfold splitSign
  split
  · next heq =>
    cases heq
    exact absurd h (by decide)
  · next heq =>
    cases heq
    exact absurd h (by decide)
  · rfl

theorem splitSign_toString (n : Int) :
    splitSign (toString n).toList = (decide (n < 0), (toString n.natAbs).toList) := by
  rw [toList_toString]
  by_cases hn : n < 0
  · rw [if_pos hn, decide_eq_true hn]
    rfl
  · obtain ⟨c, rest, hdigits⟩ := List.exists_cons_of_ne_nil (toString_ne_nil n.natAbs)
    rw [if_neg hn, decide_eq_false hn, List.nil_append, hdigits]
    exact splitSign_of_isDigit (isDigit_of_mem_toString (hdigits ▸ List.mem_cons_self)) rest

/-! ### Reading -/

/-- A text that is read as an integer ends in a digit. -/
theorem isDigit_of_parseInt64? {s : List Char} {n : Int} (h : parseInt64? s = some n) {c : Char}
    (hc : s.getLast? = some c) : c.isDigit = true := by
  have hnumeral : isNumeral (splitSign s).2 = true := by
    by_contra hnot
    have hnone : parseInt64? s = none := if_neg hnot
    cases h.symm.trans hnone
  rw [isNumeral, Bool.and_eq_true] at hnumeral
  obtain ⟨hne, hdigits⟩ := hnumeral
  obtain ⟨sign, hs⟩ := splitSign_suffix s
  refine List.all_eq_true.1 hdigits c (List.mem_of_getLast? ?_)
  rw [← hs, List.getLast?_append_of_ne_nil _ (by simpa using hne)] at hc
  exact hc

/-- **The text of a number is read back**, down to the least one. -/
theorem parseInt64?_toString {n : Int} (h : fitsInt64 n = true) :
    parseInt64? (toString n).toList = some n := by
  have hvalue : (if decide (n < 0) = true then -(n.natAbs : Int) else n.natAbs) = n := by
    split
    · next hn =>
      have hneg := of_decide_eq_true hn
      omega
    · next hn =>
      have hpos := of_decide_eq_false (Bool.eq_false_iff.2 hn)
      omega
  simp only [parseInt64?, splitSign_toString, isNumeral_toString, value_toString, if_true, hvalue,
    h]

end Compendium.Decimal
