import Mathlib.Data.List.Basic
import Compendium.Text.Basic

/-!
# Bytes of texts

The bytes of a text in UTF-8 are those of its characters, one after the other, and tell which text
it is.  The byte of an ASCII character stands for that character alone.
-/

namespace Compendium.Text

theorem toList_loop (bytes : ByteArray) (i : Nat) (done : List UInt8) :
    ByteArray.toList.loop bytes i done = done.reverse ++ bytes.data.toList.drop i := by
  fun_induction ByteArray.toList.loop bytes i done with
  | case1 i done hi ih =>
    have hlt : i < bytes.data.toList.length := by simpa using hi
    rw [ih, List.drop_eq_getElem_cons hlt]
    simp [ByteArray.get!, hi]
  | case2 i done hi =>
    rw [List.drop_eq_nil_of_le (by simpa using Nat.le_of_not_lt hi)]
    simp

theorem toList_toByteArray (bytes : List UInt8) : bytes.toByteArray.toList = bytes := by
  rw [ByteArray.toList, toList_loop, List.toList_data_toByteArray]
  rfl

/-- The bytes of a text are those of its characters. -/
theorem toList_toUTF8 (t : String) : t.toUTF8.toList = t.toList.flatMap String.utf8EncodeChar := by
  have hbytes : t.toUTF8 = (t.toList.flatMap String.utf8EncodeChar).toByteArray :=
    String.utf8Encode_toList.symm
  rw [hbytes, toList_toByteArray]

theorem utf8EncodeChar_of_lt {c : Char} (h : c.toNat < 128) :
    String.utf8EncodeChar c = [UInt8.ofNat c.toNat] :=
  if_pos (Nat.le_of_lt_succ h)

theorem fromUTF8?_toList (t : String) :
    String.fromUTF8? t.toUTF8.toList.toByteArray = some t := by
  have hbytes : t.toUTF8.toList.toByteArray = t.toByteArray := by
    rw [toList_toUTF8]
    exact String.utf8Encode_toList
  rw [hbytes, String.fromUTF8?, dif_pos t.isValidUTF8]
  rfl

theorem toList_toUTF8_injective {s t : String} (h : s.toUTF8.toList = t.toUTF8.toList) : s = t := by
  have hs := fromUTF8?_toList s
  rw [h, fromUTF8?_toList] at hs
  exact (Option.some.inj hs).symm

/-- The byte of an ASCII character stands for that character alone. -/
theorem ascii_notMem_utf8EncodeChar {c d : Char} (hd : d.toNat < 128) (h : c ≠ d) :
    UInt8.ofNat d.toNat ∉ String.utf8EncodeChar c := by
  have hc : c.val.toNat ≠ d.toNat := fun he => h (Char.ext (UInt32.toNat.inj he))
  have hbyte : ∀ n, n ≠ d.toNat → n < 256 → UInt8.ofNat d.toNat ≠ UInt8.ofNat n := by
    intro n hn hlt he
    have hval := congrArg UInt8.toNat he
    rw [UInt8.toNat_ofNat', UInt8.toNat_ofNat', Nat.mod_eq_of_lt hlt,
      Nat.mod_eq_of_lt (Nat.lt_trans hd (by decide))] at hval
    exact hn hval.symm
  fun_cases String.utf8EncodeChar c <;>
    simp only [List.mem_cons, List.not_mem_nil, or_false, not_or]
  · exact hbyte _ hc (by omega)
  · exact ⟨hbyte _ (by omega) (by omega), hbyte _ (by omega) (by omega)⟩
  · exact ⟨hbyte _ (by omega) (by omega), hbyte _ (by omega) (by omega),
      hbyte _ (by omega) (by omega)⟩
  · exact ⟨hbyte _ (by omega) (by omega), hbyte _ (by omega) (by omega),
      hbyte _ (by omega) (by omega), hbyte _ (by omega) (by omega)⟩

theorem toNat_ofNat_of_lt {n : Nat} (h : n < 128) : (Char.ofNat n).toNat = n := by
  rw [Char.ofNat, dif_pos (Or.inl (by omega))]
  rfl

/-- A byte below 128 is that of an ASCII character. -/
theorem toNat_eq_of_mem_utf8EncodeChar {c : Char} {b : UInt8} (hb : b ∈ String.utf8EncodeChar c)
    (hlt : b.toNat < 128) : c.toNat = b.toNat := by
  have hval : (Char.ofNat b.toNat).toNat = b.toNat := toNat_ofNat_of_lt hlt
  by_contra hne
  have hother : c ≠ Char.ofNat b.toNat := by
    rintro rfl
    exact hne hval
  refine ascii_notMem_utf8EncodeChar (by omega) hother ?_
  rwa [hval, UInt8.ofNat_toNat]

theorem ascii_notMem_toUTF8 {t : String} {d : Char} (hd : d.toNat < 128) (h : d ∉ t.toList) :
    UInt8.ofNat d.toNat ∉ t.toUTF8.toList := by
  rw [toList_toUTF8, List.mem_flatMap]
  rintro ⟨c, hc, hb⟩
  exact ascii_notMem_utf8EncodeChar hd (fun he => h (he ▸ hc)) hb

theorem percent_notMem_toUTF8 {t : String} (h : '%' ∉ t.toList) : 0x25 ∉ t.toUTF8.toList :=
  ascii_notMem_toUTF8 (d := '%') (by decide) h

end Compendium.Text
