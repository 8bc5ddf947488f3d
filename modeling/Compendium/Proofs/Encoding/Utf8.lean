import Compendium.Encoding
import Compendium.Proofs.Bytes

/-!
# Characters read back from UTF-8

A reader of UTF-8 knows from the first byte of a character how many more it owes and in which range
the next one is.  `Owed.PaidBy` is the relation between what is owed and the bytes that pay it, and
`Spells` the one between bytes and the character as which they are read.  The bytes that UTF-8 has
for a character spell it (`spells_utf8EncodeChar`), and no others do (`utf8EncodeChar_of_spells`):
where more bytes would spell a character than it needs, or a surrogate, or nothing at all, the first
byte is malformed or the range of the second one is narrower.  So exactly the bytes of characters
are read as these characters (`decodeUtf8_eq_map_iff`).
-/

namespace Compendium.Encoding

variable {owed : Owed} {b : UInt8} {bs : List UInt8} {c : Char}

/-! ### Steps of the reader -/

theorem decodeUtf8_none_cons (b : UInt8) (rest : List UInt8) :
    decodeUtf8 none (b :: rest) =
      match lead b.toNat with
      | .inl c => c :: decodeUtf8 none rest
      | .inr owed => decodeUtf8 (some owed) rest := rfl

theorem decodeUtf8_some_cons (owed : Owed) (b : UInt8) (rest : List UInt8) :
    decodeUtf8 (some owed) (b :: rest) =
      if owed.least ≤ b.toNat && b.toNat ≤ owed.greatest then
        if owed.tails ≤ 1 then
          some (Char.ofNat (owed.bits * 0x40 + (b.toNat - 0x80))) :: decodeUtf8 none rest
        else decodeUtf8
          (some ⟨owed.tails - 1, owed.bits * 0x40 + (b.toNat - 0x80), 0x80, 0xBF⟩) rest
      else none :: decodeUtf8 none (b :: rest) := rfl

theorem decodeUtf8_of_inl {c? : Option Char} (h : lead b.toNat = .inl c?) (rest : List UInt8) :
    decodeUtf8 none (b :: rest) = c? :: decodeUtf8 none rest := by
  rw [decodeUtf8_none_cons, h]

theorem decodeUtf8_of_inr (h : lead b.toNat = .inr owed) (rest : List UInt8) :
    decodeUtf8 none (b :: rest) = decodeUtf8 (some owed) rest := by
  rw [decodeUtf8_none_cons, h]

/-- A byte that may come next. -/
def Owed.Takes (owed : Owed) (b : UInt8) : Prop :=
  owed.least ≤ b.toNat ∧ b.toNat ≤ owed.greatest

theorem decodeUtf8_last (hb : owed.Takes b) (ht : owed.tails ≤ 1) (rest : List UInt8) :
    decodeUtf8 (some owed) (b :: rest) =
      some (Char.ofNat (owed.bits * 0x40 + (b.toNat - 0x80))) :: decodeUtf8 none rest := by
  rw [decodeUtf8_some_cons, if_pos (by simpa [Owed.Takes] using hb), if_pos ht]

theorem decodeUtf8_tail (hb : owed.Takes b) (ht : 1 < owed.tails) (rest : List UInt8) :
    decodeUtf8 (some owed) (b :: rest) = decodeUtf8
      (some ⟨owed.tails - 1, owed.bits * 0x40 + (b.toNat - 0x80), 0x80, 0xBF⟩) rest := by
  rw [decodeUtf8_some_cons, if_pos (by simpa [Owed.Takes] using hb), if_neg (Nat.not_le.2 ht)]

/-- A byte that may not come next ends the sequence as malformed and is read anew. -/
theorem decodeUtf8_broken (hb : ¬owed.Takes b) (rest : List UInt8) :
    decodeUtf8 (some owed) (b :: rest) = none :: decodeUtf8 none (b :: rest) := by
  rw [decodeUtf8_some_cons, if_neg (by simpa [Owed.Takes] using hb)]

/-! ### First bytes -/

variable {n : Nat}

theorem lead_eq (n : Nat) : lead n =
    if n < 0x80 then .inl (some (Char.ofNat n))
    else if 0xC2 ≤ n ∧ n ≤ 0xDF then .inr ⟨1, n - 0xC0, 0x80, 0xBF⟩
    else if 0xE0 ≤ n ∧ n ≤ 0xEF then
      .inr ⟨2, n - 0xE0, if n = 0xE0 then 0xA0 else 0x80, if n = 0xED then 0x9F else 0xBF⟩
    else if 0xF0 ≤ n ∧ n ≤ 0xF4 then
      .inr ⟨3, n - 0xF0, if n = 0xF0 then 0x90 else 0x80, if n = 0xF4 then 0x8F else 0xBF⟩
    else .inl none := by
  rw [lead]
  grind

theorem lead_one (h : n < 0x80) : lead n = .inl (some (Char.ofNat n)) :=
  if_pos h

theorem lead_two (h : 0xC2 ≤ n ∧ n ≤ 0xDF) : lead n = .inr ⟨1, n - 0xC0, 0x80, 0xBF⟩ := by
  rw [lead_eq, if_neg (by omega), if_pos h]

theorem lead_three (h : 0xE0 ≤ n ∧ n ≤ 0xEF) : lead n =
    .inr ⟨2, n - 0xE0, if n = 0xE0 then 0xA0 else 0x80, if n = 0xED then 0x9F else 0xBF⟩ := by
  rw [lead_eq, if_neg (by omega), if_neg (by omega), if_pos h]

theorem lead_four (h : 0xF0 ≤ n ∧ n ≤ 0xF4) : lead n =
    .inr ⟨3, n - 0xF0, if n = 0xF0 then 0x90 else 0x80, if n = 0xF4 then 0x8F else 0xBF⟩ := by
  rw [lead_eq, if_neg (by omega), if_neg (by omega), if_neg (by omega), if_pos h]

theorem lead_none (h : 0x80 ≤ n) (hnone : n < 0xC2 ∨ 0xF4 < n) : lead n = .inl none := by
  rw [lead_eq, if_neg (by omega), if_neg (by omega), if_neg (by omega), if_neg (by omega)]

theorem lead_ranges (n : Nat) : n < 0x80 ∨ (0xC2 ≤ n ∧ n ≤ 0xDF) ∨ (0xE0 ≤ n ∧ n ≤ 0xEF) ∨
    (0xF0 ≤ n ∧ n ≤ 0xF4) ∨ 0x80 ≤ n ∧ (n < 0xC2 ∨ 0xF4 < n) := by
  omega

theorem lt_of_lead_eq_inl (h : lead n = .inl (some c)) : n < 0x80 ∧ c = Char.ofNat n := by
  rcases lead_ranges n with h1 | h2 | h3 | h4 | ⟨hge, hnone⟩
  · rw [lead_one h1] at h
    cases h
    exact ⟨h1, rfl⟩
  · rw [lead_two h2] at h
    cases h
  · rw [lead_three h3] at h
    cases h
  · rw [lead_four h4] at h
    cases h
  · rw [lead_none hge hnone] at h
    cases h

theorem Owed.takes_any {tails bits : Nat} :
    (⟨tails, bits, 0x80, 0xBF⟩ : Owed).Takes b ↔ 0x80 ≤ b.toNat ∧ b.toNat ≤ 0xBF :=
  Iff.rfl

/-- A first byte of some values narrows the range of the second one; the others allow any. -/
theorem Owed.takes_narrow {tails bits x low y high : Nat} (hlow : 0x80 ≤ low)
    (hhigh : high ≤ 0xBF) :
    (⟨tails, bits, if n = x then low else 0x80, if n = y then high else 0xBF⟩ : Owed).Takes b ↔
      0x80 ≤ b.toNat ∧ b.toNat ≤ 0xBF ∧ (n = x → low ≤ b.toNat) ∧ (n = y → b.toNat ≤ high) := by
  rw [Takes]
  dsimp only
  split <;> split <;> omega

/-! ### Characters -/

/-- The bytes that pay what a sequence under way owes, and the character that it is then. -/
inductive Owed.PaidBy : Owed → List UInt8 → Char → Prop
  | last {owed : Owed} {b : UInt8} (hb : owed.Takes b) (ht : owed.tails ≤ 1) :
      PaidBy owed [b] (Char.ofNat (owed.bits * 0x40 + (b.toNat - 0x80)))
  | tail {owed : Owed} {b : UInt8} {bs : List UInt8} {c : Char} (hb : owed.Takes b)
      (ht : 1 < owed.tails)
      (hbs : PaidBy ⟨owed.tails - 1, owed.bits * 0x40 + (b.toNat - 0x80), 0x80, 0xBF⟩ bs c) :
      PaidBy owed (b :: bs) c

/-- Bytes that are read as one character. -/
inductive Spells : List UInt8 → Char → Prop
  | one {b : UInt8} {c : Char} (h : lead b.toNat = .inl (some c)) : Spells [b] c
  | more {b : UInt8} {owed : Owed} {bs : List UInt8} {c : Char} (h : lead b.toNat = .inr owed)
      (hbs : owed.PaidBy bs c) : Spells (b :: bs) c

theorem Owed.PaidBy.single (hb : owed.Takes b) (ht : owed.tails ≤ 1)
    (hc : owed.bits * 0x40 + (b.toNat - 0x80) = c.toNat) : owed.PaidBy [b] c := by
  have h := Owed.PaidBy.last hb ht
  rwa [hc, Char.ofNat_toNat] at h

/-- **The bytes of a character are read as that character.** -/
theorem spells_utf8EncodeChar (c : Char) : Spells (String.utf8EncodeChar c) c := by
  have hvalid : c.toNat < 0xD800 ∨ 0xDFFF < c.toNat ∧ c.toNat < 0x110000 := c.valid
  have htail : ∀ n, (UInt8.ofNat (n % 64 + 128)).toNat = n % 64 + 128 := fun n => by
    rw [UInt8.toNat_ofNat', Nat.mod_eq_of_lt (by omega)]
  fun_cases String.utf8EncodeChar c with
  | case1 v h =>
    have hv : v = c.toNat := rfl
    have hb : (UInt8.ofNat v).toNat = v := by
      rw [UInt8.toNat_ofNat']
      omega
    refine .one ?_
    rw [hb, lead_one (by omega), hv, Char.ofNat_toNat]
  | case2 v h h' =>
    have hv : v = c.toNat := rfl
    have hb : (UInt8.ofNat (v / 64 % 32 + 192)).toNat = v / 64 + 192 := by
      rw [UInt8.toNat_ofNat']
      omega
    refine .more (lead_two (by omega)) (.single ?_ (Nat.le_refl 1) ?_)
    · rw [Owed.takes_any, htail]
      omega
    · dsimp only
      rw [htail, hb]
      omega
  | case3 v h h' h'' =>
    have hv : v = c.toNat := rfl
    have hb : (UInt8.ofNat (v / 4096 % 16 + 224)).toNat = v / 4096 + 224 := by
      rw [UInt8.toNat_ofNat']
      omega
    refine .more (lead_three (by omega)) (.tail ?_ Nat.one_lt_two (.single ?_ (Nat.le_refl 1) ?_))
    · rw [Owed.takes_narrow (by decide) (by decide), htail, hb]
      omega
    · rw [Owed.takes_any, htail]
      omega
    · dsimp only
      rw [htail, htail, hb]
      omega
  | case4 v h h' h'' =>
    have hv : v = c.toNat := rfl
    have hb : (UInt8.ofNat (v / 262144 % 8 + 240)).toNat = v / 262144 + 240 := by
      rw [UInt8.toNat_ofNat']
      omega
    refine .more (lead_four (by omega)) (.tail ?_ (show 1 < 3 by decide)
      (.tail ?_ Nat.one_lt_two (.single ?_ (Nat.le_refl 1) ?_)))
    · rw [Owed.takes_narrow (by decide) (by decide), htail, hb]
      omega
    · rw [Owed.takes_any, htail]
      omega
    · rw [Owed.takes_any, htail]
      omega
    · dsimp only
      rw [htail, htail, htail, hb]
      omega

theorem Owed.PaidBy.exists_last (h : owed.PaidBy bs c) (ht : owed.tails ≤ 1) :
    ∃ b, bs = [b] ∧ owed.Takes b ∧
      c = Char.ofNat (owed.bits * 0x40 + (b.toNat - 0x80)) := by
  cases h with
  | last hb _ => exact ⟨_, rfl, hb, rfl⟩
  | tail _ hlt _ => exact absurd hlt (Nat.not_lt.2 ht)

theorem Owed.PaidBy.exists_tail (h : owed.PaidBy bs c) (ht : 1 < owed.tails) :
    ∃ b bs', bs = b :: bs' ∧ owed.Takes b ∧
      PaidBy ⟨owed.tails - 1, owed.bits * 0x40 + (b.toNat - 0x80), 0x80, 0xBF⟩ bs' c := by
  cases h with
  | last _ hle => exact absurd ht (Nat.not_lt.2 hle)
  | tail hb _ hbs => exact ⟨_, _, rfl, hb, hbs⟩

theorem val_ofNat (h : n.isValidChar) : (Char.ofNat n).val.toNat = n := by
  rw [Char.ofNat, dif_pos h]
  rfl

theorem ofNat_eq {b : UInt8} (h : n % 256 = b.toNat) : UInt8.ofNat n = b :=
  UInt8.toNat_inj.1 (by rw [UInt8.toNat_ofNat', h])

/-- **No other bytes are read as that character.** -/
theorem utf8EncodeChar_of_spells (h : Spells bs c) : String.utf8EncodeChar c = bs := by
  cases h with
  | one h =>
    obtain ⟨h1, rfl⟩ := lt_of_lead_eq_inl h
    rw [String.utf8EncodeChar, val_ofNat (Or.inl (by omega)), if_pos (by omega), UInt8.ofNat_toNat]
  | @more b owed bs c h hbs =>
    rcases lead_ranges b.toNat with h1 | h2 | h3 | h4 | ⟨hge, hnone⟩
    · rw [lead_one h1] at h
      cases h
    · rw [lead_two h2] at h
      cases h
      obtain ⟨t, rfl, ht, hc⟩ := hbs.exists_last (Nat.le_refl 1)
      rw [Owed.takes_any] at ht
      dsimp only at hc
      rw [hc, String.utf8EncodeChar, val_ofNat (Or.inl (by omega)), if_neg (by omega),
        if_pos (by omega), ofNat_eq (b := b) (by omega), ofNat_eq (b := t) (by omega)]
    · rw [lead_three h3] at h
      cases h
      obtain ⟨t, bs, rfl, ht, hbs⟩ := hbs.exists_tail Nat.one_lt_two
      obtain ⟨u, rfl, hu, hc⟩ := hbs.exists_last (Nat.le_refl 1)
      rw [Owed.takes_narrow (by decide) (by decide)] at ht
      rw [Owed.takes_any] at hu
      dsimp only at hc
      rw [hc, String.utf8EncodeChar, val_ofNat (by unfold Nat.isValidChar; omega),
        if_neg (by omega), if_neg (by omega), if_pos (by omega), ofNat_eq (b := b) (by omega),
        ofNat_eq (b := t) (by omega), ofNat_eq (b := u) (by omega)]
    · rw [lead_four h4] at h
      cases h
      obtain ⟨t, bs, rfl, ht, hbs⟩ := hbs.exists_tail (show 1 < 3 by decide)
      obtain ⟨u, bs, rfl, hu, hbs⟩ := hbs.exists_tail Nat.one_lt_two
      obtain ⟨w, rfl, hw, hc⟩ := hbs.exists_last (Nat.le_refl 1)
      rw [Owed.takes_narrow (by decide) (by decide)] at ht
      rw [Owed.takes_any] at hu hw
      dsimp only at hc
      rw [hc, String.utf8EncodeChar, val_ofNat (Or.inr (by omega)), if_neg (by omega),
        if_neg (by omega), if_neg (by omega), ofNat_eq (b := b) (by omega),
        ofNat_eq (b := t) (by omega), ofNat_eq (b := u) (by omega), ofNat_eq (b := w) (by omega)]
    · rw [lead_none hge hnone] at h
      cases h

/-! ### Readings -/

theorem decodeUtf8_of_paidBy (h : owed.PaidBy bs c) (rest : List UInt8) :
    decodeUtf8 (some owed) (bs ++ rest) = some c :: decodeUtf8 none rest := by
  induction h with
  | last hb ht => exact decodeUtf8_last hb ht rest
  | tail hb ht _ ih => exact (decodeUtf8_tail hb ht _).trans ih

theorem decodeUtf8_of_spells (h : Spells bs c) (rest : List UInt8) :
    decodeUtf8 none (bs ++ rest) = some c :: decodeUtf8 none rest := by
  cases h with
  | one h => exact decodeUtf8_of_inl h rest
  | more h hbs => exact (decodeUtf8_of_inr h _).trans (decodeUtf8_of_paidBy hbs rest)

/-- **Characters are read back** from their bytes. -/
theorem decodeUtf8_flatMap (cs : List Char) :
    decodeUtf8 none (cs.flatMap String.utf8EncodeChar) = cs.map some := by
  induction cs with
  | nil => rw [List.flatMap_nil, decodeUtf8, List.map_nil]
  | cons c cs ih =>
    rw [List.flatMap_cons, decodeUtf8_of_spells (spells_utf8EncodeChar c), ih, List.map_cons]

theorem exists_paidBy_of_decodeUtf8 {bytes : List UInt8} {cs : List (Option Char)}
    (h : decodeUtf8 (some owed) bytes = some c :: cs) :
    ∃ bs rest, bytes = bs ++ rest ∧ owed.PaidBy bs c ∧ decodeUtf8 none rest = cs := by
  induction bytes generalizing owed with
  | nil => cases h
  | cons b bytes ih =>
    by_cases hb : owed.Takes b
    · by_cases ht : owed.tails ≤ 1
      · rw [decodeUtf8_last hb ht] at h
        obtain ⟨hc, rfl⟩ := List.cons.inj h
        obtain rfl := Option.some.inj hc
        exact ⟨[b], bytes, rfl, .last hb ht, rfl⟩
      · rw [decodeUtf8_tail hb (Nat.not_le.1 ht)] at h
        obtain ⟨bs, rest, rfl, hbs, hrest⟩ := ih h
        exact ⟨b :: bs, rest, rfl, .tail hb (Nat.not_le.1 ht) hbs, hrest⟩
    · rw [decodeUtf8_broken hb] at h
      cases h

theorem exists_spells_of_decodeUtf8 {bytes : List UInt8} {cs : List (Option Char)}
    (h : decodeUtf8 none bytes = some c :: cs) :
    ∃ bs rest, bytes = bs ++ rest ∧ Spells bs c ∧ decodeUtf8 none rest = cs := by
  cases bytes with
  | nil => cases h
  | cons b bytes =>
    cases hlead : lead b.toNat with
    | inl c? =>
      rw [decodeUtf8_of_inl hlead] at h
      cases h
      exact ⟨[b], bytes, rfl, .one hlead, rfl⟩
    | inr owed =>
      rw [decodeUtf8_of_inr hlead] at h
      obtain ⟨bs, rest, rfl, hbs, hrest⟩ := exists_paidBy_of_decodeUtf8 h
      exact ⟨b :: bs, rest, rfl, .more hlead hbs, hrest⟩

theorem decodeUtf8_some_ne_nil (owed : Owed) (bytes : List UInt8) :
    decodeUtf8 (some owed) bytes ≠ [] := by
  induction bytes generalizing owed with
  | nil => exact List.cons_ne_nil _ _
  | cons b bytes ih =>
    by_cases hb : owed.Takes b
    · by_cases ht : owed.tails ≤ 1
      · rw [decodeUtf8_last hb ht]
        exact List.cons_ne_nil _ _
      · rw [decodeUtf8_tail hb (Nat.not_le.1 ht)]
        exact ih _
    · rw [decodeUtf8_broken hb]
      exact List.cons_ne_nil _ _

theorem eq_nil_of_decodeUtf8 {bytes : List UInt8} (h : decodeUtf8 none bytes = []) :
    bytes = [] := by
  cases bytes with
  | nil => rfl
  | cons b bytes =>
    cases hlead : lead b.toNat with
    | inl c? =>
      rw [decodeUtf8_of_inl hlead] at h
      cases h
    | inr owed =>
      rw [decodeUtf8_of_inr hlead] at h
      exact absurd h (decodeUtf8_some_ne_nil owed bytes)

/-- **Only the bytes of characters are read as these characters.** -/
theorem decodeUtf8_eq_map_iff {bytes : List UInt8} {cs : List Char} :
    decodeUtf8 none bytes = cs.map some ↔ bytes = cs.flatMap String.utf8EncodeChar := by
  constructor
  · intro h
    induction cs generalizing bytes with
    | nil => exact eq_nil_of_decodeUtf8 h
    | cons c cs ih =>
      obtain ⟨bs, rest, rfl, hbs, hrest⟩ := exists_spells_of_decodeUtf8 h
      rw [List.flatMap_cons, utf8EncodeChar_of_spells hbs, ih hrest]
  · rintro rfl
    exact decodeUtf8_flatMap cs

end Compendium.Encoding
