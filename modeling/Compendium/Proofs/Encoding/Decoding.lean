import Compendium.Proofs.Encoding.Utf8

/-!
# Texts read back from files

A file is read by its mark if it has one, else as UTF-8, and by a hint only if it is not UTF-8 then.
Each encoding that has a mark reads back what it writes (`Form.decode_bytes`), and a reading as
UTF-8 has no malformed part exactly if the bytes are those of a text (`all_isSome_decode_iff`), so
the hint has no say where there is a mark or a text.  The bytes of a text in UTF-8 begin with a mark
only if the text does (`head?_of_marked`); such a text loses its first character.

* `encoded_texts_read_back`: texts, marks and hints, for any decoders that hints may name.
-/

namespace Compendium.Encoding

/-! ### UTF-16 -/

section Utf16

variable {bigEndian : Bool}

/-- The 16-bit units of a character: one, or a surrogate pair. -/
def unitsOf (c : Char) : List Nat :=
  if c.toNat < 0x10000 then [c.toNat]
  else [0xD800 + (c.toNat - 0x10000) / 0x400, 0xDC00 + (c.toNat - 0x10000) % 0x400]

/-- The bytes of a unit. -/
def unitBytes (bigEndian : Bool) (u : Nat) : List UInt8 :=
  let high := UInt8.ofNat (u / 0x100)
  let low := UInt8.ofNat (u % 0x100)
  if bigEndian then [high, low] else [low, high]

theorem lt_of_mem_unitsOf {c : Char} {u : Nat} (h : u ∈ unitsOf c) : u < 0x10000 := by
  have hvalid : c.toNat < 0xD800 ∨ 0xDFFF < c.toNat ∧ c.toNat < 0x110000 := c.valid
  rw [unitsOf] at h
  split at h
  · rw [List.mem_singleton] at h
    omega
  · rw [List.mem_cons, List.mem_singleton] at h
    omega

theorem units_unitBytes {u : Nat} (h : u < 0x10000) (rest : List UInt8) :
    units bigEndian (unitBytes bigEndian u ++ rest) =
      (u :: (units bigEndian rest).1, (units bigEndian rest).2) := by
  have hhigh : (UInt8.ofNat (u / 0x100)).toNat = u / 0x100 := by
    rw [UInt8.toNat_ofNat', Nat.mod_eq_of_lt (by omega)]
  have hlow : (UInt8.ofNat (u % 0x100)).toNat = u % 0x100 := by
    rw [UInt8.toNat_ofNat', Nat.mod_eq_of_lt (by omega)]
  have hu : u / 0x100 * 0x100 + u % 0x100 = u := Nat.div_add_mod' u 0x100
  cases bigEndian with
  | true => simp [unitBytes, units, hhigh, hlow, hu]
  | false => simp [unitBytes, units, hhigh, hlow, hu]

theorem units_flatMap {us : List Nat} (h : ∀ u ∈ us, u < 0x10000) :
    units bigEndian (us.flatMap (unitBytes bigEndian)) = (us, false) := by
  induction us with
  | nil => rfl
  | cons u us ih =>
    rw [List.flatMap_cons, units_unitBytes (h u List.mem_cons_self),
      ih fun v hv => h v (List.mem_cons_of_mem u hv)]

theorem decodeUnits_single {u : Nat} (h : u < 0xD800 ∨ 0xE000 ≤ u) (rest : List Nat) :
    decodeUnits false (u :: rest) = some (Char.ofNat u) :: decodeUnits false rest := by
  have hhigh : ¬(0xD800 ≤ u ∧ u < 0xDC00) := by omega
  have hlow : ¬(0xDC00 ≤ u ∧ u < 0xE000) := by omega
  cases rest with
  | nil => simp [decodeUnits, hhigh, hlow]
  | cons v rest => simp [decodeUnits, hhigh, hlow]

theorem decodeUnits_pair {u v : Nat} (hu : 0xD800 ≤ u ∧ u < 0xDC00) (hv : 0xDC00 ≤ v ∧ v < 0xE000)
    (rest : List Nat) : decodeUnits false (u :: v :: rest) =
      some (Char.ofNat (0x10000 + (u - 0xD800) * 0x400 + (v - 0xDC00))) ::
        decodeUnits false rest := by
  simp [decodeUnits, hu, hv]

theorem decodeUnits_unitsOf (c : Char) (rest : List Nat) :
    decodeUnits false (unitsOf c ++ rest) = some c :: decodeUnits false rest := by
  have hvalid : c.toNat < 0xD800 ∨ 0xDFFF < c.toNat ∧ c.toNat < 0x110000 := c.valid
  rw [unitsOf]
  split
  · next h =>
    rw [List.singleton_append, decodeUnits_single (by omega), Char.ofNat_toNat]
  · next h =>
    have hvalue : 0x10000 + (0xD800 + (c.toNat - 0x10000) / 0x400 - 0xD800) * 0x400 +
        (0xDC00 + (c.toNat - 0x10000) % 0x400 - 0xDC00) = c.toNat := by omega
    rw [List.cons_append, List.singleton_append, decodeUnits_pair (by omega) (by omega), hvalue,
      Char.ofNat_toNat]

theorem decodeUnits_flatMap (cs : List Char) :
    decodeUnits false (cs.flatMap unitsOf) = cs.map some := by
  induction cs with
  | nil => rfl
  | cons c cs ih => rw [List.flatMap_cons, decodeUnits_unitsOf, ih, List.map_cons]

end Utf16

/-! ### Forms with a mark -/

/-- An encoding of all texts that has a byte order mark. -/
inductive Form where
  | utf8
  | utf16 (bigEndian : Bool)

namespace Form

def encoding : Form → Encoding
  | utf8 => .utf8
  | utf16 bigEndian => .utf16 bigEndian

/-- The bytes of a text. -/
def bytes : Form → String → List UInt8
  | utf8, t => t.toUTF8.toList
  | utf16 bigEndian, t => (t.toList.flatMap unitsOf).flatMap (unitBytes bigEndian)

/-- The byte order mark. -/
def mark (form : Form) : List UInt8 :=
  form.bytes "\uFEFF"

/-- **Texts are read back** from their bytes. -/
theorem decode_bytes (form : Form) (t : String) :
    decode form.encoding (form.bytes t) = t.toList.map some := by
  cases form with
  | utf8 =>
    rw [bytes, Text.toList_toUTF8]
    exact decodeUtf8_flatMap t.toList
  | utf16 bigEndian =>
    have hunits : ∀ u ∈ t.toList.flatMap unitsOf, u < 0x10000 := fun u hu => by
      obtain ⟨c, -, hu⟩ := List.mem_flatMap.1 hu
      exact lt_of_mem_unitsOf hu
    rw [encoding, decode, bytes, units_flatMap hunits]
    exact decodeUnits_flatMap t.toList

theorem mark_utf8 : mark .utf8 = [0xEF, 0xBB, 0xBF] := by
  rw [mark, bytes, Text.toList_toUTF8]
  rfl

theorem ofMark?_mark_append (form : Form) (rest : List UInt8) :
    ofMark? (form.mark ++ rest) = some (form.encoding, rest) := by
  rcases form with _ | _ | _
  · rw [mark_utf8]
    rfl
  · rfl
  · rfl

end Form

/-- Bytes that begin with one of the three marks. -/
def Marked (bytes : List UInt8) : Prop :=
  ∃ form : Form, form.mark <+: bytes

theorem ofMark?_eq_none_iff {bytes : List UInt8} : ofMark? bytes = none ↔ ¬Marked bytes := by
  constructor
  · rintro h ⟨form, rest, rfl⟩
    rw [form.ofMark?_mark_append] at h
    cases h
  · intro h
    fun_cases ofMark? bytes with
    | case1 rest => exact absurd ⟨.utf8, rest, by rw [Form.mark_utf8]; rfl⟩ h
    | case2 rest => exact absurd ⟨.utf16 false, rest, rfl⟩ h
    | case3 rest => exact absurd ⟨.utf16 true, rest, rfl⟩ h
    | case4 => rfl

/-- Bytes that are those of a text in UTF-8. -/
def ValidUtf8 (bytes : List UInt8) : Prop :=
  ∃ t : String, Form.utf8.bytes t = bytes

theorem all_isSome_iff {cs : List (Option Char)} :
    cs.all Option.isSome = true ↔ ∃ chars : List Char, cs = chars.map some := by
  constructor
  · intro h
    induction cs with
    | nil => exact ⟨[], rfl⟩
    | cons c? cs ih =>
      obtain ⟨hc, hcs⟩ := Bool.and_eq_true_iff.1 h
      obtain ⟨c, rfl⟩ := Option.isSome_iff_exists.1 hc
      obtain ⟨chars, rfl⟩ := ih hcs
      exact ⟨c :: chars, rfl⟩
  · rintro ⟨chars, rfl⟩
    simp

/-- **UTF-8 is what is read without malformed parts.** -/
theorem all_isSome_decode_iff {bytes : List UInt8} :
    (decode .utf8 bytes).all Option.isSome = true ↔ ValidUtf8 bytes := by
  rw [all_isSome_iff]
  constructor
  · rintro ⟨chars, h⟩
    refine ⟨String.ofList chars, ?_⟩
    rw [Form.bytes, Text.toList_toUTF8, String.toList_ofList]
    exact (decodeUtf8_eq_map_iff.1 h).symm
  · rintro ⟨t, rfl⟩
    exact ⟨t.toList, Form.utf8.decode_bytes t⟩

/-- The bytes of a text begin with a mark only if the text does. -/
theorem head?_of_marked {t : String} (h : Marked (Form.utf8.bytes t)) :
    t.toList.head? = some '\uFEFF' := by
  obtain ⟨form, rest, hbytes⟩ := h
  have hhead : (decodeUtf8 none (form.mark ++ rest)).head? = t.toList.head?.map some := by
    rw [hbytes, ← List.head?_map]
    exact congrArg List.head? (Form.utf8.decode_bytes t)
  -- The marks of UTF-16 begin with bytes that no character has in UTF-8.
  have hnone : ∀ b : UInt8, lead b.toNat = .inl none → ∀ rest,
      (decodeUtf8 none (b :: rest)).head? ≠ t.toList.head?.map some := fun b hb rest => by
    rw [decodeUtf8_of_inl hb]
    cases t.toList.head? <;> simp
  rcases form with _ | _ | _
  · have hmark : Form.mark .utf8 = String.utf8EncodeChar '\uFEFF' := Form.mark_utf8
    rw [hmark, decodeUtf8_of_spells (spells_utf8EncodeChar '\uFEFF'), List.head?_cons] at hhead
    simpa using hhead.symm
  · exact absurd hhead (hnone 0xFF rfl _)
  · exact absurd hhead (hnone 0xFE rfl _)

/-! ### Hints -/

theorem textOf_map_some (t : String) : textOf (t.toList.map some) = t := by
  rw [textOf, List.map_map]
  simp [Function.comp_def]

section Hints

variable (decoderOf? : String → Option Decoder) (hint : Option String)

theorem decodeTextBy_of_mark (form : Form) (rest : List UInt8) :
    decodeTextBy decoderOf? (form.mark ++ rest) hint = textOf (decode form.encoding rest) := by
  simp only [decodeTextBy, decodeMarked, form.ofMark?_mark_append, ite_self]

theorem decodeTextBy_of_not_marked {bytes : List UInt8} (h : ¬Marked bytes) :
    decodeTextBy decoderOf? bytes hint =
      if (decode .utf8 bytes).all Option.isSome then textOf (decode .utf8 bytes)
      else textOf ((hint.bind decoderOf?).getD (decode .windows1252) bytes) := by
  simp only [decodeTextBy, decodeMarked, ofMark?_eq_none_iff.2 h]

/-- **Texts are read back, whatever the hint.**  The bytes of a text in UTF-8 are read as that text
unless it begins with U+FEFF, and the mark of an encoding and the bytes of a text in it are read as
that text.  Bytes that are UTF-8 or begin with a mark are read in the same way for all hints, also
if what is behind the mark is malformed.  All other bytes are read by the decoder that the hint
names, and as windows-1252 if it names none. -/
theorem encoded_texts_read_back :
    (∀ s : String, s.toList.head? ≠ some '\uFEFF' →
      decodeTextBy decoderOf? (Form.utf8.bytes s) hint = s) ∧
    (∀ (form : Form) (s : String),
      decodeTextBy decoderOf? (form.mark ++ form.bytes s) hint = s) ∧
    (∀ bytes, ValidUtf8 bytes ∨ Marked bytes → ∀ hint',
      decodeTextBy decoderOf? bytes hint' = decodeTextBy decoderOf? bytes hint) ∧
    ∀ bytes, ¬ValidUtf8 bytes → ¬Marked bytes →
      decodeTextBy decoderOf? bytes hint =
        textOf ((hint.bind decoderOf?).getD (decode .windows1252) bytes) := by
  refine ⟨fun s hs => ?_, fun form s => ?_, fun bytes h hint' => ?_,
    fun bytes hvalid hmarked => ?_⟩
  · rw [decodeTextBy_of_not_marked _ _ fun h => hs (head?_of_marked h),
      if_pos (all_isSome_decode_iff.2 ⟨s, rfl⟩)]
    exact (congrArg textOf (Form.utf8.decode_bytes s)).trans (textOf_map_some s)
  · rw [decodeTextBy_of_mark, form.decode_bytes, textOf_map_some]
  · by_cases hmarked : Marked bytes
    · obtain ⟨form, rest, rfl⟩ := hmarked
      rw [decodeTextBy_of_mark, decodeTextBy_of_mark]
    · have hclean := all_isSome_decode_iff.2 (h.resolve_right hmarked)
      rw [decodeTextBy_of_not_marked _ _ hmarked, decodeTextBy_of_not_marked _ _ hmarked,
        if_pos hclean, if_pos hclean]
  · rw [decodeTextBy_of_not_marked _ _ hmarked, if_neg (mt all_isSome_decode_iff.1 hvalid)]

end Hints

/-- A word with a letter beyond ASCII, in three encodings, and half a unit behind a mark. -/
theorem encoded_texts_read_back_latin :
    let word := "caf\u00E9"
    let bytes : List UInt8 := [0x63, 0x61, 0x66, 0xE9]
    let cut : List UInt8 := [0xFF, 0xFE, 0x63]
    word.toList.head? ≠ some '\uFEFF' ∧
    decodeText (Form.utf8.bytes word) (some "utf-16be") = word ∧
    decodeText (Form.mark (.utf16 true) ++ Form.bytes (.utf16 true) word) (some "latin1") = word ∧
    Marked cut ∧ decodeText cut (some "latin1") = decodeText cut none ∧
    ¬ValidUtf8 bytes ∧ ¬Marked bytes ∧
    decodeText bytes (some "utf-16be") = "\u6361\u66E9" ∧
    decodeText bytes (some " LATIN1") = word ∧
    decodeText bytes (some "klingon") = word := by
  intro word bytes cut
  have hread := encoded_texts_read_back fun label => (ofLabel? label).map decode
  have hword : word.toList.head? ≠ some '\uFEFF' := by decide
  have hcut : Marked cut := ⟨.utf16 false, [0x63], rfl⟩
  have hvalid : ¬ValidUtf8 bytes := by
    rw [← all_isSome_decode_iff]
    decide +kernel
  have hmarked : ¬Marked bytes := ofMark?_eq_none_iff.1 rfl
  refine ⟨hword, (hread _).1 word hword, (hread _).2.1 (.utf16 true) word, hcut,
    (hread _).2.2.1 cut (Or.inr hcut) _, hvalid, hmarked, ?_, ?_, ?_⟩
  · exact ((hread (some "utf-16be")).2.2.2 bytes hvalid hmarked).trans (by decide +kernel)
  · exact ((hread (some " LATIN1")).2.2.2 bytes hvalid hmarked).trans (by decide +kernel)
  · exact ((hread (some "klingon")).2.2.2 bytes hvalid hmarked).trans (by decide +kernel)

end Compendium.Encoding
