import Compendium.Proofs.Conversion.Freshness
import Compendium.Proofs.Markdown.Target

/-!
# Characters of targets

The bytes that a byte is written as are written as themselves: a percent sign and digits need no
encoding.  So the characters that a target may hold are those of whose bytes none is encoded
(`isTargetChar_iff`), every target holds these alone, and a target that is encoded already is
written as it is (`encodeTarget_eq_self_iff`).

* `target_reads_as_written`: the characters of a target, and what is read from it.
-/

namespace Compendium

namespace Markdown

/-- **Nothing that is written must be encoded.** -/
theorem mustEncode_of_mem_writtenByte {b z : UInt8} (h : z ∈ writtenByte b) :
    mustEncode z = false := by
  cases hb : mustEncode b with
  | false =>
    rw [writtenByte_of_plain hb, List.mem_singleton] at h
    rw [h, hb]
  | true =>
    obtain ⟨x, y, hwritten, hx, hy⟩ := writtenByte_of_mustEncode hb
    rw [hwritten] at h
    simp only [List.mem_cons, List.not_mem_nil, or_false] at h
    rcases h with rfl | rfl | rfl
    · rfl
    · exact mustEncode_of_hexValue? (Option.isSome_of_eq_some hx)
    · exact mustEncode_of_hexValue? (Option.isSome_of_eq_some hy)

theorem flatMap_writtenByte_eq_self {bytes : List UInt8}
    (h : ∀ b ∈ bytes, mustEncode b = false) : bytes.flatMap writtenByte = bytes := by
  rw [List.flatMap_congr fun b hb => writtenByte_of_plain (h b hb), List.flatMap_singleton']

/-! ### Characters of targets -/

/-- The characters that a target may hold: those of ASCII that print, without the space, quotes,
angle brackets and backticks. -/
def IsTargetChar (c : Char) : Prop :=
  0x21 ≤ c.toNat ∧ c.toNat ≤ 0x7E ∧ c ∉ ['"', '<', '>', '\x60']

instance : DecidablePred IsTargetChar := fun _ => inferInstanceAs (Decidable (_ ∧ _))

/-- They are the characters of whose bytes none must be encoded. -/
theorem isTargetChar_iff {c : Char} :
    IsTargetChar c ↔ ∀ b ∈ String.utf8EncodeChar c, mustEncode b = false := by
  by_cases hc : c.toNat < 128
  · have hascii : ∀ n : Fin 128,
        IsTargetChar (Char.ofNat n) ↔ mustEncode (UInt8.ofNat n) = false := by decide +kernel
    have hchar := hascii ⟨c.toNat, hc⟩
    rw [Char.ofNat_toNat] at hchar
    rw [hchar, Text.utf8EncodeChar_of_lt hc, List.forall_mem_singleton]
  · refine iff_of_false (fun h => hc (Nat.lt_of_le_of_lt h.2.1 (by decide))) fun h => hc ?_
    obtain ⟨b, hb⟩ := List.exists_mem_of_ne_nil _ (String.utf8EncodeChar_ne_nil (c := c))
    have hlt := (toNat_of_mustEncode (h b hb)).2
    rwa [Text.toNat_eq_of_mem_utf8EncodeChar hb hlt]

theorem forall_isTargetChar_iff {t : String} :
    (∀ c ∈ t.toList, IsTargetChar c) ↔ ∀ b ∈ t.toUTF8.toList, mustEncode b = false := by
  rw [Text.toList_toUTF8, List.forall_mem_flatMap]
  exact forall₂_congr fun _ _ => isTargetChar_iff

/-- **What is written holds characters of targets alone.** -/
theorem isTargetChar_of_mem_encodeTarget {t : String} :
    ∀ c ∈ (encodeTarget t).toList, IsTargetChar c := by
  rw [forall_isTargetChar_iff, toList_toUTF8_encodeTarget, List.forall_mem_flatMap]
  exact fun _ _ _ => mustEncode_of_mem_writtenByte

/-- **A target is written as it is** exactly if it holds characters of targets alone. -/
theorem encodeTarget_eq_self_iff {t : String} :
    encodeTarget t = t ↔ ∀ c ∈ t.toList, IsTargetChar c := by
  constructor
  · intro h
    rw [← h]
    exact isTargetChar_of_mem_encodeTarget
  · intro h
    apply Text.toList_toUTF8_injective
    rw [toList_toUTF8_encodeTarget]
    exact flatMap_writtenByte_eq_self (forall_isTargetChar_iff.1 h)

end Markdown

open Markdown

/-- **What a target is read as.**  The target of a link holds characters of targets alone, whatever
text it encodes.  It is written as it is if it is encoded again, and so is every text of such
characters; every other text is written as another one.  The bytes that it decodes to are those
that the text itself decodes to, also where that holds percent signs.  And the path of every
document of a run decodes to itself, as it is and as it is written in a link. -/
theorem target_reads_as_written (text target : String) :
    link text target = "[" ++ text ++ "](" ++ encodeTarget target ++ ")" ∧
    (∀ c ∈ (encodeTarget target).toList, IsTargetChar c) ∧
    encodeTarget (encodeTarget target) = encodeTarget target ∧
    (encodeTarget target = target ↔ ∀ c ∈ target.toList, IsTargetChar c) ∧
    percentDecode (encodeTarget target).toUTF8.toList = percentDecode target.toUTF8.toList ∧
    ∀ settings calls, ∀ d ∈ ((Converter.new settings).run calls).1,
      decode? d.path = some d.path ∧ decode? (encodeTarget d.path) = some d.path := by
  refine ⟨rfl, isTargetChar_of_mem_encodeTarget, ?_, encodeTarget_eq_self_iff, ?_, ?_⟩
  · exact encodeTarget_eq_self_iff.2 isTargetChar_of_mem_encodeTarget
  · rw [toList_toUTF8_encodeTarget, percentDecode_flatMap_writtenByte]
  · intro settings calls d hd
    have hplace := (Converter.pathsOf_run settings calls).place d hd
    have hpath : decode? d.path = some d.path := decode?_eq_self (hplace.notMem_toList (by decide))
    exact ⟨hpath, (decode?_encodeTarget_eq d.path).trans hpath⟩

/-- A target with an escape, a percent sign that begins none, and half an escape in front of a
character that is encoded; and the path of a document with a letter outside ASCII. -/
theorem target_reads_as_written_mixed :
    let target := "a%20b%4\"é 100%"
    let calls : List Converter.Call := [.records .item [.obj [("name", .str "Épée")]]]
    encodeTarget target = "a%20b%4%22%C3%A9%20100%" ∧
    encodeTarget (encodeTarget target) = encodeTarget target ∧
    percentDecode (encodeTarget target).toUTF8.toList = percentDecode target.toUTF8.toList ∧
    ∀ d ∈ ((Converter.new .default).run calls).1, d.path = "items/épée.md" ∧
      encodeTarget d.path = "items/%C3%A9p%C3%A9e.md" ∧
      decode? (encodeTarget d.path) = some d.path := by
  intro target calls
  obtain ⟨-, -, hagain, -, hbytes, hpaths⟩ := target_reads_as_written "a" target
  have hrun : ((Converter.new .default).run calls).1.map Document.path = ["items/épée.md"] := by
    decide +kernel
  refine ⟨by decide +kernel, hagain, hbytes, fun d hd => ?_⟩
  have hpath : d.path = "items/épée.md" := by
    have hm := List.mem_map_of_mem (f := Document.path) hd
    rw [hrun] at hm
    exact List.mem_singleton.1 hm
  refine ⟨hpath, ?_, (hpaths .default calls d hd).2⟩
  rw [hpath]
  decide +kernel

end Compendium
