import Mathlib.Data.List.Basic
import Compendium.Markdown.Link
import Compendium.Proofs.Bytes
import Compendium.Proofs.Document.Paths

/-!
# Targets read back

A reader of a page undoes the percent-encoding of a link's target and follows the path that
comes out from the directory of the page: `decode?` and `resolve?` do both.  An encoded byte is a
percent sign and two digits whose values make up the byte, and any other byte stands for itself.

Encoding leaves percent signs alone, and a target that holds some is decoded as if it had not been
encoded (`percentDecode_flatMap_writtenByte`).  What decoding does at a percent sign depends on the
two bytes behind it.  A hexadecimal digit is written as itself, and any other byte is written as
bytes of which the first one is no hexadecimal digit.  So two digits stand behind a percent sign
after the encoding exactly if they stood there before (`digits?_flatMap_writtenByte`), and no escape
comes up that was not there or was written as a whole.  A target without percent signs is read back
as it was (`decode?_encodeTarget`).

A file is found beside the page (`resolve?_beside`), below it (`resolve?_below`) or, with two dots
in front of the path, in any directory (`resolve?_up`).
-/

namespace Compendium

namespace Markdown

/-! ### Decoding -/

/-- The value of a hexadecimal digit. -/
def hexValue? (b : UInt8) : Option Nat :=
  if 0x30 ≤ b ∧ b ≤ 0x39 then some (b.toNat - 0x30)
  else if 0x41 ≤ b ∧ b ≤ 0x46 then some (b.toNat - 0x37)
  else if 0x61 ≤ b ∧ b ≤ 0x66 then some (b.toNat - 0x57)
  else none

/-- Puts bytes in the places of their percent-encodings; a percent sign without two digits
behind it stands for itself. -/
def percentDecode : List UInt8 → List UInt8
  | [] => []
  | b :: x :: y :: rest =>
    if b = 0x25 then
      match hexValue? x, hexValue? y with
      | some m, some n => UInt8.ofNat (16 * m + n) :: percentDecode rest
      | _, _ => b :: percentDecode (x :: y :: rest)
    else b :: percentDecode (x :: y :: rest)
  | b :: rest => b :: percentDecode rest

/-- The text that a target encodes, if its bytes are those of a text. -/
def decode? (target : String) : Option String :=
  String.fromUTF8? (percentDecode target.toUTF8.toList).toByteArray

theorem percentDecode_cons_of_ne {b : UInt8} (h : b ≠ 0x25) (rest : List UInt8) :
    percentDecode (b :: rest) = b :: percentDecode rest := by
  match rest with
  | [] => rfl
  | [x] => rfl
  | x :: y :: rest => rw [percentDecode, if_neg h]

theorem percentDecode_eq_self {bytes : List UInt8} (h : 0x25 ∉ bytes) :
    percentDecode bytes = bytes := by
  induction bytes with
  | nil => rfl
  | cons b rest ih =>
    rw [List.mem_cons, not_or] at h
    rw [percentDecode_cons_of_ne (Ne.symm h.1), ih h.2]

theorem decode?_eq_self {target : String} (h : '%' ∉ target.toList) :
    decode? target = some target := by
  rw [decode?, percentDecode_eq_self (Text.percent_notMem_toUTF8 h), Text.fromUTF8?_toList]

/-! ### Bytes that are written -/

theorem utf8EncodeChar_upperHexDigit {n : Nat} (h : n < 16) :
    ∃ x, String.utf8EncodeChar (upperHexDigit n) = [x] ∧ hexValue? x = some n := by
  have hdigit : ∀ n : Fin 16,
      (upperHexDigit n).toNat < 128 ∧ hexValue? (UInt8.ofNat (upperHexDigit n).toNat) = some n := by
    decide
  exact ⟨_, Text.utf8EncodeChar_of_lt (hdigit ⟨n, h⟩).1, (hdigit ⟨n, h⟩).2⟩

/-- A byte that is not encoded is an ASCII character. -/
theorem toNat_of_mustEncode {b : UInt8} (h : mustEncode b = false) :
    (Char.ofNat b.toNat).toNat = b.toNat ∧ b.toNat < 128 := by
  have hb : b.toNat < 128 := by
    simp only [mustEncode, Bool.or_eq_false_iff, decide_eq_false_iff_not, UInt8.not_lt] at h
    have hle := UInt8.le_iff_toNat_le.1 h.1.1.1.1.2
    exact Nat.lt_of_le_of_lt hle (by decide)
  exact ⟨Text.toNat_ofNat_of_lt hb, hb⟩

theorem utf8EncodeChar_of_mustEncode {b : UInt8} (h : mustEncode b = false) :
    String.utf8EncodeChar (Char.ofNat b.toNat) = [b] := by
  obtain ⟨hc, hb⟩ := toNat_of_mustEncode h
  rw [Text.utf8EncodeChar_of_lt (by omega), hc, UInt8.ofNat_toNat]

/-- **A target holds characters of its text**, percent signs and digits. -/
theorem mem_encodeTarget {t : String} {c : Char} (h : c ∈ (encodeTarget t).toList) :
    c ∈ t.toList ∨ c = '%' ∨ c.isAlphanum = true := by
  rw [encodeTarget, String.toList_ofList, List.mem_flatMap] at h
  obtain ⟨b, hb, hc⟩ := h
  unfold encodeByte at hc
  split at hc
  · have hdigit : ∀ n : Fin 16, (upperHexDigit n).isAlphanum = true := by decide
    have hlt : b.toNat < 256 := b.toNat_lt
    simp only [List.mem_cons, List.not_mem_nil, or_false] at hc
    rcases hc with rfl | rfl | rfl
    · exact Or.inr (Or.inl rfl)
    · exact Or.inr (Or.inr (hdigit ⟨b.toNat / 16, by omega⟩))
    · exact Or.inr (Or.inr (hdigit ⟨b.toNat % 16, by omega⟩))
  · next hplain =>
    obtain rfl := List.mem_singleton.1 hc
    obtain ⟨hval, hlt⟩ := toNat_of_mustEncode (by simpa using hplain)
    by_contra hnot
    rw [not_or] at hnot
    refine Text.ascii_notMem_toUTF8 (by omega) hnot.1 ?_
    rwa [hval, UInt8.ofNat_toNat]

/-- The bytes that stand for a byte in a target. -/
def writtenByte (b : UInt8) : List UInt8 :=
  (encodeByte b).flatMap String.utf8EncodeChar

theorem toList_toUTF8_encodeTarget (t : String) :
    (encodeTarget t).toUTF8.toList = t.toUTF8.toList.flatMap writtenByte := by
  rw [Text.toList_toUTF8, encodeTarget, String.toList_ofList, List.flatMap_assoc]
  rfl

variable {b : UInt8}

theorem writtenByte_of_plain (h : mustEncode b = false) : writtenByte b = [b] := by
  rw [writtenByte, encodeByte, h, if_neg (by decide), List.flatMap_singleton,
    utf8EncodeChar_of_mustEncode h]

/-- A percent sign and two digits whose values make up the byte. -/
theorem writtenByte_of_mustEncode (h : mustEncode b = true) :
    ∃ x y, writtenByte b = [0x25, x, y] ∧ hexValue? x = some (b.toNat / 16) ∧
      hexValue? y = some (b.toNat % 16) := by
  have hb : b.toNat < 256 := b.toNat_lt
  obtain ⟨x, hx, hm⟩ := utf8EncodeChar_upperHexDigit (n := b.toNat / 16) (by omega)
  obtain ⟨y, hy, hn⟩ := utf8EncodeChar_upperHexDigit (n := b.toNat % 16) (by omega)
  refine ⟨x, y, ?_, hm, hn⟩
  have hpercent : String.utf8EncodeChar '%' = [0x25] := rfl
  simp only [writtenByte, encodeByte, if_pos h, List.flatMap_cons, List.flatMap_nil, hx, hy,
    hpercent, List.append_nil, List.cons_append, List.nil_append]

/-- A hexadecimal digit is not encoded. -/
theorem mustEncode_of_hexValue? (h : (hexValue? b).isSome) : mustEncode b = false := by
  have hdigits : ∀ n : Fin 256, (hexValue? (UInt8.ofNat n)).isSome →
      mustEncode (UInt8.ofNat n) = false := by decide +kernel
  have hb := hdigits ⟨b.toNat, b.toNat_lt⟩
  rw [UInt8.ofNat_toNat] at hb
  exact hb h

/-- What is written begins with a hexadecimal digit exactly if it stands for one. -/
theorem exists_writtenByte (b : UInt8) : ∃ first others, writtenByte b = first :: others ∧
    hexValue? first = hexValue? b ∧ ((hexValue? b).isSome → others = []) := by
  cases hb : mustEncode b with
  | false => exact ⟨b, [], writtenByte_of_plain hb, rfl, fun _ => rfl⟩
  | true =>
    obtain ⟨x, y, hwritten, -, -⟩ := writtenByte_of_mustEncode hb
    have hdigit : hexValue? b = none := by
      rw [← Option.not_isSome_iff_eq_none]
      intro hsome
      rw [mustEncode_of_hexValue? hsome] at hb
      cases hb
    exact ⟨0x25, [x, y], hwritten, hdigit.symm, fun hsome => by rw [hdigit] at hsome; cases hsome⟩

/-! ### Decoding what was encoded -/

/-- **A byte is read back**, unless it is a percent sign. -/
theorem percentDecode_writtenByte (h : b ≠ 0x25) (rest : List UInt8) :
    percentDecode (writtenByte b ++ rest) = b :: percentDecode rest := by
  cases hb : mustEncode b with
  | false =>
    rw [writtenByte_of_plain hb]
    exact percentDecode_cons_of_ne h rest
  | true =>
    obtain ⟨x, y, hwritten, hx, hy⟩ := writtenByte_of_mustEncode hb
    have hvalue : 16 * (b.toNat / 16) + b.toNat % 16 = b.toNat := by omega
    rw [hwritten, List.cons_append, List.cons_append, List.singleton_append, percentDecode,
      if_pos rfl, hx, hy]
    simp only [hvalue, UInt8.ofNat_toNat]

/-- The byte that two hexadecimal digits in front of a text make up, and the text behind them. -/
def digits? : List UInt8 → Option (UInt8 × List UInt8)
  | x :: y :: rest =>
    match hexValue? x, hexValue? y with
    | some m, some n => some (UInt8.ofNat (16 * m + n), rest)
    | _, _ => none
  | _ => none

theorem percentDecode_percent (rest : List UInt8) :
    percentDecode (0x25 :: rest) =
      match digits? rest with
      | some (b, after) => b :: percentDecode after
      | none => 0x25 :: percentDecode rest := by
  match rest with
  | [] => rfl
  | [x] => rfl
  | x :: y :: rest =>
    rw [percentDecode, if_pos rfl, digits?]
    cases hexValue? x <;> cases hexValue? y <;> rfl

theorem digits?_eq_none_of_first {x : UInt8} (h : hexValue? x = none) (rest : List UInt8) :
    digits? (x :: rest) = none := by
  cases rest with
  | nil => rfl
  | cons y rest => rw [digits?, h]

theorem digits?_eq_none_of_second {y : UInt8} (h : hexValue? y = none) (x : UInt8)
    (rest : List UInt8) : digits? (x :: y :: rest) = none := by
  rw [digits?, h]
  cases hexValue? x <;> rfl

/-- **Digits stand in front exactly if they stood there before the encoding.** -/
theorem digits?_flatMap_writtenByte (bytes : List UInt8) :
    digits? (bytes.flatMap writtenByte) =
      (digits? bytes).map fun p => (p.1, p.2.flatMap writtenByte) := by
  cases bytes with
  | nil => rfl
  | cons x rest =>
    obtain ⟨first, others, hx, hvalue, hplain⟩ := exists_writtenByte x
    rw [List.flatMap_cons, hx, List.cons_append]
    cases hm : hexValue? x with
    | none =>
      rw [digits?_eq_none_of_first (hvalue.trans hm), digits?_eq_none_of_first hm]
      rfl
    | some m =>
      rw [hplain (by rw [hm]; rfl), List.nil_append]
      cases rest with
      | nil => rfl
      | cons y rest =>
        obtain ⟨second, others', hy, hvalue', hplain'⟩ := exists_writtenByte y
        rw [List.flatMap_cons, hy, List.cons_append]
        cases hn : hexValue? y with
        | none =>
          rw [digits?_eq_none_of_second (hvalue'.trans hn), digits?_eq_none_of_second hn]
          rfl
        | some n =>
          rw [hplain' (by rw [hn]; rfl), List.nil_append, digits?, digits?, hvalue, hvalue', hm, hn]
          rfl

theorem length_digits? {bytes after : List UInt8} (h : digits? bytes = some (b, after)) :
    after.length < bytes.length := by
  match bytes with
  | [] => cases h
  | [x] => cases h
  | x :: y :: rest =>
    rw [digits?] at h
    split at h
    · cases h
      simp only [List.length_cons]
      omega
    · cases h

/-- **An encoded target is decoded as the target itself.** -/
theorem percentDecode_flatMap_writtenByte (bytes : List UInt8) :
    percentDecode (bytes.flatMap writtenByte) = percentDecode bytes := by
  induction hn : bytes.length using Nat.strongRecOn generalizing bytes with
  | _ n ih =>
    cases bytes with
    | nil => rfl
    | cons b rest =>
      have hrest := ih rest.length (by rw [← hn]; exact Nat.lt_succ_self _) rest rfl
      by_cases hb : b = 0x25
      · subst hb
        rw [List.flatMap_cons, writtenByte_of_plain (by rfl), List.singleton_append,
          percentDecode_percent, percentDecode_percent, digits?_flatMap_writtenByte]
        cases hdigits : digits? rest with
        | none => exact congrArg (0x25 :: ·) hrest
        | some p =>
          obtain ⟨b, after⟩ := p
          have hlt := length_digits? hdigits
          rw [List.length_cons] at hn
          exact congrArg (b :: ·) (ih after.length (by omega) after rfl)
      · rw [List.flatMap_cons, percentDecode_writtenByte hb, hrest, percentDecode_cons_of_ne hb]

theorem decode?_encodeTarget_eq (t : String) : decode? (encodeTarget t) = decode? t := by
  rw [decode?, decode?, toList_toUTF8_encodeTarget, percentDecode_flatMap_writtenByte]

/-- **A target without percent signs is read back** from its encoding. -/
theorem decode?_encodeTarget {target : String} (h : '%' ∉ target.toList) :
    decode? (encodeTarget target) = some target :=
  (decode?_encodeTarget_eq target).trans (decode?_eq_self h)

/-! ### Following a path -/

/-- The directory or file that a part of a path leads to from a directory: two dots lead up,
and one dot stays. -/
def follow (place : List String) (part : String) : List String :=
  if part = ".." then place.dropLast else if part = "." then place else place ++ [part]

/-- The path that a link on a page leads to. -/
def resolve? (page target : String) : Option String :=
  (decode? target).map fun path =>
    "/".intercalate ((Text.splitOn '/' path).foldl follow (Text.splitOn '/' page).dropLast)

theorem follow_of_isPathName {part : String} (h : IsPathName part) (place : List String) :
    follow place part = place ++ [part] := by
  rw [follow, if_neg h.ne_dots, if_neg h.ne_dot]

section Pages

variable {c d : Category} {page file target : String}

/-- **A link to a file beside the page** leads into the directory of the page. -/
theorem resolve?_beside (hpage : IsPathName page) (hfile : IsPathName file)
    (h : decode? target = some file) :
    resolve? (c.dir ++ "/" ++ page) target = some (c.dir ++ "/" ++ file) := by
  have hplace : [file].foldl follow [c.dir] = [c.dir, file] := follow_of_isPathName hfile [c.dir]
  rw [resolve?, h, Option.map_some, Document.splitOn_file c hpage,
    Text.splitOn_of_notMem hfile.slash_notMem]
  exact congrArg (fun place => some ("/".intercalate place)) hplace

example : resolve? "spells/index.md" "%C3%A9clair.md" = some "spells/éclair.md" := by
  decide +kernel

/-- **A link on a page at the root** leads into a directory. -/
theorem resolve?_below (hpage : IsPathName page) (hfile : IsPathName file)
    (h : decode? target = some (c.dir ++ "/" ++ file)) :
    resolve? page target = some (c.dir ++ "/" ++ file) := by
  have hplace : [c.dir, file].foldl follow [] = [c.dir, file] := by
    rw [List.foldl_cons, follow_of_isPathName c.isPathName_dir, List.foldl_cons,
      follow_of_isPathName hfile]
    rfl
  rw [resolve?, h, Option.map_some, Text.splitOn_of_notMem hpage.slash_notMem,
    Document.splitOn_file c hfile]
  exact congrArg (fun place => some ("/".intercalate place)) hplace

/-- **A link that leads up first** finds a file in any directory. -/
theorem resolve?_up (hpage : IsPathName page) (hfile : IsPathName file)
    (h : decode? target = some (".." ++ "/" ++ (c.dir ++ "/" ++ file))) :
    resolve? (d.dir ++ "/" ++ page) target = some (c.dir ++ "/" ++ file) := by
  have hparts : Text.splitOn '/' (".." ++ "/" ++ (c.dir ++ "/" ++ file)) = ["..", c.dir, file] := by
    rw [Text.splitOn_append_slash (by decide), Document.splitOn_file c hfile]
  have hplace : ["..", c.dir, file].foldl follow [d.dir] = [c.dir, file] := by
    have hup : follow [d.dir] ".." = [] := rfl
    rw [List.foldl_cons, hup, List.foldl_cons, follow_of_isPathName c.isPathName_dir,
      List.foldl_cons, follow_of_isPathName hfile]
    rfl
  rw [resolve?, h, Option.map_some, Document.splitOn_file d hpage, hparts]
  exact congrArg (fun place => some ("/".intercalate place)) hplace

end Pages

end Markdown

end Compendium
