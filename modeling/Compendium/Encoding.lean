import Compendium.Text.Case

/-!
# Decoding bytes

Bytes become text by UTF-8, UTF-16 or windows-1252, the way the web reads them:
each malformed part becomes one replacement character.  A decoder gives `none`
for such a part, so `decodeText` can tell whether a reading was clean.
-/

namespace Compendium

/-- A way to read bytes as text. -/
inductive Encoding where
  | utf8
  | utf16 (bigEndian : Bool)
  | windows1252
  deriving DecidableEq, Repr

namespace Encoding

/-- The labels of each encoding. -/
def labels : List (Encoding × List String) :=
  [(.utf8, ["unicode-1-1-utf-8", "unicode11utf8", "unicode20utf8", "utf-8", "utf8",
      "x-unicode20utf8"]),
    (.utf16 false, ["csunicode", "iso-10646-ucs-2", "ucs-2", "unicode", "unicodefeff", "utf-16",
      "utf-16le"]),
    (.utf16 true, ["unicodefffe", "utf-16be"]),
    (.windows1252, ["ansi_x3.4-1968", "ascii", "cp1252", "cp819", "csisolatin1", "ibm819",
      "iso-8859-1", "iso-ir-100", "iso8859-1", "iso88591", "iso_8859-1", "iso_8859-1:1987", "l1",
      "latin1", "us-ascii", "windows-1252", "x-cp1252"])]

/-- ASCII white space. -/
def isAsciiSpace (c : Char) : Bool :=
  c = ' ' || c = '\t' || c = '\n' || c = '\x0c' || c = '\r'

/-- The encoding with a label, in any ASCII case and with white space around it. -/
def ofLabel? (label : String) : Option Encoding :=
  let label := Text.asciiLower (Text.dropEndWhile isAsciiSpace
    (Text.dropFrontWhile isAsciiSpace label))
  (labels.find? fun l => l.2.contains label).map Prod.fst

/-- The encoding that a byte order mark names, and the bytes after the mark. -/
def ofMark? : List UInt8 → Option (Encoding × List UInt8)
  | 0xEF :: 0xBB :: 0xBF :: rest => some (.utf8, rest)
  | 0xFF :: 0xFE :: rest => some (.utf16 false, rest)
  | 0xFE :: 0xFF :: rest => some (.utf16 true, rest)
  | _ => none

/-- A UTF-8 sequence under way: the tails owed, the bits read, and the bounds of
the next tail. -/
structure Owed where
  tails : Nat
  bits : Nat
  least : Nat
  greatest : Nat

/-- The first byte of a sequence: a character at once, or what it owes. -/
def lead (b : Nat) : Option Char ⊕ Owed :=
  if b < 0x80 then .inl (some (Char.ofNat b))
  else if 0xC2 ≤ b && b ≤ 0xDF then .inr ⟨1, b - 0xC0, 0x80, 0xBF⟩
  else if b = 0xE0 then .inr ⟨2, 0, 0xA0, 0xBF⟩
  else if b = 0xED then .inr ⟨2, 0xD, 0x80, 0x9F⟩
  else if 0xE1 ≤ b && b ≤ 0xEF then .inr ⟨2, b - 0xE0, 0x80, 0xBF⟩
  else if b = 0xF0 then .inr ⟨3, 0, 0x90, 0xBF⟩
  else if 0xF1 ≤ b && b ≤ 0xF3 then .inr ⟨3, b - 0xF0, 0x80, 0xBF⟩
  else if b = 0xF4 then .inr ⟨3, 4, 0x80, 0x8F⟩
  else .inl none

/-- Decodes UTF-8, where a sequence may be under way.  A byte that cannot
continue it ends it as malformed and is read anew. -/
def decodeUtf8 : Option Owed → List UInt8 → List (Option Char)
  | none, [] => []
  | some _, [] => [none]
  | none, b :: rest =>
    match lead b.toNat with
    | .inl c => c :: decodeUtf8 none rest
    | .inr owed => decodeUtf8 (some owed) rest
  | some owed, b :: rest =>
    let n := b.toNat
    if owed.least ≤ n && n ≤ owed.greatest then
      let bits := owed.bits * 0x40 + (n - 0x80)
      if owed.tails ≤ 1 then some (Char.ofNat bits) :: decodeUtf8 none rest
      else decodeUtf8 (some ⟨owed.tails - 1, bits, 0x80, 0xBF⟩) rest
    else
      none ::
        match lead n with
        | .inl c => c :: decodeUtf8 none rest
        | .inr next => decodeUtf8 (some next) rest

/-- The 16-bit units of a text, and whether a byte is left over. -/
def units (bigEndian : Bool) : List UInt8 → List Nat × Bool
  | [] => ([], false)
  | [_] => ([], true)
  | a :: b :: rest =>
    let (us, odd) := units bigEndian rest
    ((if bigEndian then a.toNat * 0x100 + b.toNat else b.toNat * 0x100 + a.toNat) :: us, odd)

/-- Decodes 16-bit units; `odd` tells that half a unit follows them.  A half of
a surrogate pair that stands alone is malformed, and so is the end of a text
that breaks off inside a character. -/
def decodeUnits (odd : Bool) : List Nat → List (Option Char)
  | [] => if odd then [none] else []
  | [u] =>
    if 0xD800 ≤ u && u < 0xDC00 then [none]
    else (if 0xDC00 ≤ u && u < 0xE000 then none else some (Char.ofNat u)) ::
      (if odd then [none] else [])
  | u :: v :: rest =>
    if 0xD800 ≤ u && u < 0xDC00 then
      if 0xDC00 ≤ v && v < 0xE000 then
        some (Char.ofNat (0x10000 + (u - 0xD800) * 0x400 + (v - 0xDC00))) :: decodeUnits odd rest
      else none :: decodeUnits odd (v :: rest)
    else (if 0xDC00 ≤ u && u < 0xE000 then none else some (Char.ofNat u)) ::
      decodeUnits odd (v :: rest)

/-- The characters of windows-1252 from 0x80 to 0x9F. -/
def windows1252High : List Nat :=
  [0x20AC, 0x81, 0x201A, 0x192, 0x201E, 0x2026, 0x2020, 0x2021, 0x2C6, 0x2030, 0x160, 0x2039, 0x152,
    0x8D, 0x17D, 0x8F, 0x90, 0x2018, 0x2019, 0x201C, 0x201D, 0x2022, 0x2013, 0x2014, 0x2DC, 0x2122,
    0x161, 0x203A, 0x153, 0x9D, 0x17E, 0x178]

/-- The character of a byte in windows-1252. -/
def windows1252Char (b : UInt8) : Char :=
  let n := b.toNat
  if 0x80 ≤ n && n < 0xA0 then Char.ofNat (windows1252High.getD (n - 0x80) n) else Char.ofNat n

/-- What reads bytes as characters; `none` stands for a malformed part. -/
abbrev Decoder := List UInt8 → List (Option Char)

/-- The decoder of an encoding. -/
def decode : Encoding → Decoder
  | .utf8, bytes => decodeUtf8 none bytes
  | .utf16 bigEndian, bytes =>
    let (us, odd) := units bigEndian bytes
    decodeUnits odd us
  | .windows1252, bytes => bytes.map fun b => some (windows1252Char b)

/-- Decodes bytes by the encoding of their mark, or else by a given decoder. -/
def decodeMarked (fallback : Decoder) : Decoder := fun bytes =>
  match ofMark? bytes with
  | some (e, rest) => decode e rest
  | none => fallback bytes

/-- The character that takes the place of a malformed part. -/
def replacement : Char := '\uFFFD'

/-- The text of a reading. -/
def textOf (cs : List (Option Char)) : String :=
  String.ofList (cs.map fun c => c.getD replacement)

/-- Decodes the bytes of a file: as UTF-8 if that is clean, else by the decoder
that has `hint` as a label, and without one as windows-1252. -/
def decodeTextBy (decoderOf? : String → Option Decoder) (bytes : List UInt8)
    (hint : Option String) : String :=
  let first := decodeMarked (decode .utf8) bytes
  if first.all Option.isSome then textOf first
  else textOf (decodeMarked ((hint.bind decoderOf?).getD (decode .windows1252)) bytes)

/-- Decodes the bytes of a file, where a hint is a label of one of the encodings
above. -/
def decodeText : List UInt8 → Option String → String :=
  decodeTextBy fun label => (ofLabel? label).map decode

end Encoding

end Compendium
