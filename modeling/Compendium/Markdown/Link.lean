/-!
# Links

A link's target is written in printable ASCII: a byte of its UTF-8 form that
could end the target or be read as something else becomes `%` and two
hexadecimal digits.
-/

namespace Compendium.Markdown

/-- Whether a byte of a target must be encoded. -/
def mustEncode (b : UInt8) : Bool :=
  b < 0x21 || 0x7E < b || b = 0x22 || b = 0x3C || b = 0x3E || b = 0x60

/-- An upper-case hexadecimal digit. -/
def upperHexDigit (n : Nat) : Char :=
  Char.ofNat (if n < 10 then 48 + n else 55 + n)

/-- A byte as it stands in a target. -/
def encodeByte (b : UInt8) : List Char :=
  if mustEncode b then ['%', upperHexDigit (b.toNat / 16), upperHexDigit (b.toNat % 16)]
  else [Char.ofNat b.toNat]

/-- A target in printable ASCII. -/
def encodeTarget (target : String) : String :=
  String.ofList (target.toUTF8.toList.flatMap encodeByte)

/-- A link. -/
def link (text target : String) : String :=
  "[" ++ text ++ "](" ++ encodeTarget target ++ ")"

end Compendium.Markdown
