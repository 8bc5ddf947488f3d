import Compendium.Decimal.Integer

/-!
# Reading floating-point numbers

`parseFloat?` reads decimal notation with an optional point and exponent, and
the words for infinity and not-a-number, rounding to the nearest number.
-/

namespace Compendium.Decimal

/-- `m * 10 ^ e`, rounded to the nearest number.  Far outside the range the
result is settled without computing the power. -/
def roundScientific (m : Nat) (e : Int) : Float :=
  let magnitude : Int := (toString m).length + e
  if m = 0 || magnitude < -400 then 0.0
  else if 400 < magnitude then 1.0 / 0.0
  else Float.ofScientific m (e < 0) e.natAbs

/-- A mantissa: digits, perhaps with a point among, before or after them.
Gives the digits in front of the point, those behind it, and the rest. -/
def splitMantissa (s : List Char) : Option (List Char × List Char × List Char) :=
  let whole := s.takeWhile Char.isDigit
  match s.dropWhile Char.isDigit with
  | '.' :: after =>
    let fraction := after.takeWhile Char.isDigit
    if whole.isEmpty && fraction.isEmpty then none
    else some (whole, fraction, after.dropWhile Char.isDigit)
  | rest => if whole.isEmpty then none else some (whole, [], rest)

/-- An exponent that runs to the end of the text, or nothing. -/
def parseExponent? : List Char → Option Int
  | [] => some 0
  | c :: rest =>
    if c = 'e' || c = 'E' then
      let (negative, digits) := splitSign rest
      if isNumeral digits then some (if negative then -(value digits : Int) else value digits)
      else none
    else none

/-- Reads an unsigned number. -/
def parseMagnitude? (s : List Char) : Option Float :=
  let lowered := s.map Char.toLower
  if lowered = "inf".toList || lowered = "infinity".toList then some (1.0 / 0.0)
  else if lowered = "nan".toList then some (0.0 / 0.0)
  else do
    let (whole, fraction, rest) ← splitMantissa s
    let e ← parseExponent? rest
    return roundScientific (value (whole ++ fraction)) (e - fraction.length)

/-- Reads a number with an optional sign. -/
def parseFloat? (s : List Char) : Option Float :=
  let (negative, magnitude) := splitSign s
  (parseMagnitude? magnitude).map fun x => if negative then -x else x

end Compendium.Decimal
