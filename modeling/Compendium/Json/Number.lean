import Compendium.Json.Basic

/-!
# Numbers of JSON texts

A literal without fraction and exponent is an integer if it fits 64 bits, signed
or unsigned; every other literal, and `-0`, is a floating-point number.  The
first digits that fit an unsigned 64-bit word are its significand; further
digits of the whole part only raise the exponent, further digits of the fraction
are dropped.  One multiplication or division by a power of ten then gives the
value.
-/

namespace Compendium.Number

open Decimal (digitValue splitSign isNumeral value)

/-- Reads digits onto `n` as long as the result fits an unsigned 64-bit word;
gives the digits left. -/
def accumulate (n : Nat) : List Char → Nat × List Char
  | [] => (n, [])
  | c :: rest =>
    if n * 10 + digitValue c < 0x10000000000000000 then accumulate (n * 10 + digitValue c) rest
    else (n, c :: rest)

/-- A power of ten. -/
def tenTo (n : Nat) : Float :=
  Float.ofScientific 1 false n

/-- Multiplies by `10 ^ e`, where a power beyond the greatest of the format is
reached in steps; `none` if the result is beyond the greatest number. -/
def scale (x : Float) (e : Int) : Option Float :=
  if e < -308 then
    if x == 0.0 then some x else scale (x / tenTo 308) (e + 308)
  else if e < 0 then some (x / tenTo e.natAbs)
  else if e ≤ 308 then
    let y := x * tenTo e.natAbs
    if y.isInf then none else some y
  else if x == 0.0 then some x else none
termination_by e.natAbs
decreasing_by omega

/-- A literal, cut into its parts; an absent fraction or exponent is empty. -/
structure Literal where
  negative : Bool
  whole : List Char
  fraction : List Char
  exponent : List Char

/-- Cuts a literal into its parts.  The whole part has no superfluous zero, and
a point or an exponent mark is followed by a digit. -/
def Literal.parse? (s : List Char) : Option Literal := do
  let (negative, s) := match s with
    | '-' :: rest => (true, rest)
    | _ => (false, s)
  let whole := s.takeWhile Char.isDigit
  guard (isNumeral whole && (whole.length = 1 || whole.head? ≠ some '0'))
  let (fraction, s) ← match s.dropWhile Char.isDigit with
    | '.' :: rest =>
      let fraction := rest.takeWhile Char.isDigit
      if fraction.isEmpty then none else some (fraction, rest.dropWhile Char.isDigit)
    | rest => some ([], rest)
  match s with
  | [] => return ⟨negative, whole, fraction, []⟩
  | c :: exponent =>
    guard ((c = 'e' || c = 'E') && isNumeral (splitSign exponent).2)
    return ⟨negative, whole, fraction, exponent⟩

/-- The exponent of a literal, within 32 bits. -/
def Literal.exponentValue (l : Literal) : Int :=
  let (negative, digits) := splitSign l.exponent
  let n : Int := if value digits < 0x80000000 then value digits else 0x80000000
  if negative then -n else n

/-- The value of a literal; `none` if it is beyond the greatest number. -/
def Literal.value? (l : Literal) : Option Number :=
  let (whole, dropped) := accumulate 0 l.whole
  if dropped.isEmpty && l.fraction.isEmpty && l.exponent.isEmpty then
    if !l.negative then some (.int whole)
    else if whole = 0 || 0x8000000000000000 < whole then some (.float (-(Float.ofNat whole)))
    else some (.int (-(whole : Int)))
  else
    let (significand, ignored) := accumulate whole l.fraction
    let e : Int := dropped.length - (l.fraction.length - ignored.length : Nat) + l.exponentValue
    (scale (Float.ofNat significand) e).map fun x => .float (if l.negative then -x else x)

/-- Reads a number literal. -/
def parse? (s : List Char) : Option Number := do
  (← Literal.parse? s).value?

end Compendium.Number
