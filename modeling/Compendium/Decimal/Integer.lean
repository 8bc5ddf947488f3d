/-!
# Integers in decimal

Reading signed 64-bit integers.  Their text is the one `toString` writes: the
digits, with a minus sign in front of a negative number.  Sums and products of
such numbers may leave their range and are brought back by whole turns.
-/

namespace Compendium.Decimal

/-- One more than the greatest signed 64-bit number: two to the power 63. -/
def int64Bound : Int := 0x8000000000000000

/-- Whether a number fits a signed 64-bit word. -/
def fitsInt64 (n : Int) : Bool :=
  -int64Bound ≤ n && n < int64Bound

/-- The nearest signed 64-bit number. -/
def clampInt64 (n : Int) : Int :=
  if n < -int64Bound then -int64Bound else if n < int64Bound then n else int64Bound - 1

/-- The signed 64-bit number that a sum or a product comes to: whole turns are
lost. -/
def wrapInt64 (n : Int) : Int :=
  n.bmod 0x10000000000000000

/-- The sum of numbers that are added to a total one after the other. -/
def sumInt64 (total : Int) (terms : List Int) : Int :=
  terms.foldl (fun total n => wrapInt64 (total + n)) total

/-- The value of a digit. -/
def digitValue (c : Char) : Nat :=
  c.toNat - '0'.toNat

/-- The number that a run of digits writes, when `start` was read in front of it. -/
def valueFrom (start : Nat) (digits : List Char) : Nat :=
  digits.foldl (fun n c => n * 10 + digitValue c) start

/-- The number that a run of digits writes. -/
def value (digits : List Char) : Nat :=
  valueFrom 0 digits

/-- A text of one or more digits and nothing else. -/
def isNumeral (s : List Char) : Bool :=
  !s.isEmpty && s.all Char.isDigit

/-- A sign in front, `true` for minus, and what follows it. -/
def splitSign : List Char → Bool × List Char
  | '-' :: rest => (true, rest)
  | '+' :: rest => (false, rest)
  | s => (false, s)

/-- Reads an optional sign and digits as a signed 64-bit integer. -/
def parseInt64? (s : List Char) : Option Int :=
  let (negative, digits) := splitSign s
  if isNumeral digits then
    let n : Int := if negative then -(value digits : Int) else value digits
    if fitsInt64 n then some n else none
  else none

end Compendium.Decimal
