import Compendium.Decimal.Reading

/-!
# The order of floating-point numbers

Every number has a place in one line: negative numbers, negative zero, zero,
positive numbers.  What is not a number stands at the end of its sign's side.
-/

namespace Compendium.Decimal

/-- The place of a number in the line of all of them. -/
def place (x : Float) : Int :=
  let bits : Int := x.toBits.toNat
  if bits < int64Bound then bits else int64Bound - 1 - bits

/-- The place below all numbers. -/
def lowestPlace : Int :=
  -place (0.0 / 0.0) - 1

/-- The place of the number that a text writes. -/
def place? (s : List Char) : Option Int :=
  (parseFloat? s).map fun x => if x.isNaN && (splitSign s).1 then lowestPlace else place x

/-- The place of a text that writes no number but the word for it. -/
def nanPlace? (s : List Char) : Option Int :=
  if (parseFloat? s).any Float.isNaN then place? s else none

end Compendium.Decimal
