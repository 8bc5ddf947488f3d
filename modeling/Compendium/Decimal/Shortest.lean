import Compendium.Decimal.Integer

/-!
# The fewest digits that read back

A finite binary64 number is `m * 2 ^ q`, and the reals that round to it form an
interval around it, ends included when `m` is even.  `shortest` searches the
grids of decimal numbers from coarse to fine and takes, on the first grid that
meets the interval, the point nearest to the number.
-/

namespace Compendium.Decimal

/-- A finite number without its sign: `mantissa * 2 ^ exponent`. -/
structure Binary where
  mantissa : Nat
  exponent : Int

/-- A decimal number without its sign: `digits * 10 ^ exponent`. -/
structure Scientific where
  digits : Nat
  exponent : Int

/-- Which of two points equally far from a number is taken. -/
inductive Tie where
  | even
  | up

/-- A binary64 number, taken apart. -/
inductive Parts where
  | finite (negative : Bool) (magnitude : Binary)
  | infinite (negative : Bool)
  | nan

/-- The weight of the bit in front of a fraction, which is not stored: two to the
power 52. -/
def hidden : Nat := 0x10000000000000

/-- Takes a number apart by its bits. -/
def partsOf (x : Float) : Parts :=
  let bits := x.toBits.toNat
  let negative := bits / 0x8000000000000000 = 1
  let biased : Nat := bits / hidden % 2048
  let fraction : Nat := bits % hidden
  if biased = 0x7FF then (if fraction = 0 then .infinite negative else .nan)
  else if biased = 0 then .finite negative ⟨fraction, -1074⟩
  else .finite negative ⟨fraction + hidden, (biased : Int) - 1075⟩

/-- The whole number that `x` is, if it is one. -/
def integer? (x : Float) : Option Int :=
  match partsOf x with
  | .finite negative ⟨m, q⟩ =>
    let scale := Nat.pow 2 (-q).toNat
    if m % scale = 0 then
      let n : Int := (m / scale * Nat.pow 2 q.toNat : Nat)
      some (if negative then -n else n)
    else none
  | _ => none

/-- A number rounded toward zero to a signed 64-bit integer; the nearest one if
it is too large, and zero for no number at all. -/
def truncate (x : Float) : Int :=
  match partsOf x with
  | .finite negative ⟨m, q⟩ =>
    let n : Int := (m * Nat.pow 2 q.toNat / Nat.pow 2 (-q).toNat : Nat)
    clampInt64 (if negative then -n else n)
  | .infinite negative => clampInt64 (if negative then -int64Bound else int64Bound)
  | .nan => 0

/-- Drops zeros from the end of the digits; `n` bounds how many. -/
def dropZeros : Nat → Scientific → Scientific
  | 0, d => d
  | n + 1, d => if d.digits % 10 = 0 then dropZeros n ⟨d.digits / 10, d.exponent + 1⟩ else d

/-- A number and the ends of its rounding interval, over a common denominator. -/
structure Interval where
  low : Nat
  mid : Nat
  high : Nat
  denominator : Nat
  closed : Bool

/-- The reals that round to a number.  Below a power of two the grid of binary
numbers is twice as fine, so the interval reaches half as far down. -/
def Binary.interval (b : Binary) : Interval :=
  let down := if b.mantissa = hidden && b.exponent > -1074 then 1 else 2
  let scale := Nat.pow 2 (b.exponent - 2).toNat
  { low := (4 * b.mantissa - down) * scale
    mid := 4 * b.mantissa * scale
    high := (4 * b.mantissa + 2) * scale
    denominator := Nat.pow 2 (2 - b.exponent).toNat
    closed := b.mantissa % 2 = 0 }

/-- The point of the grid `10 ^ g` nearest to the number, if a neighbour of the
number on that grid lies in the interval. -/
def Interval.onGrid? (i : Interval) (tie : Tie) (g : Int) : Option Scientific :=
  let up := Nat.pow 10 (-g).toNat
  let d := i.denominator * Nat.pow 10 g.toNat
  let below := i.mid * up / d
  let within (n : Nat) : Bool :=
    if i.closed then i.low * up ≤ n * d && n * d ≤ i.high * up
    else i.low * up < n * d && n * d < i.high * up
  let fromBelow := i.mid * up - below * d
  let toAbove := (below + 1) * d - i.mid * up
  let takeBelow := fromBelow < toAbove ||
    (fromBelow = toAbove && (match tie with | .even => below % 2 = 0 | .up => false))
  match within below, within (below + 1) with
  | true, true => some ⟨if takeBelow then below else below + 1, g⟩
  | true, false => some ⟨below, g⟩
  | false, true => some ⟨below + 1, g⟩
  | false, false => none

/-- Searches the grids `10 ^ g`, `10 ^ (g - 1)`, … for the first that meets the interval. -/
def Interval.search (i : Interval) (tie : Tie) : Nat → Int → Scientific
  | 0, g => ⟨i.mid * Nat.pow 10 (-g).toNat / (i.denominator * Nat.pow 10 g.toNat), g⟩
  | n + 1, g => (i.onGrid? tie g).getD (i.search tie n (g - 1))

/-- The shortest decimal number that reads back as `b`, nearest to it among
those; zero for zero. -/
def Binary.shortest (b : Binary) (tie : Tie) : Scientific :=
  if b.mantissa = 0 then ⟨0, 0⟩
  else
    let top := (b.mantissa.log2 + b.exponent) * 30103 / 100000 + 2
    dropZeros 20 (b.interval.search tie 24 top)

end Compendium.Decimal
