import Compendium.Decimal.Shortest

/-!
# Layouts of floating-point numbers

What a format decides beyond the digits: how far positional notation reaches,
whether a whole number keeps a fraction, and which way ties go.
-/

namespace Compendium.Decimal

/-- The decisions of a floating-point format.  Numbers whose leading digit stands
at `10 ^ e` are written positionally when `exponents` has no bounds or holds `e`. -/
structure Layout where
  exponents : Option (Int × Int)
  wholeFraction : Bool
  tie : Tie

/-- Zeros, as text. -/
def zeros (n : Nat) : String :=
  String.ofList (List.replicate n '0')

/-- Digits with the point where it belongs. -/
def Layout.positional (layout : Layout) (d : Scientific) : String :=
  let digits := toString d.digits
  let fraction := if layout.wholeFraction then ".0" else ""
  let point : Int := digits.length + d.exponent
  if 0 ≤ d.exponent then digits ++ zeros d.exponent.toNat ++ fraction
  else if 0 < point then
    String.ofList (digits.toList.take point.toNat) ++ "." ++
      String.ofList (digits.toList.drop point.toNat)
  else "0." ++ zeros (-point).toNat ++ digits

/-- One digit before the point, and a signed power of ten. -/
def Layout.exponential (d : Scientific) : String :=
  let digits := (toString d.digits).toList
  let e : Int := digits.length - 1 + d.exponent
  let lead := String.ofList (digits.take 1)
  let rest := String.ofList (digits.drop 1)
  (if rest.isEmpty then lead else lead ++ "." ++ rest) ++ "e" ++
    (if e < 0 then toString e else "+" ++ toString e)

/-- The text of a number. -/
def Layout.text (layout : Layout) (x : Float) : String :=
  match partsOf x with
  | .nan => "NaN"
  | .infinite negative => if negative then "-inf" else "inf"
  | .finite negative magnitude =>
    let d := magnitude.shortest layout.tie
    let e : Int := (toString d.digits).length - 1 + d.exponent
    let body := match layout.exponents with
      | none => layout.positional d
      | some (least, greatest) =>
        if least ≤ e && e ≤ greatest then layout.positional d else Layout.exponential d
    if negative then "-" ++ body else body

/-- Numbers in prose: never an exponent, and no fraction on whole numbers. -/
def plain : Layout := ⟨none, false, .up⟩

/-- Numbers in data: a fraction or an exponent always shows that they are not
integers, and an exponent is written below `1e-5` and from `1e16` on. -/
def data : Layout := ⟨some (-5, 15), true, .even⟩

end Compendium.Decimal
