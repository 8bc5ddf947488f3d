import Compendium.Decimal.Reading
import Compendium.Json.Token
import Compendium.Toml.Value

/-!
# Literals of TOML

Integers, floating-point numbers, dates and times, each as a whole word.
-/

namespace Compendium.Toml

/-- Digits with single underscores between them; the digits alone. -/
def digits? (isDigit : Char → Bool) (s : List Char) : Option (List Char) :=
  let groups := s.splitOn '_'
  if groups.all fun g => !g.isEmpty && g.all isDigit then some groups.flatten else none

/-- The value of digits in a base. -/
def valueIn (base : Nat) (digits : List Char) : Nat :=
  digits.foldl (fun n c => n * base + (Json.hexValue? c).getD 0) 0

/-- A digit of a base. -/
def isDigitOf (base : Nat) (c : Char) : Bool :=
  ((Json.hexValue? c).map fun n => decide (n < base)).getD false

/-- An integer without a sign in a base. -/
def integerIn? (base : Nat) (s : List Char) : Option Int :=
  (digits? (isDigitOf base) s).map fun digits => (valueIn base digits : Int)

/-- The digits of a decimal number, which has no zero in front. -/
def decimalDigits? (s : List Char) : Option (List Char) :=
  if s.head? = some '0' && s ≠ ['0'] then none else digits? Char.isDigit s

/-- A decimal integer with an optional sign. -/
def decimal? (s : List Char) : Option Int :=
  let (negative, digits) := Decimal.splitSign s
  (decimalDigits? digits).map fun digits =>
    if negative then -(Decimal.value digits : Int) else Decimal.value digits

/-- An integer that fits 64 bits. -/
def integer? (s : List Char) : Option Int :=
  let n? := match s with
    | '0' :: 'x' :: rest => integerIn? 16 rest
    | '0' :: 'o' :: rest => integerIn? 8 rest
    | '0' :: 'b' :: rest => integerIn? 2 rest
    | _ => decimal? s
  n?.filter Decimal.fitsInt64

/-- Whether a word is an exponent's mark. -/
def isExponentMark (c : Char) : Bool :=
  c = 'e' || c = 'E'

/-- A floating-point number, which has a fraction or an exponent.  Too large a
number is refused unless it is negative. -/
def isFloat (s : List Char) : Bool :=
  let (negative, magnitude) := Decimal.splitSign s
  if magnitude = "inf".toList || magnitude = "nan".toList then true
  else
    let mantissa := magnitude.takeWhile fun c => !isExponentMark c
    let whole := mantissa.takeWhile fun c => c ≠ '.'
    let exponentFits := match magnitude.dropWhile fun c => !isExponentMark c with
      | [] => mantissa.contains '.'
      | _ :: exponent => (digits? Char.isDigit (Decimal.splitSign exponent).2).isSome
    let fractionFits := match mantissa.dropWhile fun c => c ≠ '.' with
      | [] => true
      | _ :: fraction => (digits? Char.isDigit fraction).isSome
    (decimalDigits? whole).isSome && fractionFits && exponentFits &&
      (negative ||
        ((Decimal.parseFloat? (s.filter fun c => c ≠ '_')).map Float.isFinite).getD false)

/-- The number that two digits write, if it is in a range. -/
def pair? (low high : Nat) (a b : Char) : Option Nat :=
  if a.isDigit && b.isDigit then
    let n := Decimal.value [a, b]
    if low ≤ n && n ≤ high then some n else none
  else none

/-- The number of days in a month. -/
def daysIn (year month : Nat) : Nat :=
  if month = 2 then
    if year % 4 = 0 && (year % 100 ≠ 0 || year % 400 = 0) then 29 else 28
  else if month = 4 || month = 6 || month = 9 || month = 11 then 30
  else 31

/-- A date in front of a word; what follows it. -/
def date? : List Char → Option (List Char)
  | a :: b :: c :: d :: '-' :: m :: n :: '-' :: x :: y :: rest =>
    if Decimal.isNumeral [a, b, c, d] then do
      let month ← pair? 1 12 m n
      let _ ← pair? 1 (daysIn (Decimal.value [a, b, c, d]) month) x y
      return rest
    else none
  | _ => none

/-- A time of day in front of a word; what follows it. -/
def time? : List Char → Option (List Char)
  | a :: b :: ':' :: c :: d :: ':' :: e :: f :: rest => do
    let _ ← pair? 0 23 a b
    let _ ← pair? 0 59 c d
    let _ ← pair? 0 60 e f
    match rest with
    | '.' :: fraction =>
      if (fraction.takeWhile Char.isDigit).isEmpty then none
      else some (fraction.dropWhile Char.isDigit)
    | _ => some rest
  | _ => none

/-- Whether a word is an offset from universal time, or nothing. -/
def isOffset : List Char → Bool
  | [] => true
  | ['Z'] => true
  | ['z'] => true
  | [sign, a, b, ':', c, d] =>
    (sign = '+' || sign = '-') && (pair? 0 23 a b).isSome && (pair? 0 59 c d).isSome
  | _ => false

/-- Whether a word is a date, a time, or both. -/
def isDateTime (s : List Char) : Bool :=
  match date? s with
  | some [] => true
  | some (mark :: rest) =>
    (mark = 'T' || mark = 't' || mark = ' ') && ((time? rest).map isOffset).getD false
  | none => time? s = some []

/-- The value that a word writes. -/
def literal? (s : List Char) : Option Value :=
  if s = "true".toList then some (.boolean true)
  else if s = "false".toList then some (.boolean false)
  else match integer? s with
    | some n => some (.integer n)
    | none =>
      if isFloat s then some .real
      else if isDateTime s then some .moment
      else none

end Compendium.Toml
