import Compendium.Assoc
import Compendium.Decimal.Integer
import Compendium.Decimal.Layout

/-!
# JSON values

A value of the data format in which records arrive and indexes leave.  An
object read from text holds its fields in ascending order of their keys, one
field a key.
-/

namespace Compendium

/-- A number: an integer that fits 64 bits, signed or unsigned, or a
floating-point number. -/
inductive Number where
  | int (n : Int)
  | float (x : Float)

/-- A JSON value. -/
inductive Json where
  | null
  | bool (b : Bool)
  | num (n : Number)
  | str (s : String)
  | arr (items : List Json)
  | obj (fields : List (String × Json))

instance : Inhabited Json := ⟨.null⟩

namespace Number

/-- The number as a signed 64-bit integer, unless it is a floating-point number
or too large. -/
def int64? : Number → Option Int
  | .int n => if Decimal.fitsInt64 n then some n else none
  | .float _ => none

/-- The number as a floating-point number. -/
def toFloat : Number → Float
  | .int n => Float.ofInt n
  | .float x => x

/-- The number as data formats write it. -/
def text : Number → String
  | .int n => toString n
  | .float x => Decimal.data.text x

end Number

namespace Json

/-- The value of a string. -/
def str? : Json → Option String
  | .str s => some s
  | _ => none

theorem str?_eq_some_iff {v : Json} {t : String} : v.str? = some t ↔ v = .str t := by
  cases v <;> simp [str?]

/-- The elements of an array. -/
def arr? : Json → Option (List Json)
  | .arr items => some items
  | _ => none

theorem arr?_eq_some_iff {v : Json} {items : List Json} :
    v.arr? = some items ↔ v = .arr items := by
  cases v <;> simp [arr?]

/-- The elements of an array; nothing for any other value. -/
def elements : Json → List Json
  | .arr items => items
  | _ => []

/-- The value of a number that is a signed 64-bit integer. -/
def int64? : Json → Option Int
  | .num n => n.int64?
  | _ => none

end Json

end Compendium
