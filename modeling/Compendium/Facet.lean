import Compendium.Assoc
import Compendium.Decimal.Layout
import Compendium.Decimal.Reading
import Compendium.Text.Basic

/-!
# Facets

The attributes by which an entry is indexed.  A set of facets maps keys to
values; values that say nothing are not kept.
-/

namespace Compendium

/-- The value of a facet. -/
inductive Facet where
  | text (t : String)
  | int (n : Int)
  | number (x : Float)
  | flag (b : Bool)
  | list (items : List String)

/-- Whether a value says anything: text that is not blank, a list with elements,
a flag that is set, a finite number. -/
def Facet.isKept : Facet → Bool
  | text t => !Text.isBlank t
  | list items => !items.isEmpty
  | flag b => b
  | int _ => true
  | number x => x.isFinite

/-- A value as text; the elements of a list stand between commas. -/
def Facet.display : Facet → String
  | text t => t
  | int n => toString n
  | number x => Decimal.plain.text x
  | flag b => if b then "true" else "false"
  | list items => ", ".intercalate items

/-- A set of facets, in ascending order of their keys. -/
structure Facets where
  toList : List (String × Facet)

namespace Facets

/-- No facets. -/
def empty : Facets := ⟨[]⟩

instance : Inhabited Facets := ⟨empty⟩

/-- Adds a facet, in place of one with the same key, if its value says anything. -/
def insert (f : Facets) (key : String) (value : Facet) : Facets :=
  if value.isKept then ⟨Assoc.insert key value f.toList⟩ else f

/-- Adds a facet that may be missing. -/
def insert? (f : Facets) (key : String) (value : Option Facet) : Facets :=
  match value with
  | some v => f.insert key v
  | none => f

/-- The value of a facet. -/
def get? (f : Facets) (key : String) : Option Facet :=
  f.toList.lookup key

/-- A facet as text. -/
def text? (f : Facets) (key : String) : Option String :=
  (f.get? key).map Facet.display

/-- A facet as a number. -/
def number? (f : Facets) (key : String) : Option Float :=
  match f.get? key with
  | some (.int n) => some (Float.ofInt n)
  | some (.number x) => some x
  | some (.text t) => Decimal.parseFloat? (Chars.trim t.toList)
  | _ => none

/-- A facet as an integer. -/
def int? (f : Facets) (key : String) : Option Int :=
  match f.get? key with
  | some (.int n) => some n
  | some (.text t) => Decimal.parseInt64? (Chars.trim t.toList)
  | _ => none

/-- Whether a flag is set. -/
def flag (f : Facets) (key : String) : Bool :=
  match f.get? key with
  | some (.flag b) => b
  | _ => false

/-- The values of a facet: a text is one, a list has many. -/
def values (f : Facets) (key : String) : List String :=
  match f.get? key with
  | some (.text t) => [t]
  | some (.list items) => items
  | _ => []

end Facets

end Compendium
