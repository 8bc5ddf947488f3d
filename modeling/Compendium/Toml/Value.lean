import Compendium.Assoc

/-!
# TOML values

The values of a configuration file.  Floating-point numbers, dates and times are
told apart from other values but not kept, since no setting is one of them.
-/

namespace Compendium.Toml

/-- How a table came to be.  It decides what may still be added to the table. -/
inductive Origin where
  /-- By a header of its own. -/
  | header
  /-- By the header of a table inside it. -/
  | implied
  /-- By dotted keys. -/
  | dotted
  /-- In braces. -/
  | inline
  deriving DecidableEq

/-- A value. -/
inductive Value where
  | string (text : String)
  | integer (n : Int)
  | boolean (b : Bool)
  /-- A floating-point number. -/
  | real
  /-- A date, a time, or both. -/
  | moment
  | array (items : List Value)
  /-- The tables under one repeated header, the latest first. -/
  | tables (rows : List (List (String × Value)))
  | table (origin : Origin) (fields : List (String × Value))

/-- The fields of a table, in ascending order of their keys. -/
abbrev Fields := List (String × Value)

namespace Fields

/-- Adds a value under a dotted key, the last part of which is `key`.  The table
that receives the value must not have the key, and below the first part it must
itself come from dotted keys, which `isOpen` tells. -/
def add (isOpen : Bool) (key : String) (value : Value) : List String → Fields → Option Fields
  | [], fields =>
    if isOpen && (fields.lookup key).isNone then some (Assoc.insert key value fields) else none
  | part :: rest, fields =>
    match fields.lookup part with
    | none => (add true key value rest []).map fun f => Assoc.insert part (.table .dotted f) fields
    | some (.table .dotted inner) =>
      (add true key value rest inner).map fun f => Assoc.insert part (.table .dotted f) fields
    | some (.table .implied inner) =>
      (add false key value rest inner).map fun f => Assoc.insert part (.table .implied f) fields
    | some (.tables (row :: rows)) =>
      (add false key value rest row).map fun f => Assoc.insert part (.tables (f :: rows)) fields
    | _ => none

/-- Changes what stands under the path of a header.  Tables on the way are made as
far as they are missing, and of repeated tables the latest is meant. -/
def alter (change : Option Value → Option Value) : List String → Fields → Option Fields
  | [], _ => none
  | [key], fields => (change (fields.lookup key)).map fun value => Assoc.insert key value fields
  | part :: rest, fields =>
    match fields.lookup part with
    | none => (alter change rest []).map fun f => Assoc.insert part (.table .implied f) fields
    | some (.table .inline _) => none
    | some (.table origin inner) =>
      (alter change rest inner).map fun f => Assoc.insert part (.table origin f) fields
    | some (.tables (row :: rows)) =>
      (alter change rest row).map fun f => Assoc.insert part (.tables (f :: rows)) fields
    | _ => none

/-- Opens the table of a header, which must be new or implied. -/
def openTable : Option Value → Option Value
  | none => some (.table .header [])
  | some (.table .implied fields) => some (.table .header fields)
  | _ => none

/-- Opens one more table under a repeated header. -/
def appendTable : Option Value → Option Value
  | none => some (.tables [[]])
  | some (.tables rows) => some (.tables ([] :: rows))
  | _ => none

/-- Changes the fields of the table that a header has opened. -/
def inTable (change : Fields → Option Fields) : Option Value → Option Value
  | some (.table origin fields) => (change fields).map (.table origin)
  | some (.tables (row :: rows)) => (change row).map fun f => .tables (f :: rows)
  | _ => none

end Fields

end Compendium.Toml
