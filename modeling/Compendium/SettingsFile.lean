import Compendium.Error
import Compendium.Settings
import Compendium.Toml.Parser

/-!
# Settings files

Settings are written in TOML.  What a file does not set keeps its default, and what
no setting is called is ignored.  A group of settings may also be an array, which
gives them in order, or a date, which sets none of them.
-/

namespace Compendium.Settings

open Compendium.Toml (Fields Value)

/-- The values of a group's settings, by name or by position. -/
def groupValues? (names : List String) : Value → Option (List (Option Value))
  | .table _ fields => some (names.map fun name => fields.lookup name)
  | .array items => some ((List.range names.length).map fun i => items[i]?)
  | .tables rows =>
    some ((List.range names.length).map fun i => rows.reverse[i]?.map (.table .header))
  | .moment => some (names.map fun _ => none)
  | _ => none

/-- The value that is set, read, or the default. -/
def orDefault {α : Type} (fallback : α) (read? : Value → Option α) : Option Value → Option α
  | none => some fallback
  | some v => read? v

/-- A truth value. -/
def readBool? : Value → Option Bool
  | .boolean b => some b
  | _ => none

/-- A level of headings, which is one byte. -/
def readLevel? : Value → Option Nat
  | .integer n => if 0 ≤ n && n < 256 then some n.toNat else none
  | _ => none

/-- A text. -/
def readText? : Value → Option String
  | .string text => some text
  | _ => none

/-- A list of texts. -/
def readTexts? : Value → Option (List String)
  | .array items => items.mapM readText?
  | _ => none

/-- The collision policy of a name. -/
def policyOfName? : String → Option CollisionPolicy
  | "suffix-source" => some .suffixSource
  | "overwrite" => some .overwrite
  | _ => none

/-- Whether a value holds nothing. -/
def isHollow : Value → Bool
  | .array [] => true
  | .table _ [] => true
  | _ => false

/-- A collision policy: its name, or a table with an empty value under its name. -/
def readPolicy? : Value → Option CollisionPolicy
  | .string name => policyOfName? name
  | .table _ [(name, v)] => if isHollow v then policyOfName? name else none
  | _ => none

/-- The settings of a file's fields. -/
def ofFields? (fields : Fields) : Option Settings := do
  let render ← orDefault [none, none] (groupValues? ["base_heading_level", "link_references"])
    (fields.lookup "render")
  let output ← orDefault [none] (groupValues? ["write_category_pages"]) (fields.lookup "output")
  return {
    baseLevel := ← orDefault default.baseLevel readLevel? (render[0]?).join
    linkReferences := ← orDefault default.linkReferences readBool? (render[1]?).join
    sources := ← orDefault default.sources readTexts? (fields.lookup "sources")
    collision := ← orDefault default.collision readPolicy? (fields.lookup "collision")
    categoryPages := ← orDefault default.categoryPages readBool? (output[0]?).join }

/-- Reads a settings file. -/
def parse (text : String) : Except Error Settings :=
  match (Toml.parse? text).bind ofFields? with
  | some settings => .ok settings
  | none => .error .config

end Compendium.Settings
