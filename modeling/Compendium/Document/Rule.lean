import Compendium.Document.Fields

/-!
# Rules, conditions and actions
-/

namespace Compendium.Document

open Compendium.Render (Style)

namespace Rule

/-- The kind of rule for a code. -/
def kindOfCode? : String → Option String
  | "C" => some "Core"
  | "O" => some "Optional"
  | "P" => some "Prerelease"
  | "V" => some "Variant"
  | "VO" => some "Variant optional"
  | "VV" => some "Variant variant"
  | "U" => some "Unofficial"
  | _ => none

/-- The kind of a rule. -/
def kind? (r : Record) : Option String :=
  (r.str? "ruleType").bind kindOfCode?

/-- The layout of rules. -/
def layout : Layout where
  subtitle? := fun _ r => some (((kind? r).map (· ++ " rule")).getD "Rule")
  parts := [.rule, .entries "entries"]
  facets := fun _ r => Facets.empty |>.insert? "rule_type" ((kind? r).map .text)

end Rule

namespace Condition

/-- The layout of conditions. -/
def layout : Layout where
  subtitle? := fun _ _ => some "Condition"
  parts := [.rule, .entries "entries"]
  facets := fun _ _ => Facets.empty

end Condition

namespace Action

/-- The actions to see too. -/
def seeAlso (_ : Style) (r : Record) : String :=
  match Text.joined? ", " ((r.strings "seeAlsoAction").map referenceName) with
  | some names => "*See also: " ++ names ++ "*"
  | none => ""

/-- The layout of actions. -/
def layout : Layout where
  subtitle? := fun _ _ => some "Action"
  parts := [.lines [⟨"Time", time?⟩], .rule, .entries "entries", .custom seeAlso]
  facets := fun s r => Facets.empty |>.insert? "time" ((time? s r).map .text)

end Action

end Compendium.Document
