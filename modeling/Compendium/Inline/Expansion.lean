import Compendium.Inline.Invocation
import Compendium.Inline.Tag

/-!
# Expanding tags

Every tag of a text gives way to its rendering; its arguments are expanded
first.  Tags nested deeper than `maxDepth` stay as they are.
-/

namespace Compendium.Inline

/-- How deep tags inside arguments are expanded. -/
def maxDepth : Nat := 10

/-- Expands the tags of a text, nested ones up to `depth` levels. -/
def expandTo (mode : Mode) : Nat → List Char → List Char
  | 0, text => text
  | depth + 1, text =>
    (segments text).flatMap fun
      | .char c => [c]
      | .tag body =>
        let i := Invocation.parse body
        (render mode (String.ofList i.name)
          (i.args.map fun arg => String.ofList (expandTo mode depth arg))).toList

/-- Expands the tags of a text. -/
def expand (mode : Mode) (text : String) : String :=
  String.ofList (expandTo mode maxDepth text.toList)

/-- The text that is shown when all markup is taken away. -/
def plainText (text : String) : String :=
  expand ⟨false, true⟩ text

end Compendium.Inline
