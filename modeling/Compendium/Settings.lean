import Compendium.Conversion.PathRegistry
import Compendium.Render.Style
import Compendium.SourceFilter

/-!
# Settings of a conversion
-/

namespace Compendium

/-- What a conversion can be told. -/
structure Settings where
  /-- The level of headings at depth zero, before it is brought into range. -/
  baseLevel : Nat
  linkReferences : Bool
  /-- The codes of the sources that are wanted; none for all of them. -/
  sources : List String
  collision : CollisionPolicy
  /-- Whether a listing page is written for each category. -/
  categoryPages : Bool

namespace Settings

/-- The settings when nothing is told. -/
def default : Settings :=
  ⟨Render.Style.defaultLevel, false, [], .suffixSource, true⟩

/-- The style of rendering. -/
def style (s : Settings) : Render.Style :=
  .make s.linkReferences s.baseLevel

/-- The filter of sources. -/
def sourceFilter (s : Settings) : SourceFilter :=
  .ofList s.sources

end Settings

end Compendium
