import Compendium.Category
import Compendium.Slug

/-!
# Documents

A document is a record as Markdown, with the path at which it is to be written.
-/

namespace Compendium

/-- A rendered record. -/
structure Document where
  name : String
  source? : Option String
  page? : Option Nat
  category : Category
  path : String
  body : String

namespace Document

/-- The file name, without extension, for a name that has no slug. -/
def unnamedStem : String := "entry"

/-- The file name, without extension, for a name. -/
def stem (name : String) : String :=
  (Text.nonEmpty? (Slug.slug name)).getD unnamedStem

/-- The path at which a document of this name belongs. -/
def naturalPath (category : Category) (name : String) : String :=
  category.dir ++ "/" ++ stem name ++ ".md"

end Document

end Compendium
