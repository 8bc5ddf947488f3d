import Compendium.Category
import Compendium.Facet

/-!
# Index entries

One entry stands for one document.  Entries are listed by name, without regard to
case; the other fields settle ties, so that only equal rows compare as equal.
-/

namespace Compendium

/-- What the indexes know of a document. -/
structure Entry where
  name : String
  category : Category
  source? : Option String
  path : String
  facets : Facets

namespace Entry

/-- The order of listings: by lower-cased name, name, category, source and path. -/
def order : Entry → Entry → Ordering :=
  compareLex (compareOn fun e => Text.lower e.name) <|
  compareLex (compareOn fun e => e.name) <|
  compareLex (compareOn fun e => e.category.rank) <|
  compareLex (compareOn fun e => e.source?) (compareOn fun e => e.path)

/-- Entries in the order of listings; entries that tie keep their order. -/
def sort (entries : List Entry) : List Entry :=
  entries.mergeSort fun a b => (order a b).isLE

end Entry

end Compendium
