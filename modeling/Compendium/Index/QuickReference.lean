import Compendium.Index.Catalog
import Compendium.Index.Summary

/-!
# Quick references

The entries of each category by name, with one line on each.
-/

namespace Compendium

/-- A line of a quick reference. -/
structure QuickReference where
  name : String
  path : String
  source? : Option String
  summary : String
  deriving DecidableEq

namespace QuickReference

/-- The line of an entry. -/
def ofEntry (e : Entry) : QuickReference :=
  ⟨e.name, e.path, e.source?, Summary.ofFacets e.category e.facets⟩

/-- The quick references of entries, by category. -/
def ofEntries (entries : List Entry) : List (Category × List QuickReference) :=
  let sorted := Entry.sort entries
  Category.lists fun c => (sorted.filter fun e => e.category = c).map ofEntry

end QuickReference

end Compendium
