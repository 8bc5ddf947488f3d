import Compendium.Assoc
import Compendium.Index.Catalog
import Compendium.Json.Basic
import Compendium.Slug

/-!
# The global index

A list of all entries by name.  Names are looked up by their keys, which do not
distinguish case, punctuation and spacing: the index knows at which places each key
stands in the list.
-/

namespace Compendium

namespace GlobalIndex

/-- A row of the global index. -/
structure Row where
  name : String
  category : Category
  source? : Option String
  path : String
  deriving DecidableEq

/-- The row of an entry. -/
def Row.ofEntry (e : Entry) : Row :=
  ⟨e.name, e.category, e.source?, e.path⟩

/-- The places that are noted under a key. -/
def placesAt (places : List (String × List Nat)) (key : String) : List Nat :=
  (places.lookup key).getD []

/-- Notes a place under a key, behind those that stand there. -/
def addPlace (places : List (String × List Nat)) (key : String) (place : Nat) :
    List (String × List Nat) :=
  Assoc.insert key (placesAt places key ++ [place]) places

/-- The places of rows under the lookup keys of their names, noted row by row. -/
def placesOf (rows : List Row) : List (String × List Nat) :=
  rows.zipIdx.foldl (fun places p => addPlace places (Slug.key p.1.name) p.2) []

end GlobalIndex

/-- All entries, as they are listed, and the places at which each lookup key stands. -/
structure GlobalIndex where
  rows : List GlobalIndex.Row
  places : List (String × List Nat)
  places_eq : places = GlobalIndex.placesOf rows

namespace GlobalIndex

/-- The global index of rows. -/
def ofRows (rows : List Row) : GlobalIndex :=
  ⟨rows, placesOf rows, rfl⟩

/-- The global index of entries. -/
def ofEntries (entries : List Entry) : GlobalIndex :=
  ofRows ((Entry.sort entries).map Row.ofEntry)

theorem rows_ofEntries (entries : List Entry) :
    (ofEntries entries).rows = (Entry.sort entries).map Row.ofEntry := rfl

/-- The number of rows. -/
def total (g : GlobalIndex) : Nat :=
  g.rows.length

/-- The names of each category. -/
def names (g : GlobalIndex) : List (Category × List String) :=
  Category.lists fun c => (g.rows.filter fun row => row.category = c).map Row.name

/-- The rows at the places of the lookup key of `name`. -/
def lookupAll (g : GlobalIndex) (name : String) : List Row :=
  (placesAt g.places (Slug.key name)).filterMap fun place => g.rows[place]?

/-- The first such row, in a category if one is given. -/
def lookup? (g : GlobalIndex) (name : String) (category? : Option Category) : Option Row :=
  (g.lookupAll name).find? fun row => category?.all fun c => row.category = c

end GlobalIndex

end Compendium
