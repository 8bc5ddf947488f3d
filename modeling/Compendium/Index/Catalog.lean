import Compendium.Entry

/-!
# Catalogs

A catalog holds the entries of a run in the order in which they came.  Every
index is derived from it.
-/

namespace Compendium

/-- The entries of a run. -/
structure Catalog where
  entries : List Entry

namespace Catalog

/-- No entries. -/
def empty : Catalog := ⟨[]⟩

/-- Adds one entry. -/
def push (c : Catalog) (e : Entry) : Catalog :=
  ⟨c.entries ++ [e]⟩

/-- Adds entries as entries of one category. -/
def add (c : Catalog) (category : Category) (entries : List Entry) : Catalog :=
  ⟨c.entries ++ entries.map fun e => { e with category := category }⟩

/-- Adds the entries of another catalog. -/
def merge (c d : Catalog) : Catalog :=
  ⟨c.entries ++ d.entries⟩

/-- The number of entries. -/
def size (c : Catalog) : Nat :=
  c.entries.length

/-- The entries of a category, as they are listed. -/
def ofCategory (c : Catalog) (category : Category) : List Entry :=
  Entry.sort (c.entries.filter fun e => e.category = category)

/-- The categories that have entries. -/
def categories (c : Catalog) : List Category :=
  Category.all.filter fun category => c.entries.any fun e => e.category = category

end Catalog

namespace Category

/-- The lists of the categories for which there is something to list. -/
def lists {α : Type} (list : Category → List α) : List (Category × List α) :=
  (all.map fun c => (c, list c)).filter fun p => !p.2.isEmpty

end Category

end Compendium
