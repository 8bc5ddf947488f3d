import Compendium.Index.Catalog

/-!
# The keyword index

The values of some facets are keywords.  The index lists, for every keyword, the
entries that carry it.
-/

namespace Compendium

/-- A pointer to an entry under a keyword. -/
structure KeywordIndex.Reference where
  name : String
  path : String
  deriving DecidableEq

/-- Keywords in ascending order, each with its references by category. -/
structure KeywordIndex where
  keywords : List (String × List (Category × List KeywordIndex.Reference))

namespace KeywordIndex

/-- The facets whose values are keywords. -/
def facetKeys : List String :=
  ["damage_types", "conditions", "type", "movement", "immunities", "school", "rarity"]

/-- A keyword as it is compared. -/
def normalize (value : String) : String :=
  Text.lower (Text.trim value)

/-- The keywords of an entry, each once. -/
def keywordsOf (e : Entry) : List String :=
  Text.sortDistinct
    (((facetKeys.flatMap e.facets.values).map normalize).filter fun keyword => !keyword.isEmpty)

namespace Reference

/-- The pointer to an entry. -/
def ofEntry (e : Entry) : Reference :=
  ⟨e.name, e.path⟩

/-- The order under a keyword: by lower-cased name, name and path. -/
def order : Reference → Reference → Ordering :=
  compareLex (compareOn fun r => Text.lower r.name) <|
  compareLex (compareOn fun r => r.name) (compareOn fun r => r.path)

/-- References in order, each once. -/
def sortDistinct (references : List Reference) : List Reference :=
  (references.mergeSort fun a b => (order a b).isLE).eraseReps

end Reference

/-- The references under one keyword. -/
def referencesOf (tagged : List (String × Entry)) (keyword : String) :
    List (Category × List Reference) :=
  let entries := (tagged.filter fun p => p.1 = keyword).map Prod.snd
  Category.lists fun c =>
    Reference.sortDistinct ((entries.filter fun e => e.category = c).map Reference.ofEntry)

/-- The keyword index of entries. -/
def ofEntries (entries : List Entry) : KeywordIndex :=
  let tagged := entries.flatMap fun e => (keywordsOf e).map fun keyword => (keyword, e)
  ⟨(Text.sortDistinct (tagged.map Prod.fst)).map fun keyword =>
    (keyword, referencesOf tagged keyword)⟩

/-- The references under a keyword, in any case and padding. -/
def get? (index : KeywordIndex) (keyword : String) : Option (List (Category × List Reference)) :=
  index.keywords.lookup (normalize keyword)

/-- The keywords. -/
def toList (index : KeywordIndex) : List String :=
  index.keywords.map Prod.fst

end KeywordIndex

end Compendium
