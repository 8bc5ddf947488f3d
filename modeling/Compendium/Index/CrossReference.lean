import Compendium.Entry
import Compendium.Index.Order

/-!
# Cross references

A cross reference groups the entries of a category by the values of a facet.  An
entry stands in one group for each value it has.
-/

namespace Compendium

/-- A pointer to an entry. -/
structure Reference where
  name : String
  path : String
  source? : Option String
  deriving DecidableEq

namespace Reference

/-- The pointer to an entry. -/
def ofEntry (e : Entry) : Reference :=
  ⟨e.name, e.path, e.source?⟩

/-- The order inside a group: by lower-cased name, then by path. -/
def order : Reference → Reference → Ordering :=
  compareLex (compareOn fun r => Text.lower r.name) (compareOn fun r => r.path)

/-- References in the order of a group; those that tie keep their order. -/
def sort (references : List Reference) : List Reference :=
  references.mergeSort fun a b => (order a b).isLE

end Reference

/-- A cross reference: what it groups by. -/
inductive CrossReference where
  | creaturesByRating
  | creaturesByType
  | spellsByLevel
  | spellsBySchool
  | spellsByClass
  | itemsByRarity
  deriving DecidableEq, Repr

namespace CrossReference

/-- Every cross reference, in output order. -/
def all : List CrossReference :=
  [creaturesByRating, creaturesByType, spellsByLevel, spellsBySchool, spellsByClass, itemsByRarity]

/-- The identifier used in index files. -/
def id : CrossReference → String
  | creaturesByRating => "creatures_by_cr"
  | creaturesByType => "creatures_by_type"
  | spellsByLevel => "spells_by_level"
  | spellsBySchool => "spells_by_school"
  | spellsByClass => "spells_by_class"
  | itemsByRarity => "items_by_rarity"

/-- The category whose entries are grouped. -/
def category : CrossReference → Category
  | creaturesByRating => .creature
  | creaturesByType => .creature
  | spellsByLevel => .spell
  | spellsBySchool => .spell
  | spellsByClass => .spell
  | itemsByRarity => .item

/-- The facet by which entries are grouped. -/
def facet : CrossReference → String
  | creaturesByRating => "cr"
  | creaturesByType => "type"
  | spellsByLevel => "level"
  | spellsBySchool => "school"
  | spellsByClass => "classes"
  | itemsByRarity => "rarity"

/-- The order of the groups. -/
def order : CrossReference → String → String → Ordering
  | creaturesByRating => Index.byRating
  | creaturesByType => Index.byText
  | spellsByLevel => Index.byNumber
  | spellsBySchool => Index.byText
  | spellsByClass => Index.byText
  | itemsByRarity => Index.byRarity

/-- The entries that share a value. -/
structure Group where
  key : String
  references : List Reference
  deriving DecidableEq

/-- The values under which an entry stands, each once. -/
def keys (facet : String) (e : Entry) : List String :=
  Text.sortDistinct <|
    match e.facets.get? facet with
    | some (.int n) => [toString n]
    | _ => ((e.facets.values facet).map Text.trim).filter fun value => !value.isEmpty

/-- The references of entries with the values under which they stand. -/
def placements (x : CrossReference) (entries : List Entry) : List (String × Reference) :=
  (entries.filter fun e => e.category = x.category).flatMap fun e =>
    (keys x.facet e).map fun key => (key, Reference.ofEntry e)

/-- The group of a value. -/
def groupOf (placements : List (String × Reference)) (key : String) : Group :=
  ⟨key, Reference.sort ((placements.filter fun p => p.1 = key).map Prod.snd)⟩

/-- The groups of a cross reference. -/
def groups (x : CrossReference) (entries : List Entry) : List Group :=
  let placements := x.placements entries
  ((Text.sortDistinct (placements.map Prod.fst)).map (groupOf placements)).mergeSort
    fun a b => (x.order a.key b.key).isLE

/-- The group with a key. -/
def find? (groups : List Group) (key : String) : Option Group :=
  groups.find? fun group => group.key = key

end CrossReference

end Compendium
