import Compendium.Index.CrossReference
import Compendium.Index.Global
import Compendium.Index.Keyword
import Compendium.Index.QuickReference

/-!
# Indexes as data

The JSON form of each index.  Fields stand in a fixed order, categories in output
order and keywords in ascending order.
-/

namespace Compendium

/-- A text, or null for none. -/
def Json.ofText? (text? : Option String) : Json :=
  (text?.map Json.str).getD .null

/-- Lists by category. -/
def Category.listsToJson {α : Type} (write : α → Json) (lists : List (Category × List α)) : Json :=
  .obj (lists.map fun (c, items) => (c.id, .arr (items.map write)))

/-- A row of the global index. -/
def GlobalIndex.Row.toJson (row : GlobalIndex.Row) : Json :=
  .obj [("name", .str row.name), ("category", .str row.category.id),
    ("source", .ofText? row.source?), ("path", .str row.path)]

/-- The global index. -/
def GlobalIndex.toJson (g : GlobalIndex) : Json :=
  .obj [("total", .num (.int g.total)), ("entries", .arr (g.rows.map Row.toJson)),
    ("categories", Category.listsToJson .str g.names)]

/-- A line of a quick reference. -/
def QuickReference.toJson (q : QuickReference) : Json :=
  .obj [("name", .str q.name), ("path", .str q.path), ("source", .ofText? q.source?),
    ("summary", .str q.summary)]

/-- The quick references of all categories. -/
def QuickReference.listsToJson (lists : List (Category × List QuickReference)) : Json :=
  Category.listsToJson toJson lists

/-- A reference in a group. -/
def Reference.toJson (r : Reference) : Json :=
  .obj [("name", .str r.name), ("path", .str r.path), ("source", .ofText? r.source?)]

/-- A group of a cross reference. -/
def CrossReference.Group.toJson (g : CrossReference.Group) : Json :=
  .obj [("key", .str g.key), ("entries", .arr (g.references.map Reference.toJson))]

/-- All cross references of entries. -/
def CrossReference.allToJson (entries : List Entry) : Json :=
  .obj (all.map fun x => (x.id, .arr ((x.groups entries).map Group.toJson)))

/-- A reference under a keyword. -/
def KeywordIndex.Reference.toJson (r : KeywordIndex.Reference) : Json :=
  .obj [("name", .str r.name), ("path", .str r.path)]

/-- The keyword index. -/
def KeywordIndex.toJson (index : KeywordIndex) : Json :=
  .obj (index.keywords.map fun (keyword, lists) =>
    (keyword, Category.listsToJson Reference.toJson lists))

end Compendium
