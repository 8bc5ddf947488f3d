import Compendium.Conversion.PathRegistry
import Compendium.Index.QuickReference
import Compendium.Markdown.Link

/-!
# Listing pages

Each category has a page with a line on each of its documents, and the root page
lists the categories.
-/

namespace Compendium.Page

/-- The file name of a listing page. -/
def fileName : String :=
  PathRegistry.reservedStem ++ PathRegistry.extension

/-- The path of a category's page. -/
def categoryPath (category : Category) : String :=
  category.dir ++ "/" ++ fileName

/-- A path as seen from the directory of a category. -/
def relativeTo (category : Category) (path : String) : String :=
  let directory := category.dir ++ "/"
  if Text.beginsWith directory path then
    String.ofList (path.toList.drop directory.toList.length)
  else path

/-- What stands in brackets behind a link: the source and the summary. -/
def details (entry : QuickReference) : String :=
  match (entry.source?.toList ++ [entry.summary]).filter fun detail => !detail.isEmpty with
  | [] => ""
  | details => " (" ++ ", ".intercalate details ++ ")"

/-- The line on an entry. -/
def entryLine (category : Category) (entry : QuickReference) : String :=
  "- " ++ Markdown.link entry.name (relativeTo category entry.path) ++ details entry ++ "\n"

/-- The page of a category. -/
def ofCategory (category : Category) (entries : List QuickReference) : String :=
  "# " ++ category.label ++ "\n\n" ++ String.join (entries.map (entryLine category))

/-- The line on a category. -/
def categoryLine (category : Category) (entries : List QuickReference) : String :=
  "- " ++ Markdown.link category.label (categoryPath category) ++ " (" ++
    toString entries.length ++ ")\n"

/-- The root page. -/
def overview (lists : List (Category × List QuickReference)) : String :=
  "# Index\n\n" ++ String.join (lists.map fun (category, entries) => categoryLine category entries)

end Compendium.Page
