import Compendium.Conversion.Converter
import Compendium.Export.Directory
import Compendium.Export.Page
import Compendium.Index.Json
import Compendium.Json.Printer

/-!
# Exports

An export writes the documents, then the indexes, then the listing pages.  What is
written is settled first; the files are then written into memory or into a directory,
where a later file replaces an earlier one of the same path, and counted on the way.
-/

namespace Compendium

/-- What an export can be told. -/
structure ExportOptions where
  /-- Whether listing pages are written. -/
  pages : Bool
  /-- Whether indexes are written one element a line. -/
  pretty : Bool

/-- A file to be written. -/
structure OutputFile where
  path : String
  contents : String

/-- Takes a file into memory, whatever its path. -/
def OutputFile.toMemory (file : OutputFile) :
    ExceptT Error (StateM (List (String × String))) Unit :=
  modify (Assoc.insert file.path file.contents)

/-- Writes a file into a directory. -/
def OutputFile.toDirectory (file : OutputFile) : ExceptT Error (StateM Directory) Unit := do
  match (← get).write file.path file.contents with
  | (d, none) => set d
  | (d, some error) =>
    set d
    throw error

/-- How many files an export wrote. -/
structure ExportReport where
  documents : Nat
  indexFiles : Nat
  pages : Nat
  deriving DecidableEq

/-- The files that an export writes. -/
structure Export where
  documents : List OutputFile
  indexFiles : List OutputFile
  pages : List OutputFile

namespace Export

/-- An index file: a value and a line feed. -/
def indexFile (options : ExportOptions) (path : String) (v : Json) : OutputFile :=
  ⟨path, (if options.pretty then v.pretty else v.compact) ++ "\n"⟩

/-- The index files of entries. -/
def indexFilesOf (options : ExportOptions) (entries : List Entry) : List OutputFile :=
  [indexFile options "index.json" (GlobalIndex.ofEntries entries).toJson,
    indexFile options "quick-reference.json"
      (QuickReference.listsToJson (QuickReference.ofEntries entries)),
    indexFile options "cross-references.json" (CrossReference.allToJson entries),
    indexFile options "keywords.json" (KeywordIndex.ofEntries entries).toJson]

/-- The listing pages of entries. -/
def pagesOf (entries : List Entry) : List OutputFile :=
  let lists := QuickReference.ofEntries entries
  let pages := lists.map fun (category, quick) =>
    ⟨Page.categoryPath category, Page.ofCategory category quick⟩
  pages ++ [⟨Page.fileName, Page.overview lists⟩]

/-- The export of documents and their catalog. -/
def plan (options : ExportOptions) (documents : List Document) (catalog : Catalog) : Export where
  documents := documents.map fun d => ⟨d.path, d.body⟩
  indexFiles := indexFilesOf options catalog.entries
  pages := if options.pages then pagesOf catalog.entries else []

/-- All files, in the order in which they are written. -/
def files (e : Export) : List OutputFile :=
  e.documents ++ e.indexFiles ++ e.pages

/-- Writes files one after another, up to the first that fails, and counts them. -/
def writeEach {m : Type → Type} [Monad m] (write : OutputFile → ExceptT Error m Unit) :
    List OutputFile → ExceptT Error m Nat
  | [] => return 0
  | file :: rest => do
    write file
    return (← writeEach write rest) + 1

/-- Writes an export, and reports how many files it wrote. -/
def writeTo {m : Type → Type} [Monad m] (write : OutputFile → ExceptT Error m Unit)
    (e : Export) : ExceptT Error m ExportReport := do
  let documents ← writeEach write e.documents
  let indexFiles ← writeEach write e.indexFiles
  let pages ← writeEach write e.pages
  return ⟨documents, indexFiles, pages⟩

/-- Writes an export into memory. -/
def inMemory (e : Export) (memory : List (String × String)) :
    Except Error ExportReport × List (String × String) :=
  (e.writeTo OutputFile.toMemory).run.run memory

/-- Files in memory: their contents by path. -/
def toMemory (e : Export) (memory : List (String × String)) : List (String × String) :=
  (e.inMemory memory).2

/-- Writes an export into a directory. -/
def toDirectory (e : Export) (d : Directory) : Except Error ExportReport × Directory :=
  (e.writeTo OutputFile.toDirectory).run.run d

end Export

end Compendium
