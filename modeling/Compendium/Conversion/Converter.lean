import Compendium.Document.Build
import Compendium.Encoding
import Compendium.Index.Catalog
import Compendium.Json.Parser
import Compendium.Settings

/-!
# Conversion runs

A converter turns records into documents one after another.  It keeps what later
records depend on: the paths that are taken, the index entries, and counters.
-/

namespace Compendium

/-- What a run has counted. -/
structure Stats where
  built : Nat
  filtered : Nat
  rejected : Nat
  collisions : Nat
  deriving DecidableEq

/-- The state of a run. -/
structure Converter where
  settings : Settings
  paths : PathRegistry
  catalog : Catalog
  stats : Stats

namespace Converter

/-- A run that has not begun. -/
def new (settings : Settings) : Converter :=
  ⟨settings, .empty, .empty, ⟨0, 0, 0, 0⟩⟩

/-- Settles where what was built of a record goes: the document gets its path, and the
entry points there. -/
def settle (c : Converter) (document : Document) (entry : Entry) : (Document × Entry) × Converter :=
  let claim := c.paths.claim c.settings.collision document.path document.source?
  (({ document with path := claim.path }, { entry with path := claim.path }),
    { c with
      paths := claim.registry
      stats := { c.stats with
        built := c.stats.built + 1
        collisions := c.stats.collisions + if claim.collided then 1 else 0 } })

/-- Takes one record of a category: a document and its entry are made of it, or it is
skipped. -/
def takeRecord (c : Converter) (category : Category) (record : Json) :
    Option (Document × Entry) × Converter :=
  match Document.build c.settings.style c.settings.sourceFilter category record with
  | .built document entry =>
    let (made, c) := c.settle document entry
    (some made, c)
  | .filtered _ _ => (none, { c with stats := { c.stats with filtered := c.stats.filtered + 1 } })
  | .unnamed => (none, { c with stats := { c.stats with rejected := c.stats.rejected + 1 } })

/-- Takes records of a category, in order. -/
def takeRecords (c : Converter) (category : Category) :
    List Json → List (Document × Entry) × Converter
  | [] => ([], c)
  | record :: rest =>
    let (made?, c) := c.takeRecord category record
    let (made, c) := c.takeRecords category rest
    (made?.toList ++ made, c)

/-- Converts records of a category, in order.  Their entries come into the catalog
together, once the last record is taken. -/
def convertRecords (c : Converter) (category : Category) (records : List Json) :
    List Document × Converter :=
  let (made, c) := c.takeRecords category records
  (made.map Prod.fst, { c with catalog := c.catalog.add category (made.map Prod.snd) })

/-- Converts the records under a key of a corpus.  A key that names no category,
and a value that is no array, hold none. -/
def convertKey (c : Converter) (key : String) (v : Json) : List Document × Converter :=
  match Category.ofCorpusKey? key, v.arr? with
  | some category, some records => c.convertRecords category records
  | _, _ => ([], c)

/-- Converts the records under all keys, in order. -/
def convertFields (c : Converter) : List (String × Json) → List Document × Converter
  | [] => ([], c)
  | (key, v) :: rest =>
    let (first, c) := c.convertKey key v
    let (documents, c) := c.convertFields rest
    (first ++ documents, c)

/-- Converts a corpus, which must be an object.  The run comes back also with an error. -/
def convertCorpus (c : Converter) (corpus : Json) : Except Error (List Document) × Converter :=
  match corpus.record? with
  | none => (.error .corpusNotObject, c)
  | some r =>
    let (documents, c) := c.convertFields r.fields
    (.ok documents, c)

/-- The corpus in the bytes of a file, if the file could be read. -/
def readCorpus (bytes? : Option (List UInt8)) : Except Error Json :=
  match bytes? with
  | none => .error .io
  | some bytes =>
    match Json.parse? (Encoding.decodeText bytes none) with
    | none => .error .json
    | some corpus => .ok corpus

/-- Converts a file, given its bytes if it could be read. -/
def convertFile (c : Converter) (bytes? : Option (List UInt8)) :
    Except Error (List Document) × Converter :=
  match readCorpus bytes? with
  | .error e => (.error e, c)
  | .ok corpus => c.convertCorpus corpus

end Converter

end Compendium
