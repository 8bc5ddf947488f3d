import Compendium.Conversion.Converter

/-!
# One record at a time

Records come in arrays, and the entries of an array come into the catalog together.  But
nothing that a record comes to depends on the catalog (`takeRecords_withCatalog`), so an
array comes to the same as its records one after another, each of them entered at once
(`convertRecords_eq_convertAll`), and so do all arrays of a corpus.
-/

namespace Compendium

theorem Json.eq_arr_of_arr? {v : Json} {items : List Json} (h : v.arr? = some items) :
    v = .arr items := by
  cases v <;> cases h
  rfl

/-! ### What is built of a record -/

section Built

variable {s : Render.Style} {filter : SourceFilter} {category : Category} {v : Json}
  {document : Document} {entry : Entry}

/-- What is built of a record, as far as it can be said without looking at the record. -/
theorem Document.eq_of_build_eq_built
    (h : Document.build s filter category v = .built document entry) :
    ∃ name source? page? body facets,
      document = ⟨name, source?, page?, category, naturalPath category name, body⟩ ∧
      entry = ⟨name, category, source?, naturalPath category name, facets⟩ := by
  unfold Document.build at h
  split at h
  · cases h
  · split at h
    · cases h
    · dsimp only at h
      split at h
      · cases h
        exact ⟨_, _, _, _, _, rfl, rfl⟩
      · cases h

/-- A document is built for the category that was asked for, with the path that its
name has there. -/
theorem Document.of_build_eq_built
    (h : Document.build s filter category v = .built document entry) :
    document.category = category ∧ document.path = Document.naturalPath category document.name := by
  obtain ⟨_, _, _, _, _, rfl, -⟩ := Document.eq_of_build_eq_built h
  exact ⟨rfl, rfl⟩

/-- What the catalog says of a document. -/
structure Entry.StandsFor (e : Entry) (d : Document) : Prop where
  name : e.name = d.name
  category : e.category = d.category
  source : e.source? = d.source?
  path : e.path = d.path

/-- What is built of a record is entered under the document's name, category and
source. -/
theorem Document.standsFor_of_build_eq_built
    (h : Document.build s filter category v = .built document entry) :
    entry.StandsFor document := by
  obtain ⟨_, _, _, _, _, rfl, rfl⟩ := Document.eq_of_build_eq_built h
  exact ⟨rfl, rfl, rfl, rfl⟩

end Built

/-! ### Entries of one category -/

theorem Catalog.add_nil (catalog : Catalog) (category : Category) :
    catalog.add category [] = catalog := by
  rw [add, List.map_nil, List.append_nil]

/-- Entries of the category are added as they are. -/
theorem Catalog.add_cons {e : Entry} {category : Category} (h : e.category = category)
    (catalog : Catalog) (entries : List Entry) :
    catalog.add category (e :: entries) = (catalog.push e).add category entries := by
  rw [add, add, push, List.map_cons, List.append_assoc, List.singleton_append, ← h]

namespace Converter

/-! ### A record that is accepted -/

/-- Takes in what was built of a record: it is settled, and entered at once. -/
def accept (c : Converter) (document : Document) (entry : Entry) : Document × Converter :=
  let (made, c) := c.settle document entry
  (made.1, { c with catalog := c.catalog.push made.2 })

theorem accept_path (c : Converter) (document : Document) (entry : Entry) :
    (c.accept document entry).1.path =
      c.paths.resolve c.settings.collision document.path document.source? := by
  simp only [accept, settle, PathRegistry.claim]

theorem accept_category (c : Converter) (document : Document) (entry : Entry) :
    (c.accept document entry).1.category = document.category := by
  simp only [accept, settle]

theorem accept_paths (c : Converter) (document : Document) (entry : Entry) :
    (c.accept document entry).2.paths = c.paths.insert (c.accept document entry).1.path := by
  simp only [accept, settle, PathRegistry.claim]

/-- A document is changed in its path alone. -/
theorem accept_document (c : Converter) (document : Document) (entry : Entry) :
    (c.accept document entry).1 = { document with path := (c.accept document entry).1.path } := by
  simp only [accept, settle]

/-- A document is counted as built, and as a collision if its path was not free. -/
theorem accept_stats (c : Converter) (document : Document) (entry : Entry) :
    (c.accept document entry).2.stats = { c.stats with
      built := c.stats.built + 1
      collisions := c.stats.collisions + if c.paths.contains document.path then 1 else 0 } :=
  rfl

/-- The entry of a document points to its path. -/
theorem accept_entries (c : Converter) (document : Document) (entry : Entry) :
    (c.accept document entry).2.catalog.entries =
      c.catalog.entries ++ [{ entry with path := (c.accept document entry).1.path }] := by
  simp only [accept, settle, Catalog.push]

/-! ### Any record -/

/-- Converts one record of a category, which makes a document or is skipped. -/
def convertRecord (c : Converter) (category : Category) (record : Json) :
    Option Document × Converter :=
  match Document.build c.settings.style c.settings.sourceFilter category record with
  | .built document entry =>
    let (document, c) := c.accept document entry
    (some document, c)
  | .filtered _ _ => (none, { c with stats := { c.stats with filtered := c.stats.filtered + 1 } })
  | .unnamed => (none, { c with stats := { c.stats with rejected := c.stats.rejected + 1 } })

/-- What a record does to a run: it is accepted, or it is skipped and only counted. -/
theorem convertRecord_cases (c : Converter) (category : Category) (v : Json) :
    (∃ document entry,
      Document.build c.settings.style c.settings.sourceFilter category v = .built document entry ∧
      c.convertRecord category v =
        (some (c.accept document entry).1, (c.accept document entry).2)) ∨
    (∃ name source?,
      Document.build c.settings.style c.settings.sourceFilter category v = .filtered name source? ∧
      c.convertRecord category v =
        (none, { c with stats := { c.stats with filtered := c.stats.filtered + 1 } })) ∨
    (Document.build c.settings.style c.settings.sourceFilter category v = .unnamed ∧
      c.convertRecord category v =
        (none, { c with stats := { c.stats with rejected := c.stats.rejected + 1 } })) := by
  unfold convertRecord
  cases Document.build c.settings.style c.settings.sourceFilter category v with
  | built document entry => exact Or.inl ⟨document, entry, rfl, rfl⟩
  | filtered name source? => exact Or.inr (Or.inl ⟨name, source?, rfl, rfl⟩)
  | unnamed => exact Or.inr (Or.inr ⟨rfl, rfl⟩)

/-- Converts records of any categories, in order. -/
def convertAll (c : Converter) : List (Category × Json) → List Document × Converter
  | [] => ([], c)
  | (category, record) :: rest =>
    let (document?, c) := c.convertRecord category record
    let (documents, c) := c.convertAll rest
    (document?.toList ++ documents, c)

theorem convertAll_cons (c : Converter) (pair : Category × Json) (rest : List (Category × Json)) :
    c.convertAll (pair :: rest) =
      ((c.convertRecord pair.1 pair.2).1.toList ++
          ((c.convertRecord pair.1 pair.2).2.convertAll rest).1,
        ((c.convertRecord pair.1 pair.2).2.convertAll rest).2) := rfl

theorem convertAll_append (c : Converter) (front back : List (Category × Json)) :
    c.convertAll (front ++ back) =
      ((c.convertAll front).1 ++ ((c.convertAll front).2.convertAll back).1,
        ((c.convertAll front).2.convertAll back).2) := by
  induction front generalizing c with
  | nil => rfl
  | cons pair rest ih => simp only [List.cons_append, convertAll_cons, ih, List.append_assoc]

/-! ### Arrays -/

/-- The run with another catalog. -/
def withCatalog (c : Converter) (catalog : Catalog) : Converter :=
  { c with catalog := catalog }

theorem takeRecord_withCatalog (c : Converter) (catalog : Catalog) (category : Category)
    (v : Json) : (c.withCatalog catalog).takeRecord category v =
      ((c.takeRecord category v).1, (c.takeRecord category v).2.withCatalog catalog) := by
  simp only [takeRecord, withCatalog]
  cases Document.build c.settings.style c.settings.sourceFilter category v <;> rfl

/-- The catalog decides nothing. -/
theorem takeRecords_withCatalog (c : Converter) (catalog : Catalog) (category : Category)
    (records : List Json) : (c.withCatalog catalog).takeRecords category records =
      ((c.takeRecords category records).1,
        (c.takeRecords category records).2.withCatalog catalog) := by
  induction records generalizing c with
  | nil => rfl
  | cons v rest ih => simp only [takeRecords, takeRecord_withCatalog, ih]

/-- Records are taken before any of them is entered. -/
theorem catalog_takeRecords (c : Converter) (category : Category) (records : List Json) :
    (c.takeRecords category records).2.catalog = c.catalog :=
  congrArg (fun result => result.2.catalog) (c.takeRecords_withCatalog c.catalog category records)

/-- The first record of an array can be converted before the others. -/
theorem convertRecords_cons (c : Converter) (category : Category) (v : Json) (rest : List Json) :
    c.convertRecords category (v :: rest) =
      ((c.convertRecord category v).1.toList ++
          ((c.convertRecord category v).2.convertRecords category rest).1,
        ((c.convertRecord category v).2.convertRecords category rest).2) := by
  unfold convertRecords convertRecord
  rw [takeRecords, takeRecord]
  cases hb : Document.build c.settings.style c.settings.sourceFilter category v with
  | built document entry =>
    -- The others are taken with the entry in the catalog already, which makes no difference.
    have haccept : c.accept document entry = ((c.settle document entry).1.1,
      (c.settle document entry).2.withCatalog (c.catalog.push (c.settle document entry).1.2)) := rfl
    have hcatalog : (c.settle document entry).2.catalog = c.catalog := rfl
    have hcategory : (c.settle document entry).1.2.category = category :=
      (Document.standsFor_of_build_eq_built hb).category.trans (Document.of_build_eq_built hb).1
    simp only [haccept, takeRecords_withCatalog, Option.toList_some, List.singleton_append,
      List.map_cons, catalog_takeRecords, hcatalog, Catalog.add_cons hcategory]
    rfl
  | filtered name source? => rfl
  | unnamed => rfl

/-- **An array comes to the same as its records one after another.** -/
theorem convertRecords_eq_convertAll (c : Converter) (category : Category) (records : List Json) :
    c.convertRecords category records =
      c.convertAll (records.map fun record => (category, record)) := by
  induction records generalizing c with
  | nil => simp only [convertRecords, takeRecords, List.map_nil, Catalog.add_nil, convertAll]
  | cons v rest ih => rw [convertRecords_cons, List.map_cons, convertAll_cons, ih]

/-! ### Corpora -/

/-- The records under a key of a corpus, with their category. -/
def keyRecords (key : String) (v : Json) : List (Category × Json) :=
  match Category.ofCorpusKey? key, v.arr? with
  | some category, some records => records.map fun record => (category, record)
  | _, _ => []

/-- The records of a corpus. -/
def corpusRecords (corpus : Json) : List (Category × Json) :=
  match corpus.record? with
  | some r => r.fields.flatMap fun field => keyRecords field.1 field.2
  | none => []

@[simp]
theorem corpusRecords_obj (fields : List (String × Json)) :
    corpusRecords (.obj fields) = fields.flatMap fun field => keyRecords field.1 field.2 := rfl

theorem keyRecords_arr {key : String} {category : Category}
    (h : Category.ofCorpusKey? key = some category) (records : List Json) :
    keyRecords key (.arr records) = records.map fun record => (category, record) := by
  rw [keyRecords, h]
  rfl

/-- A key that names no category holds no records. -/
theorem keyRecords_of_ofCorpusKey? {key : String} (h : Category.ofCorpusKey? key = none)
    (v : Json) : keyRecords key v = [] := by
  rw [keyRecords, h]

/-- A value that is no array holds no records. -/
theorem keyRecords_of_arr? {v : Json} (h : v.arr? = none) (key : String) :
    keyRecords key v = [] := by
  rw [keyRecords, h]
  cases Category.ofCorpusKey? key <;> rfl

theorem convertKey_eq_convertAll (c : Converter) (key : String) (v : Json) :
    c.convertKey key v = c.convertAll (keyRecords key v) := by
  unfold convertKey keyRecords
  cases Category.ofCorpusKey? key with
  | none => rfl
  | some category =>
    cases v.arr? with
    | none => rfl
    | some records => exact c.convertRecords_eq_convertAll category records

theorem convertFields_eq_convertAll (c : Converter) (fields : List (String × Json)) :
    c.convertFields fields =
      c.convertAll (fields.flatMap fun field => keyRecords field.1 field.2) := by
  induction fields generalizing c with
  | nil => rfl
  | cons field rest ih =>
    obtain ⟨key, v⟩ := field
    rw [List.flatMap_cons, convertAll_append]
    simp only [convertFields, convertKey_eq_convertAll, ih]

end Converter

end Compendium
