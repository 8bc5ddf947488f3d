import Compendium.Proofs.Conversion.Freshness

/-!
# What a run keeps account of

A run keeps five things in step: the documents it makes, the entries of its catalog, the
paths that are taken, and the counts of records that were built and of documents that had
to give way.  Every record is counted once (`records_convertAll`), and for every document
there is one entry (`Kept`).

Where documents get paths of their own, a document has given way exactly if its path is
not its natural one: the path it gets is free, and the natural one was not
(`PathRegistry.resolve_eq_self_iff`).  So the count of collisions can be read off the
documents, and the taken paths are theirs (`OwnPaths`).

* `run_accounts`: all of this, for every run.
-/

namespace Compendium

/-- The entry follows a document that is moved. -/
theorem Entry.StandsFor.moved {e : Entry} {d moved : Document} (h : e.StandsFor d)
    (hd : moved = { d with path := moved.path }) :
    Entry.StandsFor { e with path := moved.path } moved where
  name := by rw [hd, h.name]
  category := by rw [hd, h.category]
  source := by rw [hd, h.source]
  path := rfl

/-- Whether a document had to give way to another one. -/
def Document.isMoved (d : Document) : Bool :=
  d.path ≠ naturalPath d.category d.name

/-- The number of records that were looked at. -/
def Stats.records (s : Stats) : Nat :=
  s.built + s.filtered + s.rejected

namespace Converter

/-! ### Every record is counted -/

theorem records_convertRecord (c : Converter) (category : Category) (v : Json) :
    (c.convertRecord category v).2.stats.records = c.stats.records + 1 := by
  rcases c.convertRecord_cases category v with ⟨document, entry, -, he⟩ | ⟨_, _, -, he⟩ | ⟨-, he⟩
  · rw [he]
    simp only [accept_stats, Stats.records]
    omega
  · rw [he]
    simp only [Stats.records]
    omega
  · rw [he]
    simp only [Stats.records]
    omega

/-- **Every record is built, filtered or rejected.** -/
theorem records_convertAll (c : Converter) (pairs : List (Category × Json)) :
    (c.convertAll pairs).2.stats.records = c.stats.records + pairs.length := by
  induction pairs generalizing c with
  | nil => rfl
  | cons pair rest ih =>
    rw [convertAll, ih, records_convertRecord, List.length_cons]
    omega

/-! ### Every document is entered -/

/-- What is known of the catalog and of the count of documents of a run that has made
these documents. -/
structure Kept (documents : List Document) (c : Converter) : Prop where
  entries : List.Forall₂ Entry.StandsFor c.catalog.entries documents
  built : c.stats.built = documents.length

theorem Kept.accept {documents : List Document} {c : Converter} {document : Document}
    {entry : Entry} (he : entry.StandsFor document) (h : Kept documents c) :
    Kept (documents ++ [(c.accept document entry).1]) (c.accept document entry).2 where
  entries := by
    rw [accept_entries]
    exact List.rel_append h.entries (.cons (he.moved (c.accept_document document entry)) .nil)
  built := by
    rw [accept_stats, List.length_append, ← h.built, List.length_singleton]

/-- **The catalog of every run lists its documents**, in order. -/
theorem kept_run (settings : Settings) (calls : List Call) :
    Kept ((new settings).run calls).1 ((new settings).run calls).2 :=
  run_steps_induction ⟨.nil, rfl⟩
    (fun _ _ _ _ _ _ _ hb h => h.accept (Document.standsFor_of_build_eq_built hb))
    (fun _ _ h => ⟨h.entries, h.built⟩) (fun _ _ h => ⟨h.entries, h.built⟩) calls

theorem Kept.map_path {documents : List Document} {c : Converter} (h : Kept documents c) :
    c.catalog.entries.map Entry.path = documents.map Document.path :=
  map_eq_of_forall₂ h.entries fun _ _ he => he.path

/-! ### Every document has its path -/

/-- What is known of the paths and of the count of collisions of a run whose documents
get paths of their own. -/
structure OwnPaths (documents : List Document) (c : Converter) : Prop where
  claimed : c.paths.claimed = (documents.map Document.path).reverse
  collisions : c.stats.collisions = documents.countP Document.isMoved

theorem OwnPaths.accept {documents : List Document} {c : Converter} {s : Render.Style}
    {filter : SourceFilter} {category : Category} {v : Json} {document : Document} {entry : Entry}
    (hs : c.settings.collision = .suffixSource)
    (hb : Document.build s filter category v = .built document entry) (h : OwnPaths documents c) :
    OwnPaths (documents ++ [(c.accept document entry).1]) (c.accept document entry).2 where
  claimed := by
    have hfree := c.paths.contains_resolve document.path document.source?
    rw [← hs, ← accept_path c document entry, PathRegistry.contains_eq_false_iff] at hfree
    rw [accept_paths, PathRegistry.claimed_insert hfree.2, h.claimed, List.map_append,
      List.reverse_append]
    rfl
  collisions := by
    -- The document is counted if its natural path was not free, that is, if it has another one.
    have hmoved : (c.accept document entry).1.isMoved = c.paths.contains document.path := by
      have hnatural : document.path = Document.naturalPath document.category document.name := by
        obtain ⟨hc, hp⟩ := Document.of_build_eq_built hb
        rw [hp, hc]
      have hkeeps := c.paths.resolve_eq_self_iff document.path document.source?
      rw [← hs, ← accept_path c document entry, ← Bool.not_eq_true] at hkeeps
      have hname : (c.accept document entry).1.name = document.name := by
        rw [accept_document]
      rw [Bool.eq_iff_iff, Document.isMoved, decide_eq_true_eq, ne_eq, not_iff_comm, ← hkeeps,
        hnatural, hname, accept_category]
    rw [accept_stats, List.countP_append, List.countP_singleton, hmoved, ← h.collisions]

theorem ownPaths_run {settings : Settings} (hs : settings.collision = .suffixSource)
    (calls : List Call) :
    OwnPaths ((new settings).run calls).1 ((new settings).run calls).2 :=
  run_steps_induction ⟨rfl, rfl⟩ (fun _ _ _ _ _ _ hc hb h => h.accept (hc ▸ hs) hb)
    (fun _ _ h => ⟨h.claimed, h.collisions⟩) (fun _ _ h => ⟨h.claimed, h.collisions⟩) calls

/-! ### The account of a run -/

/-- **A run keeps its account.**  The entries of the catalog stand for the documents, one
for one and in order; every document is counted as built, and every record of the arrays
that were converted as built, filtered or rejected.  Where documents get paths of their
own, the collisions are the documents that are not at their natural paths, and there are
as many taken paths as documents. -/
theorem run_accounts (settings : Settings) (calls : List Call) :
    let documents := ((new settings).run calls).1
    let c := ((new settings).run calls).2
    List.Forall₂ Entry.StandsFor c.catalog.entries documents ∧
    c.stats.built = documents.length ∧
    c.stats.built + c.stats.filtered + c.stats.rejected = (calls.flatMap Call.reached).length ∧
    (settings.collision = .suffixSource →
      c.stats.collisions =
        documents.countP (fun d => d.path ≠ Document.naturalPath d.category d.name) ∧
      c.paths.size = documents.length) := by
  intro documents c
  have hkept : Kept documents c := kept_run settings calls
  refine ⟨hkept.entries, hkept.built, ?_, fun hs => ?_⟩
  · have hrecords := (new settings).records_convertAll (calls.flatMap Call.reached)
    rw [← run_eq_convertAll] at hrecords
    exact hrecords.trans (Nat.zero_add _)
  · have hpaths : OwnPaths documents c := ownPaths_run hs calls
    refine ⟨hpaths.collisions, ?_⟩
    rw [PathRegistry.size, hpaths.claimed, List.length_reverse, List.length_map]

/-- Two orbs of one source and a document whose natural path the second orb has taken, one
from a source that is not wanted, and a value without a name; then a file that is missing,
and a rule that may not have the path of a listing page. -/
theorem run_accounts_orbs :
    let settings : Settings := { Settings.default with sources := ["dmg"] }
    let orb : Json := .obj [("name", .str "Orb"), ("source", .str "DMG")]
    let calls : List Call :=
      [.records .item [orb, orb, .obj [("name", .str "Orb DMG"), ("source", .str "DMG")],
          .obj [("name", .str "Orb"), ("source", .str "XGE")], .null],
        .file none,
        .corpus (.obj [("_meta", .arr [orb]), ("variantrule",
          .arr [.obj [("name", .str "Index"), ("source", .str "DMG")]])])]
    let documents := ((new settings).run calls).1
    let c := ((new settings).run calls).2
    documents.map Document.path =
        ["items/orb.md", "items/orb-dmg.md", "items/orb-dmg-dmg.md", "rules/index-dmg.md"] ∧
      c.stats = ⟨4, 1, 1, 3⟩ ∧
      c.stats.collisions =
        documents.countP (fun d => d.path ≠ Document.naturalPath d.category d.name) ∧
      c.paths.size = documents.length := by
  intro settings orb calls
  exact ⟨by decide +kernel, by decide +kernel, (run_accounts settings calls).2.2.2 rfl⟩

end Converter

end Compendium
