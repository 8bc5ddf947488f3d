import Mathlib.Data.List.Dedup
import Compendium.Export.Plan
import Compendium.Proofs.Assoc
import Compendium.Proofs.Conversion.Freshness
import Compendium.Proofs.Index.Views

/-!
# What an export leaves in memory

An export writes documents first and everything else behind them, so a document is
lost if a later file takes its path.  Index files have paths without slashes, listing
pages have reserved paths, and the documents of a run lie in the directories of their
categories under paths that are not reserved (`Converter.PathsOf`).  Only a document
can therefore take the path of another one.

* `paths_files`: which files an export writes, in order.
* `inMemory_eq`: memory takes every file, and the report counts them.
* `path_notMem_others`: no document of a run has the path of an index file or of a
  listing page.
* `export_keeps_documents`: what is in memory after a run is exported.
-/

namespace Compendium

/-! ### Paths of listing pages -/

namespace Page

theorem isReserved_fileName : PathRegistry.isReserved fileName = true := by
  decide

theorem isReserved_categoryPath (c : Category) :
    PathRegistry.isReserved (categoryPath c) = true := by
  cases c <;> decide

theorem slugPath_categoryPath (c : Category) : Document.SlugPath c (categoryPath c) := by
  have hstem : PathRegistry.reservedStem.toList.all Text.isAlphanumeric = true := by decide
  exact ⟨PathRegistry.reservedStem, by decide, fun _ => Slug.isSlugChar_of_all hstem, rfl⟩

theorem categoryPath_ne_fileName (c : Category) : categoryPath c ≠ fileName := by
  cases c <;> decide

theorem nodup_categoryPaths : (Category.all.map categoryPath).Nodup := by
  decide

end Page

namespace Export

/-! ### What is written -/

/-- The paths of the index files. -/
def indexPaths : List String :=
  ["index.json", "quick-reference.json", "cross-references.json", "keywords.json"]

/-- The paths of the listing pages: one for each category that has entries, and the
root page. -/
def listingPaths (options : ExportOptions) (catalog : Catalog) : List String :=
  if options.pages then catalog.categories.map Page.categoryPath ++ [Page.fileName] else []

variable (options : ExportOptions) (documents : List Document) (catalog : Catalog)

theorem paths_indexFiles :
    (plan options documents catalog).indexFiles.map OutputFile.path = indexPaths :=
  rfl

theorem paths_pages :
    (plan options documents catalog).pages.map OutputFile.path = listingPaths options catalog := by
  simp only [plan, listingPaths]
  split
  · rw [pagesOf, List.map_append, List.map_map, ← QuickReference.map_fst_ofEntries catalog.entries,
      List.map_map]
    rfl
  · rfl

/-- **The files of an export**, in order. -/
theorem paths_files :
    (plan options documents catalog).files.map OutputFile.path =
      documents.map Document.path ++ (indexPaths ++ listingPaths options catalog) := by
  rw [files, List.map_append, List.map_append, paths_indexFiles, paths_pages, List.append_assoc,
    plan, List.map_map]
  rfl

/-- Behind a document stand the files of an export of the later ones. -/
theorem files_append_cons (earlier later : List Document) (d : Document) :
    (plan options (earlier ++ d :: later) catalog).files =
      (plan options earlier catalog).documents ++
        ⟨d.path, d.body⟩ :: (plan options later catalog).files := by
  simp only [files, plan, List.map_append, List.map_cons, List.append_assoc, List.cons_append]

theorem isReserved_of_mem_listingPaths {path : String}
    (h : path ∈ listingPaths options catalog) : PathRegistry.isReserved path = true := by
  unfold listingPaths at h
  split at h
  · rcases List.mem_append.1 h with h | h
    · obtain ⟨c, -, rfl⟩ := List.mem_map.1 h
      exact Page.isReserved_categoryPath c
    · rw [List.mem_singleton.1 h]
      exact Page.isReserved_fileName
  · cases h

theorem nodup_listingPaths : (listingPaths options catalog).Nodup := by
  unfold listingPaths
  split
  · refine List.nodup_append.2 ⟨?_, List.nodup_singleton _, ?_⟩
    · exact Page.nodup_categoryPaths.sublist (List.filter_sublist.map _)
    · intro path hp other ho
      obtain ⟨c, -, rfl⟩ := List.mem_map.1 hp
      rw [List.mem_singleton.1 ho]
      exact Page.categoryPath_ne_fileName c
  · exact List.nodup_nil

/-- No two of the files behind the documents share a path. -/
theorem nodup_others : (indexPaths ++ listingPaths options catalog).Nodup := by
  refine List.nodup_append.2 ⟨by decide, nodup_listingPaths options catalog, ?_⟩
  rintro path hp _ hl rfl
  have hindex : ∀ path ∈ indexPaths, PathRegistry.isReserved path = false := by decide
  have hfree := hindex path hp
  rw [isReserved_of_mem_listingPaths options catalog hl] at hfree
  cases hfree

/-! ### What is in memory -/

section Sinks

variable {σ α β : Type} {write : OutputFile → ExceptT Error (StateM σ) Unit}

theorem run_bind_ok {x : ExceptT Error (StateM σ) α} {before after : σ} {a : α}
    (h : x.run.run before = (.ok a, after)) (f : α → ExceptT Error (StateM σ) β) :
    (x >>= f).run.run before = (f a).run.run after := by
  rw [ExceptT.run_bind, StateT.run_bind, h]
  rfl

/-- A file that is taken is counted. -/
theorem writeEach_cons {file : OutputFile} {rest : List OutputFile} {before between after : σ}
    {n : Nat} (hfile : (write file).run.run before = (.ok (), between))
    (hrest : (writeEach write rest).run.run between = (.ok n, after)) :
    (writeEach write (file :: rest)).run.run before = (.ok (n + 1), after) := by
  rw [writeEach, run_bind_ok hfile, run_bind_ok hrest]
  rfl

/-- The report of an export whose files are all taken. -/
theorem writeTo_eq {e : Export} {before afterDocuments afterIndexes after : σ}
    {documents indexFiles pages : Nat}
    (hdocuments : (writeEach write e.documents).run.run before = (.ok documents, afterDocuments))
    (hindexes : (writeEach write e.indexFiles).run.run afterDocuments =
      (.ok indexFiles, afterIndexes))
    (hpages : (writeEach write e.pages).run.run afterIndexes = (.ok pages, after)) :
    (e.writeTo write).run.run before = (.ok ⟨documents, indexFiles, pages⟩, after) := by
  rw [writeTo, run_bind_ok hdocuments, run_bind_ok hindexes, run_bind_ok hpages]
  rfl

end Sinks

/-- Memory with files put into it. -/
def taken (memory : List (String × String)) (files : List OutputFile) : List (String × String) :=
  files.foldl (fun memory file => Assoc.insert file.path file.contents memory) memory

theorem writeEach_toMemory (files : List OutputFile) (memory : List (String × String)) :
    (writeEach OutputFile.toMemory files).run.run memory =
      (.ok files.length, taken memory files) := by
  induction files generalizing memory with
  | nil => rfl
  | cons file rest ih => exact writeEach_cons rfl (ih (Assoc.insert file.path file.contents memory))

theorem taken_files (memory : List (String × String)) (e : Export) :
    taken memory e.files = taken (taken (taken memory e.documents) e.indexFiles) e.pages := by
  simp only [taken, files, List.foldl_append]

/-- **Memory takes every file.** -/
theorem inMemory_eq (e : Export) (memory : List (String × String)) :
    e.inMemory memory = (.ok ⟨e.documents.length, e.indexFiles.length, e.pages.length⟩,
      taken memory e.files) := by
  rw [taken_files]
  exact writeTo_eq (writeEach_toMemory _ _) (writeEach_toMemory _ _) (writeEach_toMemory _ _)

theorem toMemory_eq (e : Export) (memory : List (String × String)) :
    e.toMemory memory = taken memory e.files := by
  rw [toMemory, inMemory_eq]

theorem toMemory_nil (e : Export) :
    e.toMemory [] = Assoc.ofList (e.files.map fun file => (file.path, file.contents)) := by
  rw [toMemory_eq, taken, Assoc.ofList, List.foldl_map]

theorem keys_files (e : Export) :
    Assoc.keys (e.files.map fun file => (file.path, file.contents)) =
      e.files.map OutputFile.path := by
  rw [Assoc.keys, List.map_map]
  rfl

variable {options catalog} {c : Converter}

/-- **Documents have their paths for themselves**: no index file and no listing page
is written there. -/
theorem path_notMem_others {documents : List Document} (h : Converter.PathsOf documents c)
    {d : Document} (hd : d ∈ documents) : d.path ∉ indexPaths ++ listingPaths options catalog := by
  intro hm
  rcases List.mem_append.1 hm with hm | hm
  · obtain ⟨stem, -, -, hp⟩ := (h.place d hd).liesIn
    have hslash : '/' ∈ d.path.toList := by
      rw [hp]
      simp
    have hindex : ∀ path ∈ indexPaths, '/' ∉ path.toList := by decide
    exact hindex _ hm hslash
  · have hfree := h.free d hd
    rw [isReserved_of_mem_listingPaths options catalog hm] at hfree
    cases hfree

/-- Some document is the last one with a path. -/
theorem exists_last_path {documents : List Document} {path : String}
    (h : path ∈ documents.map Document.path) :
    ∃ earlier d later, documents = earlier ++ d :: later ∧ d.path = path ∧
      path ∉ later.map Document.path := by
  induction documents with
  | nil => exact absurd h List.not_mem_nil
  | cons d rest ih =>
    by_cases hrest : path ∈ rest.map Document.path
    · obtain ⟨earlier, last, later, rfl, hp, hlast⟩ := ih hrest
      exact ⟨d :: earlier, last, later, rfl, hp, hlast⟩
    · rw [List.map_cons, List.mem_cons] at h
      exact ⟨[], d, rest, rfl, (h.resolve_right hrest).symm, hrest⟩

/-- The last document with a path keeps the file. -/
theorem lookup_toMemory {earlier later : List Document} {d : Document}
    (h : Converter.PathsOf (earlier ++ d :: later) c) (hlast : d.path ∉ later.map Document.path) :
    ((plan options (earlier ++ d :: later) catalog).toMemory []).lookup d.path = some d.body := by
  have hothers : d.path ∉ indexPaths ++ listingPaths options catalog :=
    path_notMem_others h (List.mem_append.2 (Or.inr List.mem_cons_self))
  have hbehind : d.path ∉ (plan options later catalog).files.map OutputFile.path := by
    rw [paths_files, List.mem_append, not_or]
    exact ⟨hlast, hothers⟩
  rw [← keys_files] at hbehind
  rw [toMemory_nil, files_append_cons, List.map_append, List.map_cons]
  exact Assoc.lookup_ofList d.body hbehind

/-- At the path of a document stands one with that path. -/
theorem exists_lookup_toMemory {documents : List Document} (h : Converter.PathsOf documents c)
    {path : String} (hp : path ∈ documents.map Document.path) :
    ∃ d ∈ documents, d.path = path ∧
      ((plan options documents catalog).toMemory []).lookup path = some d.body := by
  obtain ⟨earlier, d, later, rfl, rfl, hlast⟩ := exists_last_path hp
  exact ⟨d, by simp, rfl, lookup_toMemory h hlast⟩

/-- Where no two documents share a path, each of them keeps its file. -/
theorem lookup_toMemory_of_nodup {documents : List Document} {d : Document}
    (h : Converter.PathsOf documents c) (hnodup : (documents.map Document.path).Nodup)
    (hd : d ∈ documents) :
    ((plan options documents catalog).toMemory []).lookup d.path = some d.body := by
  obtain ⟨earlier, later, rfl⟩ := List.append_of_mem hd
  rw [List.map_append, List.map_cons] at hnodup
  exact lookup_toMemory h (List.nodup_cons.1 (List.nodup_append.1 hnodup).2.1).1

/-- No file is written over one behind the documents. -/
theorem lookup_toMemory_others {documents : List Document} {file : OutputFile}
    (h : file ∈ (plan options documents catalog).indexFiles ++
      (plan options documents catalog).pages) :
    ((plan options documents catalog).toMemory []).lookup file.path = some file.contents := by
  have hnodup := nodup_others options catalog
  rw [← paths_indexFiles options documents catalog, ← paths_pages options documents catalog,
    ← List.map_append] at hnodup
  obtain ⟨front, back, hsplit⟩ := List.append_of_mem h
  rw [hsplit, List.map_append, List.map_cons] at hnodup
  have hback : file.path ∉ Assoc.keys (back.map fun file => (file.path, file.contents)) := by
    rw [Assoc.keys, List.map_map]
    exact (List.nodup_cons.1 (List.nodup_append.1 hnodup).2.1).1
  rw [toMemory_nil, files, List.append_assoc, hsplit, ← List.append_assoc, List.map_append,
    List.map_cons]
  exact Assoc.lookup_ofList file.contents hback

/-- What is in memory is what was written, each path once. -/
theorem perm_keys_toMemory {documents : List Document} (h : Converter.PathsOf documents c) :
    (Assoc.keys ((plan options documents catalog).toMemory [])).Perm
      ((documents.map Document.path).dedup ++ (indexPaths ++ listingPaths options catalog)) := by
  have hnodup : ((documents.map Document.path).dedup ++
      (indexPaths ++ listingPaths options catalog)).Nodup := by
    refine List.nodup_append.2 ⟨List.nodup_dedup _, nodup_others options catalog, ?_⟩
    rintro path hp _ ho rfl
    obtain ⟨d, hd, rfl⟩ := List.mem_map.1 (List.mem_dedup.1 hp)
    exact path_notMem_others h hd ho
  rw [toMemory_nil, List.perm_ext_iff_of_nodup (Assoc.nodup_keys_ofList _) hnodup]
  intro path
  rw [Assoc.mem_keys_ofList, keys_files, paths_files]
  simp only [List.mem_append, List.mem_dedup]

end Export

/-- **An export loses no document.**  After a run is exported, the file at the path of
a document holds the last document with that path, which is the only one where documents
get paths of their own.  Nothing else is written there, and the files are those of the
documents, the four indexes and, where they are wanted, the listing pages. -/
theorem export_keeps_documents (settings : Settings) (calls : List Converter.Call)
    (options : ExportOptions) :
    let documents := ((Converter.new settings).run calls).1
    let catalog := ((Converter.new settings).run calls).2.catalog
    let e := Export.plan options documents catalog
    let memory := e.toMemory []
    (∀ earlier d later, documents = earlier ++ d :: later → d.path ∉ later.map Document.path →
      memory.lookup d.path = some d.body) ∧
    (settings.collision = .suffixSource → ∀ d ∈ documents,
      memory.lookup d.path = some d.body) ∧
    (∀ file ∈ e.indexFiles ++ e.pages, file.path ∉ documents.map Document.path) ∧
    (Assoc.keys memory).Perm ((documents.map Document.path).dedup ++
      (Export.indexPaths ++ Export.listingPaths options catalog)) := by
  intro documents catalog e memory
  have hpaths : Converter.PathsOf documents ((Converter.new settings).run calls).2 :=
    Converter.pathsOf_run settings calls
  refine ⟨?_, fun hs d hd => ?_, fun file hf hm => ?_, Export.perm_keys_toMemory hpaths⟩
  · intro earlier d later hd hl
    simp only [memory, e, hd]
    rw [hd] at hpaths
    exact Export.lookup_toMemory hpaths hl
  · exact Export.lookup_toMemory_of_nodup hpaths (Converter.nodup_paths_run hs calls) hd
  · obtain ⟨d, hd, hp⟩ := List.mem_map.1 hm
    have hothers : file.path ∈ Export.indexPaths ++ Export.listingPaths options catalog := by
      rw [← Export.paths_indexFiles options documents catalog,
        ← Export.paths_pages options documents catalog, ← List.map_append]
      exact List.mem_map_of_mem hf
    rw [← hp] at hothers
    exact Export.path_notMem_others hpaths hd hothers

/-- Two orbs of one name: the second in place of the first, and each under a path of its
own. -/
theorem export_keeps_documents_orbs :
    let orb (rarity : String) : Json :=
      .obj [("name", .str "Orb"), ("source", .str "DMG"), ("rarity", .str rarity)]
    let calls : List Converter.Call := [.records .item [orb "rare", orb "common"], .file none]
    let run (collision : CollisionPolicy) :=
      (Converter.new { Settings.default with collision := collision }).run calls
    let memory (collision : CollisionPolicy) :=
      (Export.plan ⟨true, true⟩ (run collision).1 (run collision).2.catalog).toMemory []
    (∃ first second, (run .overwrite).1 = [first, second] ∧
      first.path = "items/orb.md" ∧ second.path = "items/orb.md" ∧
      (memory .overwrite).lookup second.path = some second.body) ∧
    ∀ d ∈ (run .suffixSource).1, (memory .suffixSource).lookup d.path = some d.body := by
  intro orb calls run memory
  constructor
  · have hpaths : (run .overwrite).1.map Document.path = ["items/orb.md", "items/orb.md"] := by
      decide +kernel
    obtain ⟨first, rest, hrun, hfirst, hrest⟩ := List.map_eq_cons_iff.1 hpaths
    obtain ⟨second, hrest, hsecond⟩ := List.map_eq_singleton_iff.1 hrest
    rw [hrest] at hrun
    refine ⟨first, second, hrun, hfirst, hsecond, ?_⟩
    have hkeeps := (export_keeps_documents { Settings.default with collision := .overwrite } calls
      ⟨true, true⟩).1 [first] second [] hrun List.not_mem_nil
    simpa only [memory, run] using hkeeps
  · have hkeeps := (export_keeps_documents { Settings.default with collision := .suffixSource }
      calls ⟨true, true⟩).2.1 rfl
    simpa only [memory, run] using hkeeps

end Compendium
