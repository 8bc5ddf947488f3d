import Compendium.Proofs.Export.FileTree
import Compendium.Proofs.Export.Memory
import Compendium.Proofs.Export.Places

/-!
# A directory holds what memory holds

A directory may refuse a path, and a file may stand where a directory is needed or the other way
round; memory knows nothing of that.  A write with nothing in its way puts its file into the tree
(`Directory.write_of_clear`).  Nothing is in the way if the parts of every path name something
(`CleanPath`) and no path leads past another (`PrefixFree`): each write then does to the files of
the directory what it does to memory (`Directory.Mirrors.write`).  An export writes into the
directories of categories, under names that slugs may have, and at the root, under names that are
those of no category's directory (`Export.Place`), so both conditions hold.

* `directory_mirrors_memory`: every run exported to an empty directory, against memory.
-/

namespace Compendium

/-! ### Paths and their parts -/

/-- A path whose parts all name something, and for which a disk can be asked. -/
structure CleanPath (path : String) : Prop where
  parts : ∀ part ∈ Text.splitOn '/' path, IsPathName part
  null_notMem : '\x00' ∉ path.toList

/-- No path leads past another one. -/
def PrefixFree (paths : List String) : Prop :=
  ∀ path ∈ paths, ∀ other ∈ paths,
    Text.splitOn '/' path <+: Text.splitOn '/' other → path = other

theorem PrefixFree.subset {paths others : List String} (h : PrefixFree others)
    (hs : paths ⊆ others) : PrefixFree paths :=
  fun path hp other ho => h path (hs hp) other (hs ho)

namespace Directory

variable {d : Directory} {path contents : String} {start : List String} {root : Root}

/-! ### Paths that can be asked for -/

theorem allowsPath_empty (d : Directory) : d.allowsPath "" = true := by
  rw [allowsPath]
  cases d.limits? with
  | none => rfl
  | some limits => simp

theorem allowsPath_of_append {a b : String} (h : d.allowsPath (a ++ b) = true) :
    d.allowsPath a = true := by
  rw [allowsPath, Bool.and_eq_true] at h ⊢
  obtain ⟨hnull, hsize⟩ := h
  constructor
  · simp only [String.toList_append, List.contains_eq_mem, List.mem_append, Bool.not_eq_true',
      decide_eq_false_iff_not, not_or] at hnull ⊢
    exact hnull.1
  · cases hl : d.limits? with
    | none => rfl
    | some limits =>
      simp only [hl, Option.all_some, decide_eq_true_eq, String.utf8ByteSize_append] at hsize ⊢
      omega

/-- A disk that can be asked for a path can be asked for its front. -/
theorem allowsPath_of_front {parts : List String} (h : parts <+: Text.splitOn '/' path)
    (hpath : d.allowsPath path = true) : d.allowsPath ("/".intercalate parts) = true := by
  obtain ⟨rest, hrest⟩ := h
  have hwhole : "/".intercalate (parts ++ rest) = path := by
    rw [hrest]
    exact Text.intercalate_splitOn '/' path
  by_cases hparts : parts = []
  · rw [hparts]
    exact d.allowsPath_empty
  · by_cases hnil : rest = []
    · rw [hnil, List.append_nil] at hwhole
      rwa [hwhole]
    · rw [String.intercalate_append_of_ne_nil hparts hnil, String.append_assoc] at hwhole
      rw [← hwhole] at hpath
      exact allowsPath_of_append hpath

/-! ### One write -/

/-- A write with nothing in its way puts the file into the tree, if no two dots lead back. -/
theorem writeAt_of_clear (hdots : ".." ∉ Text.splitOn '/' path)
    (hdot : endsInDot path = false) (hpath : d.allowsPath path = true)
    (hnames : ∀ name ∈ start ++ names (Text.splitOn '/' path), d.allowsName name = true)
    (hne : names (Text.splitOn '/' path) ≠ [])
    (hc : FileTree.Clear (start ++ names (Text.splitOn '/' path)) d.entries)
    (contents : String) :
    d.writeAt start path contents =
      ({ d with
          entries := FileTree.put contents (start ++ names (Text.splitOn '/' path)) d.entries },
        none) := by
  obtain ⟨made, hmade, hwrite⟩ := FileTree.write_eq_put hnames hc
  have hfront := parentParts_front path
  have hparents : d.makePath start (parentParts path) = ({ d with entries := made }, true) := by
    rw [makePath, if_pos (allowsPath_of_front hfront hpath),
      turns_eq fun hm => hdots (hfront.subset hm), FileTree.makeAll_singleton, names_parentParts,
      ← List.dropLast_append_of_ne_nil hne, hmade]
  have hput : put { d with entries := made } start path contents = some { d with
      entries := FileTree.put contents (start ++ names (Text.splitOn '/' path)) d.entries } := by
    have hmadePath : allowsPath { d with entries := made } path = true := hpath
    have hmadeName : allowsName { d with entries := made } = d.allowsName := rfl
    rw [put, hdot, hmadePath, hmadeName]
    dsimp only
    rw [foldl_step hdots, hwrite]
    rfl
  rw [writeAt, hparents]
  simp only [if_pos, hput]

theorem escapes_iff :
    escapes path = true ↔ "" ∈ Text.splitOn '/' path ∨ ".." ∈ Text.splitOn '/' path := by
  simp only [escapes, List.any_eq_true, Bool.or_eq_true, decide_eq_true_eq, String.isEmpty_iff]
  constructor
  · rintro ⟨part, hp, rfl | rfl⟩
    · exact Or.inr hp
    · exact Or.inl hp
  · rintro (hp | hp)
    · exact ⟨"", hp, Or.inr rfl⟩
    · exact ⟨"..", hp, Or.inl rfl⟩

theorem notMem_of_escapes_eq_false (h : escapes path = false) :
    "" ∉ Text.splitOn '/' path ∧ ".." ∉ Text.splitOn '/' path := by
  rw [← not_or, ← escapes_iff, h]
  exact Bool.false_ne_true

theorem names_ne_nil (hempty : "" ∉ Text.splitOn '/' path) (hdot : endsInDot path = false) :
    names (Text.splitOn '/' path) ≠ [] := by
  intro hnil
  have hlast := List.getLast_mem (Text.splitOn_ne_nil path)
  have hnone := List.filter_eq_nil_iff.1 hnil _ hlast
  rw [endsInDot, List.getLast?_eq_some_getLast (Text.splitOn_ne_nil path)] at hdot
  have hne : (Text.splitOn '/' path).getLast (Text.splitOn_ne_nil path) ≠ "" := by
    intro he
    rw [he] at hlast
    exact hempty hlast
  have hne' : (Text.splitOn '/' path).getLast (Text.splitOn_ne_nil path) ≠ "." :=
    fun he => of_decide_eq_false hdot (congrArg some he)
  exact hnone (decide_eq_true ⟨hne, hne'⟩)

/-- **A write with nothing in its way** puts the file into the tree. -/
theorem attempt_of_clear (he : escapes path = false) (hdot : endsInDot path = false)
    (hdots : ".." ∉ Text.splitOn '/' root.path) (hpath : d.allowsPath (root.target path) = true)
    (hnames : ∀ name ∈ root.location ++ names (Text.splitOn '/' path), d.allowsName name = true)
    (hc : FileTree.Clear (root.location ++ names (Text.splitOn '/' path)) d.entries)
    (contents : String) :
    d.attempt none root path contents =
      ({ d with
          entries :=
            FileTree.put contents (root.location ++ names (Text.splitOn '/' path)) d.entries },
        none) := by
  obtain ⟨hempty, hup⟩ := notMem_of_escapes_eq_false he
  have hplace : root.location ++ names (Text.splitOn '/' path) =
      root.start ++ names (Text.splitOn '/' (root.target path)) := by
    rw [Root.location, foldl_step hdots, names_target, List.append_assoc]
  have htarget : ".." ∉ Text.splitOn '/' (root.target path) := by
    rw [← dots_mem_names, names_target, List.mem_append, dots_mem_names, dots_mem_names]
    exact not_or.2 ⟨hdots, hup⟩
  have hne : names (Text.splitOn '/' (root.target path)) ≠ [] := by
    rw [names_target]
    exact List.append_ne_nil_of_right_ne_nil _ (names_ne_nil hempty hdot)
  rw [hplace] at hnames hc ⊢
  rw [attempt, he, if_neg Bool.false_ne_true]
  exact writeAt_of_clear htarget (by rw [endsInDot_target, hdot]) hpath hnames hne hc contents

theorem escapes_eq_false (h : CleanPath path) : escapes path = false := by
  rw [escapes, List.any_eq_false]
  intro part hp he
  rw [Bool.or_eq_true, decide_eq_true_eq, String.isEmpty_iff] at he
  exact he.elim (h.parts part hp).ne_dots (h.parts part hp).ne_empty

theorem endsInDot_eq_false (h : CleanPath path) : endsInDot path = false := by
  refine decide_eq_false fun he => ?_
  exact (h.parts "." (List.mem_of_getLast? he)).ne_dot rfl

theorem allowsPath_of_notMem {entries : List (String × FileTree)} (h : '\x00' ∉ path.toList) :
    (⟨none, entries⟩ : Directory).allowsPath path = true := by
  rw [allowsPath, Bool.and_eq_true, Bool.not_eq_true', List.contains_eq_mem,
    decide_eq_false_iff_not]
  exact ⟨h, rfl⟩

/-- On a disk without limits nothing but the tree can be in the way of a clean path. -/
theorem write_eq (h : CleanPath path) {entries : List (String × FileTree)}
    (hc : FileTree.Clear (Text.splitOn '/' path) entries) (contents : String) :
    (⟨none, entries⟩ : Directory).write path contents =
      (⟨none, FileTree.put contents (Text.splitOn '/' path) entries⟩, none) := by
  have he := escapes_eq_false h
  have hplace : Root.top.location ++ names (Text.splitOn '/' path) = Text.splitOn '/' path := by
    have hnil : Root.top.location = [] := by decide
    rw [hnil, List.nil_append, names_eq_self h.parts]
  have hclear : FileTree.Clear (Root.top.location ++ names (Text.splitOn '/' path)) entries := by
    rwa [hplace]
  have hpath : (⟨none, entries⟩ : Directory).allowsPath (Root.top.target path) = true := by
    rw [target_top (notMem_of_escapes_eq_false he).1]
    exact allowsPath_of_notMem h.null_notMem
  have hwrite := attempt_of_clear (d := ⟨none, entries⟩) he (endsInDot_eq_false h) (by decide)
    hpath (fun _ _ => rfl) hclear contents
  rwa [hplace] at hwrite

/-! ### Many writes -/

/-- A file in memory with its path in parts. -/
def inParts (p : String × String) : List String × String :=
  (Text.splitOn '/' p.1, p.2)

/-- The files of a directory on a disk without limits are those in memory. -/
structure Mirrors (d : Directory) (memory : List (String × String)) : Prop where
  limits : d.limits? = none
  tidy : FileTree.TidyEntries d.entries
  sorted : (Assoc.keys memory).Pairwise (· < ·)
  files : (FileTree.filesOf [] d.entries).Perm (memory.map inParts)

theorem mirrors_empty : Mirrors (empty none) [] where
  limits := rfl
  tidy := FileTree.tidyEntries_nil
  sorted := List.Pairwise.nil
  files := List.Perm.refl _

variable {d : Directory} {memory : List (String × String)}

theorem Mirrors.files_perm (h : d.Mirrors memory) : d.files.Perm memory := by
  have hback : ∀ p : String × String, ("/".intercalate (inParts p).1, (inParts p).2) = p :=
    fun p => Prod.ext (Text.intercalate_splitOn '/' p.1) rfl
  have hmap := h.files.map fun f => ("/".intercalate f.1, f.2)
  rwa [List.map_map, Function.comp_def, List.map_congr_left fun p _ => hback p,
    List.map_id'] at hmap

/-- **Nothing is in the way of a path that leads past no other one.** -/
theorem Mirrors.clear (h : d.Mirrors memory) (hfree : PrefixFree (path :: Assoc.keys memory)) :
    FileTree.Clear (Text.splitOn '/' path) d.entries := by
  refine h.tidy.clear_of_files (Text.splitOn_ne_nil path) [] fun f hf hp => ?_
  obtain ⟨p, hm, rfl⟩ := List.mem_map.1 (h.files.mem_iff.1 hf)
  have hkey : p.1 ∈ path :: Assoc.keys memory :=
    List.mem_cons_of_mem path (List.mem_map_of_mem hm)
  rcases hp with hp | hp
  · exact congrArg (Text.splitOn '/') (hfree p.1 hkey path List.mem_cons_self hp)
  · exact congrArg (Text.splitOn '/') (hfree path List.mem_cons_self p.1 hkey hp).symm

/-- **A write does to the directory what it does to memory.** -/
theorem Mirrors.write (h : d.Mirrors memory) (hclean : CleanPath path)
    (hfree : PrefixFree (path :: Assoc.keys memory)) (contents : String) :
    ∃ written, d.write path contents = (written, none) ∧
      written.Mirrors (Assoc.insert path contents memory) := by
  obtain ⟨limits?, entries⟩ := d
  obtain rfl : limits? = none := h.limits
  have hclear := h.clear hfree
  refine ⟨_, write_eq hclean hclear contents, ?_⟩
  -- Without the path in question, the files are those of memory without it.
  have hparts : (memory.map inParts).filter (fun f => f.1 ≠ [] ++ Text.splitOn '/' path) =
      (Assoc.without path memory).map inParts := by
    rw [List.filter_map, Assoc.without]
    refine congrArg _ (List.filter_congr fun p _ => decide_eq_decide.2 ?_)
    exact Text.splitOn_injective.ne_iff
  have hothers := h.files.filter fun f => f.1 ≠ [] ++ Text.splitOn '/' path
  rw [hparts] at hothers
  have hput : (FileTree.filesOf [] (FileTree.put contents (Text.splitOn '/' path) entries)).Perm
      (((path, contents) :: Assoc.without path memory).map inParts) :=
    (FileTree.filesOf_put h.tidy hclear []).trans (hothers.cons _)
  exact {
    limits := rfl
    tidy := h.tidy.put hclear
    sorted := Assoc.pairwise_keys_insert h.sorted path contents
    files := hput.trans ((Assoc.insert_perm h.sorted path contents).map _).symm }

end Directory

theorem OutputFile.toDirectory_run {file : OutputFile} {d written : Directory}
    (h : d.write file.path file.contents = (written, none)) :
    file.toDirectory.run.run d = (.ok (), written) := by
  have hget : (get : ExceptT Error (StateM Directory) Directory).run.run d = (.ok d, d) := rfl
  rw [toDirectory, Export.run_bind_ok hget, h]
  rfl

/-- **Clean paths that are prefix-free can be written**, in any order. -/
theorem Export.writeEach_mirrors {paths : List String} (hfree : PrefixFree paths)
    {files : List OutputFile} (hfiles : ∀ file ∈ files, CleanPath file.path ∧ file.path ∈ paths)
    {d : Directory} {memory : List (String × String)} (h : d.Mirrors memory)
    (hkeys : Assoc.keys memory ⊆ paths) :
    ∃ written, (writeEach OutputFile.toDirectory files).run.run d = (.ok files.length, written) ∧
      written.Mirrors (taken memory files) ∧ Assoc.keys (taken memory files) ⊆ paths := by
  induction files generalizing d memory with
  | nil => exact ⟨d, rfl, h, hkeys⟩
  | cons file rest ih =>
    obtain ⟨⟨hclean, hpath⟩, hrest⟩ := List.forall_mem_cons.1 hfiles
    have hfirst : PrefixFree (file.path :: Assoc.keys memory) :=
      hfree.subset (List.cons_subset.2 ⟨hpath, hkeys⟩)
    obtain ⟨between, hw, hm⟩ := h.write hclean hfirst file.contents
    have hbetween : Assoc.keys (Assoc.insert file.path file.contents memory) ⊆ paths := by
      intro path hp
      rcases Assoc.mem_keys_insert.1 hp with rfl | hp
      · exact hpath
      · exact hkeys hp
    obtain ⟨written, heach, hmirrors⟩ := ih hrest hm hbetween
    exact ⟨written, writeEach_cons (OutputFile.toDirectory_run hw) heach, hmirrors⟩

/-- An export whose paths are clean and prefix-free is written as into memory. -/
theorem Export.toDirectory_mirrors {e : Export} {d : Directory}
    {memory : List (String × String)} (h : d.Mirrors memory)
    (hfree : PrefixFree (e.files.map OutputFile.path))
    (hclean : ∀ file ∈ e.files, CleanPath file.path)
    (hkeys : Assoc.keys memory ⊆ e.files.map OutputFile.path) :
    ∃ written, e.toDirectory d =
        (.ok ⟨e.documents.length, e.indexFiles.length, e.pages.length⟩, written) ∧
      written.Mirrors (taken memory e.files) := by
  have hfiles : ∀ file ∈ e.files, CleanPath file.path ∧ file.path ∈ e.files.map OutputFile.path :=
    fun file hf => ⟨hclean file hf, List.mem_map_of_mem hf⟩
  have hparts : (∀ file ∈ e.documents, file ∈ e.files) ∧ (∀ file ∈ e.indexFiles, file ∈ e.files) ∧
      ∀ file ∈ e.pages, file ∈ e.files := by
    simp only [files, List.mem_append]
    tauto
  obtain ⟨d₁, hdocuments, h₁, hkeys₁⟩ :=
    writeEach_mirrors hfree (fun file hf => hfiles file (hparts.1 file hf)) h hkeys
  obtain ⟨d₂, hindexes, h₂, hkeys₂⟩ :=
    writeEach_mirrors hfree (fun file hf => hfiles file (hparts.2.1 file hf)) h₁ hkeys₁
  obtain ⟨written, hpages, hmirrors, -⟩ :=
    writeEach_mirrors hfree (fun file hf => hfiles file (hparts.2.2 file hf)) h₂ hkeys₂
  rw [taken_files]
  exact ⟨written, writeTo_eq hdocuments hindexes hpages, hmirrors⟩

/-! ### Where an export writes -/

namespace Export

/-- The paths at the root. -/
def rootPaths : List String :=
  indexPaths ++ [Page.fileName]

/-- Where an export may write: at the root, or under a name that slugs may have in the directory
of a category. -/
def Place (path : String) : Prop :=
  path ∈ rootPaths ∨ ∃ c, Document.SlugPath c path

theorem isPathName_of_mem_rootPaths {path : String} (h : path ∈ rootPaths) : IsPathName path := by
  have hroot : ∀ path ∈ rootPaths, '/' ∉ path.toList ∧ path ≠ "" ∧ path ≠ "." ∧ path ≠ ".." := by
    decide
  obtain ⟨hslash, hempty, hdot, hdots⟩ := hroot path h
  exact ⟨hslash, hempty, hdot, hdots⟩

/-- No file at the root has the name of a directory. -/
theorem ne_dir_of_mem_rootPaths {path : String} (h : path ∈ rootPaths) (c : Category) :
    path ≠ c.dir := by
  have hroot : ∀ path ∈ rootPaths, ∀ c ∈ Category.all, path ≠ c.dir := by decide
  exact hroot path h c (Category.mem_all c)

theorem splitOn_of_mem_rootPaths {path : String} (h : path ∈ rootPaths) :
    Text.splitOn '/' path = [path] :=
  Text.splitOn_of_notMem (isPathName_of_mem_rootPaths h).slash_notMem

/-- **Where an export writes, every part names something.** -/
theorem Place.cleanPath {path : String} (h : Place path) : CleanPath path := by
  rcases h with h | ⟨c, h⟩
  · have hnull : ∀ path ∈ rootPaths, '\x00' ∉ path.toList := by decide
    refine ⟨fun part hp => ?_, hnull path h⟩
    rw [splitOn_of_mem_rootPaths h, List.mem_singleton] at hp
    rw [hp]
    exact isPathName_of_mem_rootPaths h
  · have hnull : '\x00' ∉ path.toList := h.notMem_toList (by decide)
    obtain ⟨file, hfile, rfl⟩ := h.exists_file
    refine ⟨fun part hp => ?_, hnull⟩
    rw [Document.splitOn_file c hfile] at hp
    rcases List.mem_pair.1 hp with rfl | rfl
    · exact c.isPathName_dir
    · exact hfile

/-- **No place leads past another one**: there are two levels, and no file at the root has the
name of a directory. -/
theorem prefixFree_of_places {paths : List String} (h : ∀ path ∈ paths, Place path) :
    PrefixFree paths := by
  intro path hp other ho hfront
  have hlength : (Text.splitOn '/' path).length = (Text.splitOn '/' other).length →
      path = other := fun hl => Text.splitOn_injective (hfront.eq_of_length hl)
  rcases h path hp with hroot | ⟨c, hslug⟩
  · rw [splitOn_of_mem_rootPaths hroot] at hfront hlength
    rcases h other ho with hroot' | ⟨d, hslug'⟩
    · exact hlength (by rw [splitOn_of_mem_rootPaths hroot']; rfl)
    · obtain ⟨file, hfile, rfl⟩ := hslug'.exists_file
      rw [Document.splitOn_file d hfile, List.cons_prefix_cons] at hfront
      exact absurd hfront.1 (ne_dir_of_mem_rootPaths hroot d)
  · obtain ⟨file, hfile, rfl⟩ := hslug.exists_file
    rw [Document.splitOn_file c hfile] at hfront hlength
    rcases h other ho with hroot' | ⟨d, hslug'⟩
    · rw [splitOn_of_mem_rootPaths hroot'] at hfront
      exact absurd hfront.length_le (by simp)
    · obtain ⟨file', hfile', rfl⟩ := hslug'.exists_file
      exact hlength (by rw [Document.splitOn_file d hfile']; rfl)

variable {options : ExportOptions} {documents : List Document} {catalog : Catalog} {c : Converter}

theorem place_of_mem_files (h : Converter.PathsOf documents c) {file : OutputFile}
    (hf : file ∈ (plan options documents catalog).files) : Place file.path := by
  have hpath : file.path ∈ documents.map Document.path ++
      (indexPaths ++ listingPaths options catalog) := by
    rw [← paths_files]
    exact List.mem_map_of_mem hf
  rcases List.mem_append.1 hpath with hpath | hpath
  · obtain ⟨d, hd, he⟩ := List.mem_map.1 hpath
    exact Or.inr ⟨d.category, he ▸ h.place d hd⟩
  · rcases List.mem_append.1 hpath with hpath | hpath
    · exact Or.inl (List.mem_append_left _ hpath)
    · unfold listingPaths at hpath
      split at hpath
      · rcases List.mem_append.1 hpath with hpath | hpath
        · obtain ⟨category, -, he⟩ := List.mem_map.1 hpath
          exact Or.inr ⟨category, he ▸ Page.slugPath_categoryPath category⟩
        · exact Or.inl (List.mem_append_right _ hpath)
      · exact absurd hpath List.not_mem_nil

end Export

/-- **A directory holds what memory holds.**  On a disk without limits, every run can be exported
to an empty directory: no write is refused and none fails.  The report is the one of the same
export to empty memory, which counts the documents, the indexes and the listing pages, and the
files are those in memory, with their contents and each once. -/
theorem directory_mirrors_memory (settings : Settings) (calls : List Converter.Call)
    (options : ExportOptions) :
    let documents := ((Converter.new settings).run calls).1
    let catalog := ((Converter.new settings).run calls).2.catalog
    let e := Export.plan options documents catalog
    ∃ (report : ExportReport) (d : Directory), e.toDirectory (.empty none) = (.ok report, d) ∧
      e.inMemory [] = (.ok report, e.toMemory []) ∧
      d.files.Perm (e.toMemory []) ∧ (d.files.map Prod.fst).Nodup ∧
      report = ⟨documents.length, 4,
        if options.pages then catalog.categories.length + 1 else 0⟩ := by
  intro documents catalog e
  have hpaths : Converter.PathsOf documents ((Converter.new settings).run calls).2 :=
    Converter.pathsOf_run settings calls
  have hplace : ∀ file ∈ e.files, Export.Place file.path :=
    fun file hf => Export.place_of_mem_files hpaths hf
  obtain ⟨d, hd, hmirrors⟩ := Export.toDirectory_mirrors Directory.mirrors_empty
    (Export.prefixFree_of_places (List.forall_mem_map.2 hplace))
    (fun file hf => (hplace file hf).cleanPath) (List.nil_subset _)
  rw [← Export.toMemory_eq] at hmirrors
  have hfiles : d.files.Perm (e.toMemory []) := hmirrors.files_perm
  refine ⟨_, d, hd, ?_, hfiles, ?_, ?_⟩
  · rw [Export.inMemory_eq, Export.toMemory_eq]
  · rw [(hfiles.map Prod.fst).nodup_iff, Export.toMemory_nil]
    exact Assoc.nodup_keys_ofList _
  · have hpages := congrArg List.length (Export.paths_pages options documents catalog)
    rw [List.length_map, Export.listingPaths] at hpages
    have hdocuments : e.documents.length = documents.length := List.length_map _
    rw [hdocuments, hpages]
    split <;> simp [e, Export.plan, Export.indexFilesOf]

end Compendium
