import Mathlib.Data.List.Basic
import Compendium.Export.Directory
import Compendium.Proofs.Assoc

/-!
# Writing into a tree of files

A write makes the directories above a file and then the file.  Both succeed where nothing stands
in the way: no file where a directory is needed, and no directory in the file's place (`Clear`).
In a tree whose directories all hold something, that can be read off the paths of its files
(`TidyEntries.clear_of_files`).  A write then comes to one change of the tree (`write_eq_put`),
which touches no other file (`filesOf_put`).
-/

namespace Compendium.FileTree

variable {allows : String → Bool} {contents name : String} {path parts : List String}
  {entries : List (String × FileTree)}

/-! ### Tidy trees -/

/-- Directories hold something, and list it in the order of names. -/
inductive Tidy : FileTree → Prop
  | file (contents : String) : Tidy (.file contents)
  | directory {entries : List (String × FileTree)} (nonempty : entries ≠ [])
    (sorted : (Assoc.keys entries).Pairwise (· < ·)) (inner : ∀ e ∈ entries, Tidy e.2) :
    Tidy (.directory entries)

/-- The root may be empty. -/
structure TidyEntries (entries : List (String × FileTree)) : Prop where
  sorted : (Assoc.keys entries).Pairwise (· < ·)
  inner : ∀ e ∈ entries, Tidy e.2

theorem tidyEntries_nil : TidyEntries [] where
  sorted := List.Pairwise.nil
  inner _ he := absurd he List.not_mem_nil

theorem TidyEntries.insert (h : TidyEntries entries) (name : String) {tree : FileTree}
    (ht : Tidy tree) : TidyEntries (Assoc.insert name tree entries) where
  sorted := Assoc.pairwise_keys_insert h.sorted name tree
  inner e he := by
    rcases Assoc.mem_insert he with rfl | he
    · exact ht
    · exact h.inner e he

theorem filesOf_eq (path : List String) (entries : List (String × FileTree)) :
    filesOf path entries = entries.flatMap fun e => files (path ++ [e.1]) e.2 := by
  induction entries with
  | nil => rfl
  | cons e rest ih =>
    obtain ⟨name, tree⟩ := e
    rw [filesOf, ih, List.flatMap_cons]

theorem Tidy.exists_mem_files {tree : FileTree} (h : Tidy tree) :
    ∀ path, ∃ f, f ∈ files path tree := by
  induction h with
  | file contents => exact fun path => ⟨(path, contents), List.mem_singleton.2 rfl⟩
  | directory nonempty _ _ ih =>
    intro path
    obtain ⟨e, he⟩ := List.exists_mem_of_ne_nil _ nonempty
    obtain ⟨f, hf⟩ := ih e he (path ++ [e.1])
    refine ⟨f, ?_⟩
    rw [files, filesOf_eq]
    exact List.mem_flatMap.2 ⟨e, he, hf⟩

/-- A file has the path of the tree in front. -/
theorem Tidy.prefix_of_mem {tree : FileTree} (h : Tidy tree) :
    ∀ path, ∀ f ∈ files path tree, path <+: f.1 := by
  induction h with
  | file contents =>
    intro path f hf
    obtain rfl : f = (path, contents) := List.mem_singleton.1 hf
    exact List.prefix_refl path
  | directory _ _ _ ih =>
    intro path f hf
    rw [files, filesOf_eq] at hf
    obtain ⟨e, he, hf⟩ := List.mem_flatMap.1 hf
    exact (List.prefix_append path [e.1]).trans (ih e he _ f hf)

theorem TidyEntries.prefix_of_mem (h : TidyEntries entries) {f : List String × String}
    (hf : f ∈ filesOf path entries) : ∃ name ∈ Assoc.keys entries, path ++ [name] <+: f.1 := by
  rw [filesOf_eq] at hf
  obtain ⟨e, he, hf⟩ := List.mem_flatMap.1 hf
  exact ⟨e.1, List.mem_map_of_mem he, (h.inner e he).prefix_of_mem _ f hf⟩

/-! ### One name -/

/-- What is in the directory of a name. -/
def within (name : String) (entries : List (String × FileTree)) : List (String × FileTree) :=
  match entries.lookup name with
  | some (.directory inner) => inner
  | _ => []

theorem TidyEntries.within (h : TidyEntries entries) (name : String) :
    TidyEntries (within name entries) := by
  unfold FileTree.within
  split
  · next inner hl =>
    have htidy := h.inner _ (Assoc.mem_of_lookup hl)
    cases htidy with
    | directory _ sorted inner => exact ⟨sorted, inner⟩
  · exact tidyEntries_nil

theorem TidyEntries.without (h : TidyEntries entries) (name : String) :
    TidyEntries (Assoc.without name entries) where
  sorted := h.sorted.sublist (List.filter_sublist.map _)
  inner e he := h.inner e (List.mem_filter.1 he).1

theorem filesOf_insert (h : TidyEntries entries) (tree : FileTree) :
    (filesOf path (Assoc.insert name tree entries)).Perm
      (files (path ++ [name]) tree ++ filesOf path (Assoc.without name entries)) := by
  have hperm := (Assoc.insert_perm h.sorted name tree).flatMap_right
    fun e => files (path ++ [e.1]) e.2
  rwa [← filesOf_eq, List.flatMap_cons, ← filesOf_eq] at hperm

theorem filesOf_of_lookup (h : TidyEntries entries) (path : List String) {tree : FileTree}
    (hl : entries.lookup name = some tree) :
    (filesOf path entries).Perm
      (files (path ++ [name]) tree ++ filesOf path (Assoc.without name entries)) := by
  have hperm := (Assoc.perm_of_lookup h.sorted hl).flatMap_right
    fun e => files (path ++ [e.1]) e.2
  rwa [← filesOf_eq, List.flatMap_cons, ← filesOf_eq] at hperm

/-- The files of a tree are those in the directory of a name and those of other names, if the
name is not that of a file. -/
theorem filesOf_within (h : TidyEntries entries) (path : List String)
    (hfile : ∀ contents, entries.lookup name ≠ some (.file contents)) :
    (filesOf path entries).Perm
      (filesOf (path ++ [name]) (FileTree.within name entries) ++
        filesOf path (Assoc.without name entries)) := by
  unfold FileTree.within
  cases hl : entries.lookup name with
  | none =>
    rw [Assoc.without_of_notMem (Assoc.notMem_keys_of_lookup hl)]
    exact List.Perm.refl _
  | some tree =>
    cases tree with
    | file contents => exact absurd hl (hfile contents)
    | directory inner => exact filesOf_of_lookup h path hl

/-- The files of other names have other paths. -/
theorem filter_filesOf_without (h : TidyEntries entries) (path : List String) (name : String)
    (rest : List String) :
    (filesOf path (Assoc.without name entries)).filter (fun f => f.1 ≠ path ++ name :: rest) =
      filesOf path (Assoc.without name entries) := by
  refine List.filter_eq_self.2 fun f hf => decide_eq_true fun he => ?_
  obtain ⟨other, ho, hp⟩ := (h.without name).prefix_of_mem hf
  obtain ⟨e, hm, rfl⟩ := List.mem_map.1 ho
  rw [he, List.prefix_append_right_inj, List.cons_prefix_cons] at hp
  exact of_decide_eq_true (List.mem_filter.1 hm).2 hp.1

/-! ### A file at a path -/

/-- A tree with a file at a path. -/
def put (contents : String) :
    List String → List (String × FileTree) → List (String × FileTree)
  | [], entries => entries
  | [name], entries => Assoc.insert name (.file contents) entries
  | name :: rest, entries =>
    Assoc.insert name (.directory (put contents rest (within name entries))) entries

/-- Nothing stands in the way of a file: no file where a directory is needed, and no directory
in the file's place. -/
def Clear : List String → List (String × FileTree) → Prop
  | [], _ => False
  | [name], entries => ∀ inner, entries.lookup name ≠ some (.directory inner)
  | name :: rest, entries =>
    (∀ contents, entries.lookup name ≠ some (.file contents)) ∧ Clear rest (within name entries)

theorem put_ne_nil (h : Clear parts entries) : put contents parts entries ≠ [] := by
  have hinsert : ∀ name tree, Assoc.insert name tree entries ≠ [] := by
    intro name tree he
    have hl := Assoc.lookup_insert_self name tree entries
    rw [he] at hl
    cases hl
  match parts with
  | [] => exact absurd h id
  | [name] => exact hinsert _ _
  | name :: next :: rest => exact hinsert _ _

theorem TidyEntries.put (h : TidyEntries entries) (hc : Clear parts entries) :
    TidyEntries (put contents parts entries) := by
  induction parts generalizing entries with
  | nil => exact h
  | cons name rest ih =>
    cases rest with
    | nil => exact h.insert name (.file contents)
    | cons next rest =>
      have hinner := ih (h.within name) hc.2
      exact h.insert name (.directory (put_ne_nil hc.2) hinner.sorted hinner.inner)

theorem makeAll_singleton (allows : String → Bool) (parts : List String)
    (entries : List (String × FileTree)) :
    makeAll allows [parts] entries = makeDirectories allows parts entries := by
  simp only [makeAll]
  generalize makeDirectories allows parts entries = m
  obtain ⟨made, complete⟩ := m
  cases complete <;> rfl

/-- **A write succeeds where nothing stands in the way**, and puts the file into the tree. -/
theorem write_eq_put (hallows : ∀ name ∈ parts, allows name = true) (hc : Clear parts entries) :
    ∃ made, makeDirectories allows parts.dropLast entries = (made, true) ∧
      writeFile allows contents parts made = some (put contents parts entries) := by
  induction parts generalizing entries with
  | nil => exact absurd hc id
  | cons name rest ih =>
    obtain ⟨hname, hrest⟩ := List.forall_mem_cons.1 hallows
    cases rest with
    | nil =>
      refine ⟨entries, rfl, ?_⟩
      rw [writeFile]
      split
      · next inner hl => exact absurd hl (hc inner)
      · rw [if_pos hname]
        rfl
    | cons next rest =>
      obtain ⟨made, hmade, hwrite⟩ := ih hrest hc.2
      refine ⟨Assoc.insert name (.directory made) entries, ?_, ?_⟩
      · rw [List.dropLast_cons_cons, makeDirectories]
        cases hl : entries.lookup name with
        | none =>
          rw [within, hl] at hmade
          simp only [if_pos hname, hmade]
        | some tree =>
          cases tree with
          | file contents => exact absurd hl (hc.1 contents)
          | directory inner =>
            rw [within, hl] at hmade
            simp only [hmade]
      · rw [writeFile, Assoc.lookup_insert_self]
        · simp only [hwrite, Option.map_some, Assoc.insert_insert, put]
        · simp

/-- **A file is put into the tree, and no other is touched.** -/
theorem filesOf_put (h : TidyEntries entries) (hc : Clear parts entries) (path : List String) :
    (filesOf path (put contents parts entries)).Perm
      ((path ++ parts, contents) ::
        (filesOf path entries).filter fun f => f.1 ≠ path ++ parts) := by
  induction parts generalizing entries path with
  | nil => exact absurd hc id
  | cons name rest ih =>
    have hothers := filter_filesOf_without h path name rest
    cases rest with
    | nil =>
      have hinsert : (filesOf path (put contents [name] entries)).Perm
          ((path ++ [name], contents) :: filesOf path (Assoc.without name entries)) :=
        filesOf_insert h (.file contents)
      refine hinsert.trans (List.Perm.cons _ ?_)
      cases hl : entries.lookup name with
      | none =>
        rw [Assoc.without_of_notMem (Assoc.notMem_keys_of_lookup hl)] at hothers ⊢
        rw [hothers]
      | some tree =>
        cases tree with
        | file old =>
          -- The file that was there is the one that the new one takes the place of.
          have hold := (filesOf_of_lookup h path hl).filter fun f => f.1 ≠ path ++ [name]
          rw [files, List.singleton_append, List.filter_cons_of_neg (by simp), hothers] at hold
          exact hold.symm
        | directory inner => exact absurd hl (hc inner)
    | cons next rest =>
      have hparts : path ++ name :: next :: rest = path ++ [name] ++ next :: rest := by simp
      have hwithin := (filesOf_within h path hc.1).filter
        fun f => f.1 ≠ path ++ name :: next :: rest
      rw [List.filter_append, hothers, hparts] at hwithin
      have hinner := ih (h.within name) hc.2 (path ++ [name])
      rw [hparts]
      refine (filesOf_insert h _).trans ((hinner.append_right _).trans ?_)
      exact (hwithin.symm).cons _

/-! ### What stands in the way -/

theorem mem_filesOf_of_within {f : List String × String}
    (hf : f ∈ filesOf (path ++ [name]) (within name entries)) : f ∈ filesOf path entries := by
  unfold FileTree.within at hf
  split at hf
  · next inner hl =>
    rw [filesOf_eq path entries]
    exact List.mem_flatMap.2 ⟨_, Assoc.mem_of_lookup hl, hf⟩
  · exact absurd hf List.not_mem_nil

/-- **Nothing stands in the way of a file** if neither its path leads past a file of the tree nor
the path of a file past its own. -/
theorem TidyEntries.clear_of_files (h : TidyEntries entries) (hne : parts ≠ [])
    (path : List String) (hfiles : ∀ f ∈ filesOf path entries,
      f.1 <+: path ++ parts ∨ path ++ parts <+: f.1 → f.1 = path ++ parts) :
    Clear parts entries := by
  induction parts generalizing entries path with
  | nil => exact absurd rfl hne
  | cons name rest ih =>
    have hmem : ∀ {tree}, entries.lookup name = some tree →
        ∀ f ∈ files (path ++ [name]) tree, f ∈ filesOf path entries := by
      intro tree hl f hf
      rw [filesOf_eq]
      exact List.mem_flatMap.2 ⟨_, Assoc.mem_of_lookup hl, hf⟩
    cases rest with
    | nil =>
      intro inner hl
      -- A directory holds a file, whose path leads on from the directory.
      have htidy := h.inner _ (Assoc.mem_of_lookup hl)
      obtain ⟨f, hf⟩ := htidy.exists_mem_files (path ++ [name])
      have he := hfiles f (hmem hl f hf) (Or.inr (htidy.prefix_of_mem _ f hf))
      cases htidy with
      | directory _ sorted inner =>
        obtain ⟨other, -, hp⟩ := TidyEntries.prefix_of_mem ⟨sorted, inner⟩ hf
        have hlen := hp.length_le
        rw [he, List.length_append, List.length_singleton] at hlen
        omega
    | cons next rest =>
      refine ⟨fun contents hl => ?_, ih (h.within name) (by simp) (path ++ [name]) ?_⟩
      · have he := hfiles _ (hmem hl _ (List.mem_singleton.2 rfl)) (Or.inl ⟨next :: rest, by simp⟩)
        simp at he
      · intro f hf hp
        have he := hfiles f (mem_filesOf_of_within hf) (by simpa using hp)
        simpa using he

end Compendium.FileTree
