import Compendium.Assoc
import Compendium.Error
import Compendium.Text.Basic

/-!
# Output directories

A directory holds files and directories by name.  Writing a file below a root makes the
directories above it.  A path that would lead out of the root is refused before it is joined to
that of the root; a write fails when a file stands in its way, or a directory in its place, and
when a name or the path is too long for the disk.  The disk may also break off in the middle of a
write (`Fault`), and what was done up to there stays.
-/

namespace Compendium

/-- A file or a directory. -/
inductive FileTree where
  | file (contents : String)
  | directory (entries : List (String × FileTree))

namespace FileTree

/-- Makes the directories of a path, as far as they are missing: what there is
afterwards, and whether the path is complete.  It breaks off at a file and at a
name that is not allowed; what was made up to there stays. -/
def makeDirectories (allows : String → Bool) :
    List String → List (String × FileTree) → List (String × FileTree) × Bool
  | [], entries => (entries, true)
  | name :: rest, entries =>
    match entries.lookup name with
    | some (.file _) => (entries, false)
    | some (.directory inner) =>
      let (inner, complete) := makeDirectories allows rest inner
      (Assoc.insert name (.directory inner) entries, complete)
    | none =>
      if allows name then
        let (inner, complete) := makeDirectories allows rest []
        (Assoc.insert name (.directory inner) entries, complete)
      else (entries, false)

/-- Makes the directories of several paths, up to one that does not become complete. -/
def makeAll (allows : String → Bool) :
    List (List String) → List (String × FileTree) → List (String × FileTree) × Bool
  | [], entries => (entries, true)
  | parts :: rest, entries =>
    let (made, complete) := makeDirectories allows parts entries
    if complete then makeAll allows rest made else (made, false)

/-- Writes a file in a directory that is there. -/
def writeFile (allows : String → Bool) (contents : String) :
    List String → List (String × FileTree) → Option (List (String × FileTree))
  | [], _ => none
  | [name], entries =>
    match entries.lookup name with
    | some (.directory _) => none
    | _ => if allows name then some (Assoc.insert name (.file contents) entries) else none
  | name :: rest, entries =>
    match entries.lookup name with
    | some (.directory inner) =>
      (writeFile allows contents rest inner).map fun inner =>
        Assoc.insert name (.directory inner) entries
    | _ => none

mutual

/-- The files of a tree, with their paths below `path`. -/
def files (path : List String) : FileTree → List (List String × String)
  | .file contents => [(path, contents)]
  | .directory entries => filesOf path entries

def filesOf (path : List String) : List (String × FileTree) → List (List String × String)
  | [] => []
  | (name, tree) :: rest => files (path ++ [name]) tree ++ filesOf path rest

end

end FileTree

/-- How many bytes a name and a path below a directory may have. -/
structure PathLimits where
  name : Nat
  path : Nat

/-- The limits of a common disk: 255 bytes for a name, and for a whole path 4095
bytes, of which those in front of the directory are set aside. -/
def PathLimits.common : PathLimits :=
  ⟨255, 4064⟩

/-- How a disk can break off a write that it could do. -/
inductive Fault where
  /-- On the way to the file, when so many parts of the way are there. -/
  | reaching (parts : Nat)
  /-- When the file is open: this is left in it. -/
  | filling (left : String)

/-- What a directory holds, in ascending order of names, and the limits of its disk
if it has any. -/
structure Directory where
  limits? : Option PathLimits
  entries : List (String × FileTree)

namespace Directory

/-- A directory that holds nothing. -/
def empty (limits? : Option PathLimits) : Directory :=
  ⟨limits?, []⟩

/-- Whether a path could lead out of the directory. -/
def escapes (path : String) : Bool :=
  (Text.splitOn '/' path).any fun part => part = ".." || part.isEmpty

/-- Whether a name is not too long. -/
def allowsName (d : Directory) (name : String) : Bool :=
  d.limits?.all fun limits => name.utf8ByteSize ≤ limits.name

/-- Whether a path can be asked for at all: it holds no null character, and it is
not too long. -/
def allowsPath (d : Directory) (path : String) : Bool :=
  !path.toList.contains '\x00' && d.limits?.all fun limits => path.utf8ByteSize ≤ limits.path

/-! ### Paths -/

/-- Where a part of a path leads: an empty one and a single dot stay, two dots go back. -/
def step (place : List String) (part : String) : List String :=
  if part = "" ∨ part = "." then place
  else if part = ".." then place.dropLast
  else place ++ [part]

/-- The places that must be there for a path: those that it turns back at, and its end. -/
def turns (place : List String) : List String → List (List String)
  | [] => [place]
  | part :: rest =>
    if part = ".." then place :: turns (step place part) rest else turns (step place part) rest

/-- The parts of a path up to its last name. -/
def withoutEndDots (parts : List String) : List String :=
  (parts.reverse.dropWhile fun part => part = "" ∨ part = ".").reverse

/-- The parts of the path to the directory that a path's last name is in. -/
def parentParts (path : String) : List String :=
  withoutEndDots (withoutEndDots (Text.splitOn '/' path)).dropLast

/-- Whether a path names a directory by a dot at its end. -/
def endsInDot (path : String) : Bool :=
  (Text.splitOn '/' path).getLast? = some "."

/-- A path with one more part. -/
def join (path part : String) : String :=
  if path.isEmpty || Text.finishesWith "/" path then path ++ part else path ++ "/" ++ part

/-- A root: its path, and the directory that a relative path starts from. -/
structure Root where
  path : String
  working : List String

/-- The directory itself as a root. -/
def Root.top : Root :=
  ⟨"", []⟩

/-- Where the path of a root starts. -/
def Root.start (root : Root) : List String :=
  if Text.beginsWith "/" root.path then [] else root.working

/-- Where a root is. -/
def Root.location (root : Root) : List String :=
  (Text.splitOn '/' root.path).foldl step root.start

/-- A path below a root, with the path of the root in front. -/
def Root.target (root : Root) (path : String) : String :=
  (Text.splitOn '/' path).foldl join root.path

/-! ### Writing -/

/-- Makes the directories of a path, and tells whether all are there. -/
def makePath (d : Directory) (start parts : List String) : Directory × Bool :=
  if d.allowsPath ("/".intercalate parts) then
    let (entries, complete) := FileTree.makeAll d.allowsName (turns start parts) d.entries
    ({ d with entries := entries }, complete)
  else (d, false)

/-- Writes a file whose parents are there. -/
def put (d : Directory) (start : List String) (path contents : String) : Option Directory :=
  if endsInDot path || !d.allowsPath path then none
  else
    let file := (Text.splitOn '/' path).foldl step start
    (FileTree.writeFile d.allowsName contents file d.entries).map
      fun entries => { d with entries := entries }

/-- Makes the parents of a file and writes it. -/
def writeAt (d : Directory) (start : List String) (path contents : String) :
    Directory × Option Error :=
  let (made, complete) := d.makePath start (parentParts path)
  match if complete then made.put start path contents else none with
  | none => (made, some .io)
  | some written => (written, none)

/-- Writes a file below a root: the directory afterwards, and why it failed if it did.
Only the path below the root is looked at for what leads out of it. -/
def attempt (d : Directory) (fault? : Option Fault) (root : Root) (path contents : String) :
    Directory × Option Error :=
  if escapes path then (d, some (.outsideOutput path))
  else
    let target := root.target path
    match fault? with
    | none => d.writeAt root.start target contents
    | some (.reaching n) => ((d.makePath root.start ((parentParts target).take n)).1, some .io)
    | some (.filling left) => ((d.writeAt root.start target left).1, some .io)

/-- Writes a file into the directory itself, on a disk that does not break off. -/
def write (d : Directory) (path contents : String) : Directory × Option Error :=
  d.attempt none .top path contents

/-- The files, with their paths. -/
def files (d : Directory) : List (String × String) :=
  (FileTree.filesOf [] d.entries).map fun (path, contents) => ("/".intercalate path, contents)

end Directory

end Compendium
