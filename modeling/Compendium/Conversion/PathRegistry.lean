import Compendium.Slug

/-!
# Registries of output paths

Two documents may want one path.  The registry knows the paths that are taken and
finds another one: a taken path gets the slug of the source behind its stem, and a
counter if that is taken too.  Listing pages have reserved paths, which no
document gets.
-/

namespace Compendium

/-- What happens when a document wants a path that is taken. -/
inductive CollisionPolicy where
  /-- It gets a path of its own. -/
  | suffixSource
  /-- It takes the path over. -/
  | overwrite
  deriving DecidableEq, Repr, Inhabited

/-- The paths that are taken, each once, the latest first. -/
structure PathRegistry where
  claimed : List String

namespace PathRegistry

/-- No path is taken. -/
def empty : PathRegistry := ⟨[]⟩

/-- The stem of the listing pages. -/
def reservedStem : String := "index"

/-- The extension of documents. -/
def extension : String := ".md"

/-- Whether a path is that of a listing page. -/
def isReserved (path : String) : Bool :=
  Text.afterLast '/' path = reservedStem ++ extension

/-- Whether a path is taken or reserved. -/
def contains (r : PathRegistry) (path : String) : Bool :=
  isReserved path || r.claimed.contains path

/-- The number of paths that are taken. -/
def size (r : PathRegistry) : Nat :=
  r.claimed.length

/-- Takes a path. -/
def insert (r : PathRegistry) (path : String) : PathRegistry :=
  if r.claimed.contains path then r else ⟨path :: r.claimed⟩

/-- A path without the extension of documents. -/
def stemOf (path : String) : String :=
  if Text.finishesWith extension path then
    String.ofList (path.toList.take (path.toList.length - extension.toList.length))
  else path

/-- A stem with a counter behind it, as a path. -/
def numbered (stem : String) (n : Nat) : String :=
  stem ++ "-" ++ toString n ++ extension

/-- The first path with a counter, from two up, that is free.  One of the first
`size + 1` of them is. -/
def firstNumbered (r : PathRegistry) (stem : String) : String :=
  (((List.range' 2 (r.size + 1)).map (numbered stem)).find? fun path => !r.contains path).getD stem

/-- A free path for a document whose own is taken. -/
def alternative (r : PathRegistry) (preferred : String) (source? : Option String) : String :=
  let stem := stemOf preferred
  match (source?.map Slug.slug).filter fun source => !source.isEmpty with
  | none => r.firstNumbered stem
  | some source =>
    let stem := stem ++ "-" ++ source
    if r.contains (stem ++ extension) then r.firstNumbered stem else stem ++ extension

/-- The path that a document gets. -/
def resolve (r : PathRegistry) (policy : CollisionPolicy) (preferred : String)
    (source? : Option String) : String :=
  if !r.contains preferred then preferred
  else if policy = .overwrite && !isReserved preferred then preferred
  else r.alternative preferred source?

/-- What a claim comes to: the path, whether the preferred one was not free, and
the registry afterwards. -/
structure Claim where
  path : String
  collided : Bool
  registry : PathRegistry

/-- Claims a path for a document. -/
def claim (r : PathRegistry) (policy : CollisionPolicy) (preferred : String)
    (source? : Option String) : Claim :=
  let path := r.resolve policy preferred source?
  ⟨path, r.contains preferred, r.insert path⟩

end PathRegistry

end Compendium
