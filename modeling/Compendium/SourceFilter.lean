import Compendium.Text.Case

/-!
# Source filters

A filter names the source books whose records are wanted.  Codes are compared in
upper case, without white space around them.
-/

namespace Compendium

/-- The codes of the sources that are wanted; none for all of them. -/
structure SourceFilter where
  codes : List String

namespace SourceFilter

/-- A code as it is compared. -/
def normalize (code : String) : String :=
  Text.asciiUpper (Text.trim code)

/-- The filter that lets every record pass. -/
def all : SourceFilter := ⟨[]⟩

/-- The filter of a list of codes; blank ones do not count. -/
def ofList (codes : List String) : SourceFilter :=
  ⟨(codes.map normalize).filter fun code => !code.isEmpty⟩

/-- Whether every record passes. -/
def isEmpty (f : SourceFilter) : Bool :=
  f.codes.isEmpty

/-- Whether a record with a source passes.  A record without one passes only the
empty filter. -/
def allows (f : SourceFilter) (source? : Option String) : Bool :=
  f.isEmpty || source?.any fun source => f.codes.contains (normalize source)

end SourceFilter

end Compendium
