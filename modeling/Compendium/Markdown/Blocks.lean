import Compendium.Text.Basic

/-!
# Blocks of Markdown

Putting rendered blocks together: blank lines between them, markers in front of
their lines, and names that lead a paragraph.
-/

namespace Compendium.Markdown

/-- Blocks with blank lines between them; blank blocks are left out, and white
space at the end of a block is dropped. -/
def joinBlocks (blocks : List String) : String :=
  "\n\n".intercalate ((blocks.filter fun b => !Text.isBlank b).map Text.trimEnd)

/-- Maps every line of a text. -/
def mapLines (f : String → String) (text : String) : String :=
  "\n".intercalate ((Text.lines text).map f)

/-- A block quote: every line behind a marker. -/
def quoteLines (text : String) : String :=
  mapLines (fun line => if line.isEmpty then ">" else "> " ++ line) text

/-- Every line that is not empty, moved two columns in. -/
def indent (text : String) : String :=
  mapLines (fun line => if line.isEmpty then "" else "  " ++ line) text

/-- A list item: its first line behind a marker, the others under it.  Blank
text makes no item. -/
def bullet? (text : String) : Option String :=
  if Text.isBlank text then none
  else match Text.lines text with
    | [] => some "- "
    | first :: rest =>
      some ("\n".intercalate
        (("- " ++ first) :: rest.map fun line => if line.isEmpty then "" else "  " ++ line))

/-- A line in italics; block markers in front of it stay outside. -/
def italicizeLine (line : String) : String :=
  let isMarker (c : Char) : Bool := c = '#' || c = '>' || c = '-' || c = ' '
  let content := Text.dropFrontWhile isMarker line
  if Text.isBlank content then line
  else String.ofList (line.toList.takeWhile isMarker) ++ "*" ++ Text.trimEnd content ++ "*"

/-- How a name in front of its paragraph is set off. -/
inductive NameStyle where
  | boldItalic
  | bold
  | italic
  | plain
  deriving DecidableEq, Repr

/-- A name as a label: it ends in a punctuation mark, except in the plain style. -/
def nameLabel (style : NameStyle) (name : String) : String :=
  let name := Text.trim name
  let label := match name.toList.getLast? with
    | some c => if c = '.' || c = '!' || c = '?' || c = ':' then name else name ++ "."
    | none => name ++ "."
  match style with
  | .boldItalic => "***" ++ label ++ "***"
  | .bold => "**" ++ label ++ "**"
  | .italic => "*" ++ label ++ "*"
  | .plain => name

/-- A paragraph that its name leads. -/
def namedParagraph (style : NameStyle) (name body : String) : String :=
  if body.isEmpty then nameLabel style name else nameLabel style name ++ " " ++ body

end Compendium.Markdown
