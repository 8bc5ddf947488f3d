import Compendium.Text.Basic

/-!
# Table rows

A cell's text is escaped so that it never opens a new column or line: backslashes
are doubled, pipes get a backslash, and line breaks become `<br>`.  A row is read
back by cutting at the pipes that no backslash escapes.
-/

namespace Compendium.Markdown

/-- A character as it stands in a cell. -/
def escapeCellChar (c : Char) : List Char :=
  if c = '\\' then ['\\', '\\'] else if c = '|' then ['\\', '|'] else [c]

/-- A text as it stands in a cell: its lines that are not blank, trimmed, with
breaks between them. -/
def escapeCell (text : String) : String :=
  let lines := ((text.toList.splitOn '\n').map Chars.trim).filter fun line => !line.isEmpty
  "<br>".intercalate (lines.map fun line => String.ofList (line.flatMap escapeCellChar))

/-- Cuts a row at the pipes that no backslash escapes; escapes are kept.
`escaped` tells that a backslash stands in front. -/
def cutCells (escaped : Bool) : List Char → List (List Char)
  | [] => [[]]
  | c :: rest =>
    if !escaped && c = '|' then [] :: cutCells false rest
    else match cutCells (!escaped && c = '\\') rest with
      | [] => [[c]]
      | cell :: cells => (c :: cell) :: cells

/-- The cells of a row.  A pipe at the start opens no cell in front of it, and
neither does a pipe at the end that has no backslash before it. -/
def splitRow (row : String) : List String :=
  let row := Chars.trim row.toList
  let cells := cutCells false row
  let cells := if row.head? = some '|' then cells.drop 1 else cells
  let cells :=
    if List.isSuffixOf ['|'] row && !List.isSuffixOf ['\\', '|'] row then cells.dropLast else cells
  cells.map fun cell => String.ofList (Chars.trim cell)

/-- A row of cells. -/
def formatRow (cells : List String) : String :=
  if cells.isEmpty then "| |" else "| " ++ " | ".intercalate cells ++ " |"

/-- The row under the header, from the alignment of each column. -/
def separatorRow (alignments : List String) : String :=
  "|" ++ "|".intercalate alignments ++ "|"

end Compendium.Markdown
