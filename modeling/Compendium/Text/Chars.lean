import Compendium.Text.Class

/-!
# Lists of characters

Trimming, cutting and searching, on the characters of a text.  Texts themselves
are `String`s; `Compendium.Text.Basic` carries these functions over.
-/

namespace Compendium.Chars

open Compendium.Text (isSpace)

/-- Drops the longest end of a list whose elements all satisfy `p`. -/
def dropEndWhile (p : Char → Bool) (s : List Char) : List Char :=
  (s.reverse.dropWhile p).reverse

/-- Drops white space in front. -/
def trimStart (s : List Char) : List Char :=
  s.dropWhile isSpace

/-- Drops white space at the end. -/
def trimEnd (s : List Char) : List Char :=
  dropEndWhile isSpace s

/-- Drops white space on both sides. -/
def trim (s : List Char) : List Char :=
  trimEnd (trimStart s)

/-- Whether a text shows nothing: it is empty or all white space. -/
def isBlank (s : List Char) : Bool :=
  s.all isSpace

/-- The runs of characters between white space. -/
def words (s : List Char) : List (List Char) :=
  (s.splitOnP isSpace).filter fun w => !w.isEmpty

/-- A line without the carriage return that its line feed follows. -/
def dropReturn (line : List Char) : List Char :=
  if line.getLast? = some '\r' then line.dropLast else line

/-- Reads the pieces between line feeds as lines: every piece but the last was
ended by a line feed, and an empty last piece is no line. -/
def linesOfPieces : List (List Char) → List (List Char)
  | [] => []
  | [last] => if last.isEmpty then [] else [last]
  | piece :: next :: rest => dropReturn piece :: linesOfPieces (next :: rest)

/-- The lines of a text, without their line ends. -/
def lines (s : List Char) : List (List Char) :=
  linesOfPieces (s.splitOn '\n')

/-- Whether `part` occurs in `s` as a run of neighbours. -/
def contains (part : List Char) : List Char → Bool
  | [] => part.isEmpty
  | c :: rest => part.isPrefixOf (c :: rest) || contains part rest

/-- The length of the longest run of `c`, where a run of `current` is under way. -/
def longestRunFrom (c : Char) (current : Nat) : List Char → Nat
  | [] => current
  | d :: rest => if d = c then longestRunFrom c (current + 1) rest
      else max current (longestRunFrom c 0 rest)

/-- The length of the longest run of `c`. -/
def longestRun (c : Char) (s : List Char) : Nat :=
  longestRunFrom c 0 s

@[simp] theorem trimStart_nil : trimStart [] = [] := rfl

@[simp] theorem trim_nil : trim [] = [] := rfl

@[simp] theorem lines_nil : lines [] = [] := rfl

end Compendium.Chars
