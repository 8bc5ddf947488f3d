import Compendium.Text.Chars

/-!
# Operations on texts

The functions of `Compendium.Chars`, on strings.
-/

namespace Compendium.Text

/-- Drops white space on both sides. -/
def trim (s : String) : String :=
  String.ofList (Chars.trim s.toList)

/-- Drops white space in front. -/
def trimStart (s : String) : String :=
  String.ofList (Chars.trimStart s.toList)

/-- Drops white space at the end. -/
def trimEnd (s : String) : String :=
  String.ofList (Chars.trimEnd s.toList)

/-- Whether a text shows nothing: it is empty or all white space. -/
def isBlank (s : String) : Bool :=
  Chars.isBlank s.toList

/-- The text itself, unless it is empty. -/
def nonEmpty? (s : String) : Option String :=
  if s.isEmpty then none else some s

/-- Drops the longest end made of characters that satisfy `p`. -/
def dropEndWhile (p : Char → Bool) (s : String) : String :=
  String.ofList (Chars.dropEndWhile p s.toList)

/-- Drops the longest front made of characters that satisfy `p`. -/
def dropFrontWhile (p : Char → Bool) (s : String) : String :=
  String.ofList (s.toList.dropWhile p)

/-- The words between white space. -/
def words (s : String) : List String :=
  (Chars.words s.toList).map String.ofList

/-- The lines of a text, without their line ends. -/
def lines (s : String) : List String :=
  (Chars.lines s.toList).map String.ofList

/-- The pieces between the separators, one more than there are separators. -/
def splitOn (sep : Char) (s : String) : List String :=
  (s.toList.splitOn sep).map String.ofList

/-- The piece in front of the first separator. -/
def before (sep : Char) (s : String) : String :=
  String.ofList (s.toList.takeWhile fun c => c ≠ sep)

/-- The piece after the last separator. -/
def afterLast (sep : Char) (s : String) : String :=
  String.ofList (s.toList.reverse.takeWhile fun c => c ≠ sep).reverse

/-- Whether `s` begins with `front`. -/
def beginsWith (front s : String) : Bool :=
  front.toList.isPrefixOf s.toList

/-- Whether `s` ends with `back`. -/
def finishesWith (back s : String) : Bool :=
  back.toList.isSuffixOf s.toList

/-- Whether `part` occurs in `s`. -/
def contains (part s : String) : Bool :=
  Chars.contains part.toList s.toList

/-- The parts with separators between them, if there are parts. -/
def joined? (sep : String) (parts : List String) : Option String :=
  if parts.isEmpty then none else some (sep.intercalate parts)

/-- Texts in ascending order, each once. -/
def sortDistinct (texts : List String) : List String :=
  (texts.mergeSort fun a b => a ≤ b).eraseReps

/-- `n` copies of a character. -/
def replicate (n : Nat) (c : Char) : String :=
  String.ofList (List.replicate n c)

end Compendium.Text
