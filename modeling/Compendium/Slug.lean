import Compendium.Text.Case

/-!
# Slugs and lookup keys

A slug names a file: letters and numbers of the lower-cased name, words joined
by single hyphens.  A lookup key is what two spellings of one name share.
-/

namespace Compendium.Slug

open Compendium.Text (isAlphanumeric isSpace lowerChar)

/-- The greatest length of a slug. -/
def maxLength : Nat := 50

/-- What a lower-cased character of a name becomes in its slug. -/
def slugChar? (c : Char) : Option Char :=
  if isAlphanumeric c then some c
  else if isSpace c || c = '-' then some '-'
  else none

/-- The words of a slug. -/
def slugWords (name : List Char) : List (List Char) :=
  (((name.flatMap lowerChar).filterMap slugChar?).splitOn '-').filter fun w => !w.isEmpty

/-- Drops hyphens on both sides. -/
def trimHyphens (s : List Char) : List Char :=
  Chars.dropEndWhile (· = '-') (s.dropWhile (· = '-'))

/-- The slug of a name, as characters. -/
def slugChars (name : List Char) : List Char :=
  trimHyphens ((['-'].intercalate (slugWords name)).take maxLength)

/-- The slug of a name. -/
def slug (name : String) : String :=
  String.ofList (slugChars name.toList)

/-- The lookup key of a name, as characters: its letters and numbers in lower
case, words joined by single spaces. -/
def keyChars (name : List Char) : List Char :=
  [' '].intercalate
    (Chars.words ((name.flatMap lowerChar).filter fun c => isAlphanumeric c || isSpace c))

/-- The lookup key of a name. -/
def key (name : String) : String :=
  String.ofList (keyChars name.toList)

end Compendium.Slug
