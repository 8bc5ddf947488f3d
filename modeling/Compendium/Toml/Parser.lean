import Compendium.Toml.Literal
import Compendium.Toml.Quoted

/-!
# Reading TOML

A configuration file is read statement by statement: headers open tables, and
assignments add values to the table opened last.
-/

namespace Compendium.Toml

/-- A character of a key without quotes. -/
def isBareKeyChar (c : Char) : Bool :=
  c.isAlphanum || c = '_' || c = '-'

/-- A character of a number, a date or a truth value. -/
def isWordChar (c : Char) : Bool :=
  c.isAlphanum || c = '_' || c = '-' || c = '+' || c = '.' || c = ':'

/-- Drops blanks in front. -/
def dropBlanks (s : List Char) : List Char :=
  s.dropWhile isBlank

/-- Drops white space, line ends and comments in front, from inside a comment if
`comment` is set. -/
def dropGaps (comment : Bool) : List Char → Option (List Char)
  | [] => some []
  | '\n' :: rest => dropGaps false rest
  | '\r' :: '\n' :: rest => dropGaps false rest
  | c :: rest =>
    if comment then (if isPlain c then dropGaps true rest else none)
    else if c = '#' then dropGaps true rest
    else if isBlank c then dropGaps false rest
    else some (c :: rest)

/-- Reads the rest of a line on which nothing but a comment may stand. -/
def endLine (s : List Char) : Option (List Char) :=
  let rest := match dropBlanks s with
    | '#' :: comment => comment.dropWhile isPlain
    | other => other
  match rest with
  | [] => some []
  | '\n' :: rest => some rest
  | '\r' :: '\n' :: rest => some rest
  | _ => none

/-- Reads one part of a key. -/
def readKeyPart (s : List Char) : Option (String × List Char) :=
  match s with
  | '"' :: _ => (readQuoted false s).map fun (text, after) => (String.ofList text, after)
  | '\'' :: _ => (readQuoted false s).map fun (text, after) => (String.ofList text, after)
  | _ =>
    let part := s.takeWhile isBareKeyChar
    if part.isEmpty then none else some (String.ofList part, s.dropWhile isBareKeyChar)

/-- The greatest number of parts of a key. -/
def maxKeyParts : Nat := 79

/-- Reads a key of at most `n` parts. -/
def readKey : Nat → List Char → Option (List String × List Char)
  | 0, _ => none
  | n + 1, s => do
    let (part, after) ← readKeyPart (dropBlanks s)
    match dropBlanks after with
    | '.' :: rest => do
      let (parts, after) ← readKey n rest
      return (part :: parts, after)
    | after => return ([part], after)

/-- Reads a key and the sign behind it. -/
def readAssigned (s : List Char) : Option (List String × List Char) := do
  match ← readKey maxKeyParts s with
  | (key, '=' :: rest) => return (key, dropBlanks rest)
  | _ => none

/-- Reads a word: a number, a date or a truth value.  A blank may stand between a
date and a time. -/
def readWord (s : List Char) : Option (Value × List Char) :=
  let word := s.takeWhile isWordChar
  let word := match date? word, s.dropWhile isWordChar with
    | some [], ' ' :: c :: rest =>
      if c.isDigit then word ++ ' ' :: (c :: rest).takeWhile isWordChar else word
    | _, _ => word
  (literal? word).map fun value => (value, s.drop word.length)

/-- Adds a value under a key to the fields of a table. -/
def assign (fields : Fields) (key : List String) (value : Value) : Option Fields :=
  key.getLast?.bind fun last => Fields.add true last value key.dropLast fields

/-- The greatest number of arrays and tables in braces inside one another. -/
def maxDepth : Nat := 79

mutual

/-- Reads a value, in at most `fuel` steps and `depth` levels. -/
def readValue (fuel depth : Nat) (s : List Char) : Option (Value × List Char) :=
  match fuel, s with
  | 0, _ => none
  | fuel + 1, c :: rest =>
    if c = '"' || c = '\'' then
      (readQuoted true s).map fun (text, after) => (.string (String.ofList text), after)
    else if c = '[' then
      if depth = 0 then none
      else (readItems fuel (depth - 1) rest).map fun (items, after) => (.array items, after)
    else if c = '\x7b' then
      if depth = 0 then none
      else match dropBlanks rest with
        | '\x7d' :: after => some (.table .inline [], after)
        | inner =>
          (readFields fuel (depth - 1) [] inner).map fun (fields, after) =>
            (.table .inline fields, after)
    else readWord s
  | _, [] => none

/-- Reads the elements of an array up to its closing bracket. -/
def readItems (fuel depth : Nat) (s : List Char) : Option (List Value × List Char) :=
  match fuel with
  | 0 => none
  | fuel + 1 => do
    match ← dropGaps false s with
    | ']' :: after => return ([], after)
    | s =>
      let (item, after) ← readValue fuel depth s
      match ← dropGaps false after with
      | ',' :: rest =>
        let (items, after) ← readItems fuel depth rest
        return (item :: items, after)
      | ']' :: after => return ([item], after)
      | _ => none

/-- Reads the fields of a table up to its closing brace. -/
def readFields (fuel depth : Nat) (fields : Fields) (s : List Char) : Option (Fields × List Char) :=
  match fuel with
  | 0 => none
  | fuel + 1 => do
    let (key, s) ← readAssigned s
    let (value, after) ← readValue fuel depth s
    let fields ← assign fields key value
    match dropBlanks after with
    | ',' :: rest => readFields fuel depth fields rest
    | '\x7d' :: after => return (fields, after)
    | _ => none

end

/-- What has been read of a file: its fields, and the header under which new ones
are put. -/
structure Progress where
  fields : Fields
  header : List String

/-- Adds a value under the header that was opened last. -/
def Progress.assign (p : Progress) (key : List String) (value : Value) : Option Progress :=
  let change (fields : Fields) : Option Fields := Toml.assign fields key value
  (if p.header.isEmpty then change p.fields
    else Fields.alter (Fields.inTable change) p.header p.fields).map fun f => ⟨f, p.header⟩

/-- Opens a table. -/
def Progress.enter (p : Progress) (header : List String)
    (opening : Option Value → Option Value) : Option Progress :=
  (Fields.alter opening header p.fields).map fun f => ⟨f, header⟩

/-- Reads one statement; the text does not begin with a blank, a line end or a
comment. -/
def readStatement (p : Progress) (s : List Char) : Option (Progress × List Char) :=
  match s with
  | '[' :: '[' :: rest => do
    match ← readKey maxKeyParts rest with
    | (header, ']' :: ']' :: after) =>
      return (← p.enter header Fields.appendTable, ← endLine after)
    | _ => none
  | '[' :: rest => do
    match ← readKey maxKeyParts rest with
    | (header, ']' :: after) => return (← p.enter header Fields.openTable, ← endLine after)
    | _ => none
  | s => do
    let (key, s) ← readAssigned s
    let (value, after) ← readValue (2 * s.length + 2) maxDepth s
    return (← p.assign key value, ← endLine after)

/-- Reads statements up to the end of a file, at most `fuel` of them. -/
def readStatements (fuel : Nat) (p : Progress) (s : List Char) : Option Fields :=
  match fuel with
  | 0 => none
  | fuel + 1 => do
    match ← dropGaps false s with
    | [] => return p.fields
    | s =>
      let (p, after) ← readStatement p s
      readStatements fuel p after

/-- Reads a file. -/
def parse? (text : String) : Option Fields :=
  let s := match text.toList with
    | '\ufeff' :: rest => rest
    | s => s
  readStatements (s.length + 1) ⟨[], []⟩ s

end Compendium.Toml
