import Compendium.Json.Token

/-!
# Quoted texts of TOML

Texts stand in double quotes, with escapes, or in single quotes, as they are.
Three quotes begin a text of several lines.
-/

namespace Compendium.Toml

/-- A character that may stand in a comment and in a text of one line. -/
def isPlain (c : Char) : Bool :=
  c = '\t' || (0x20 ≤ c.toNat && c ≠ '\x7f')

/-- Blank space inside a line. -/
def isBlank (c : Char) : Bool :=
  c = ' ' || c = '\t'

/-- The character with a number in hexadecimal. -/
def scalar? (digits : List Char) : Option Char :=
  (digits.mapM Json.hexValue?).bind fun values =>
    let n := values.foldl (fun n v => n * 16 + v) 0
    if n.isValidChar then some (Char.ofNat n) else none

/-- The character that a one-letter escape stands for. -/
def escapeLetter? : Char → Option Char
  | 'b' => some '\x08'
  | 't' => some '\t'
  | 'n' => some '\n'
  | 'f' => some '\x0c'
  | 'r' => some '\r'
  | '"' => some '"'
  | '\\' => some '\\'
  | _ => none

/-- Where the reader of a text stands.  A backslash at the end of a line leaves the
line end out, with the white space after it. -/
inductive Place where
  | inside
  /-- Behind a backslash, with nothing but blanks since. -/
  | lineEnd
  /-- Behind such a line end, with nothing but white space since. -/
  | skipping

/-- The text that stands between double quotes. -/
def unescape : Place → List Char → Option (List Char)
  | .lineEnd, '\n' :: rest => unescape .skipping rest
  | .lineEnd, c :: rest => if isBlank c then unescape .lineEnd rest else none
  | .lineEnd, [] => none
  | .skipping, ' ' :: rest => unescape .skipping rest
  | .skipping, '\t' :: rest => unescape .skipping rest
  | .skipping, '\n' :: rest => unescape .skipping rest
  | _, [] => some []
  | _, '\\' :: 'u' :: a :: b :: c :: d :: rest => do
    return (← scalar? [a, b, c, d]) :: (← unescape .inside rest)
  | _, '\\' :: 'U' :: a :: b :: c :: d :: e :: f :: g :: h :: rest => do
    return (← scalar? [a, b, c, d, e, f, g, h]) :: (← unescape .inside rest)
  | _, '\\' :: '\n' :: rest => unescape .skipping rest
  | _, '\\' :: c :: rest =>
    if isBlank c then unescape .lineEnd rest
    else do return (← escapeLetter? c) :: (← unescape .inside rest)
  | _, c :: rest =>
    if c = '\n' || isPlain c then (unescape .inside rest).map (c :: ·) else none

/-- Cuts a text at the quote that ends it; with escapes, a quote behind a backslash
does not. -/
def cutLine (quote : Char) (escapes : Bool) : List Char → Option (List Char × List Char)
  | [] => none
  | [c] => if c = quote then some ([], []) else none
  | c :: d :: rest =>
    if c = quote then some ([], d :: rest)
    else if escapes && c = '\\' then
      (cutLine quote escapes rest).map fun (text, after) => (c :: d :: text, after)
    else (cutLine quote escapes (d :: rest)).map fun (text, after) => (c :: text, after)

/-- Cuts a text of several lines at the three quotes that end it, of which `n` may
just have been read.  One or two quotes more in front of them belong to the text. -/
def cutLines (quote : Char) (escapes : Bool) (n : Nat) : List Char → Option (List Char × List Char)
  | [] => if n < 3 then none else some (List.replicate (n - 3) quote, [])
  | c :: rest =>
    if c = quote && n < 5 then cutLines quote escapes (n + 1) rest
    else if 3 ≤ n then some (List.replicate (n - 3) quote, c :: rest)
    else match escapes && c = '\\', rest with
      | true, [] => none
      | true, d :: rest =>
        (cutLines quote escapes 0 rest).map fun (text, after) =>
          (List.replicate n quote ++ c :: d :: text, after)
      | false, rest =>
        (cutLines quote escapes 0 rest).map fun (text, after) =>
          (List.replicate n quote ++ c :: text, after)

/-- Line ends as line feeds. -/
def normalizeLineEnds : List Char → List Char
  | '\r' :: '\n' :: rest => '\n' :: normalizeLineEnds rest
  | c :: rest => c :: normalizeLineEnds rest
  | [] => []

/-- The lines of a text; a line end right behind the opening quotes is left out. -/
def linesBody (raw : List Char) : List Char :=
  match normalizeLineEnds raw with
  | '\n' :: rest => rest
  | body => body

/-- Reads a text in quotes and gives it with what follows.  A text of several lines
is allowed where `lines` is set. -/
def readQuoted (lines : Bool) : List Char → Option (List Char × List Char)
  | '"' :: rest =>
    match lines, rest with
    | true, '"' :: '"' :: rest => do
      let (raw, after) ← cutLines '"' true 0 rest
      return (← unescape .inside (linesBody raw), after)
    | _, rest => do
      let (raw, after) ← cutLine '"' true rest
      if raw.contains '\n' then none else return (← unescape .inside raw, after)
  | '\'' :: rest =>
    match lines, rest with
    | true, '\'' :: '\'' :: rest => do
      let (raw, after) ← cutLines '\'' false 0 rest
      let body := linesBody raw
      if body.all fun c => c = '\n' || isPlain c then return (body, after) else none
    | _, rest => do
      let (raw, after) ← cutLine '\'' false rest
      if raw.all isPlain then return (raw, after) else none
  | _ => none

end Compendium.Toml
