import Compendium.Json.Basic

/-!
# Writing JSON texts

`compact` writes a value without white space, `pretty` one element or field a
line, two spaces further in than its container.  Fields are written in the order
in which the object holds them.
-/

namespace Compendium.Json

/-- A hexadecimal digit. -/
def hexDigit (n : Nat) : Char :=
  Char.ofNat (if n < 10 then 48 + n else 87 + n)

/-- A character as it stands in a string. -/
def escape (c : Char) : List Char :=
  if c = '"' then ['\\', '"']
  else if c = '\\' then ['\\', '\\']
  else if 0x20 ≤ c.toNat then [c]
  else if c = '\x08' then ['\\', 'b']
  else if c = '\x0c' then ['\\', 'f']
  else if c = '\n' then ['\\', 'n']
  else if c = '\r' then ['\\', 'r']
  else if c = '\t' then ['\\', 't']
  else ['\\', 'u', '0', '0', hexDigit (c.toNat / 16), hexDigit (c.toNat % 16)]

/-- A string in quotes. -/
def quote (s : String) : String :=
  "\"" ++ String.ofList (s.toList.flatMap escape) ++ "\""

mutual

/-- A value without white space. -/
def compact : Json → String
  | .null => "null"
  | .bool b => if b then "true" else "false"
  | .num n => n.text
  | .str s => quote s
  | .arr items => "[" ++ ",".intercalate (compactItems items) ++ "]"
  | .obj fields => "\x7b" ++ ",".intercalate (compactFields fields) ++ "\x7d"

def compactItems : List Json → List String
  | [] => []
  | v :: rest => compact v :: compactItems rest

def compactFields : List (String × Json) → List String
  | [] => []
  | (k, v) :: rest => (quote k ++ ":" ++ compact v) :: compactFields rest

end

/-- The white space in front of a line of depth `n`. -/
def margin (n : Nat) : String :=
  String.ofList (List.replicate (2 * n) ' ')

/-- Lines between brackets, at depth `n`. -/
def bracketed (opening closing : String) (n : Nat) (lines : List String) : String :=
  if lines.isEmpty then opening ++ closing
  else
    opening ++ "\n" ++ ",\n".intercalate (lines.map (margin (n + 1) ++ ·)) ++ "\n" ++
      margin n ++ closing

mutual

/-- A value at depth `n`, one element or field a line. -/
def prettyAt (n : Nat) : Json → String
  | .null => "null"
  | .bool b => if b then "true" else "false"
  | .num n => n.text
  | .str s => quote s
  | .arr items => bracketed "[" "]" n (prettyItems (n + 1) items)
  | .obj fields => bracketed "\x7b" "\x7d" n (prettyFields (n + 1) fields)

def prettyItems (n : Nat) : List Json → List String
  | [] => []
  | v :: rest => prettyAt n v :: prettyItems n rest

def prettyFields (n : Nat) : List (String × Json) → List String
  | [] => []
  | (k, v) :: rest => (quote k ++ ": " ++ prettyAt n v) :: prettyFields n rest

end

/-- A value, one element or field a line. -/
def pretty (v : Json) : String :=
  prettyAt 0 v

end Compendium.Json
