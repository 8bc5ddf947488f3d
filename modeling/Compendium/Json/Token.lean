import Compendium.Json.Number

/-!
# Tokens of JSON texts

`Json.tokens?` cuts a text into punctuation, literals, strings and numbers, and
fails on anything else.
-/

namespace Compendium.Json

/-- A token of a JSON text. -/
inductive Token where
  | openBrace
  | closeBrace
  | openBracket
  | closeBracket
  | comma
  | colon
  | scalar (value : Json)

/-- White space between tokens. -/
def isGap (c : Char) : Bool :=
  c = ' ' || c = '\t' || c = '\n' || c = '\r'

/-- A character of which number literals are made. -/
def isNumberChar (c : Char) : Bool :=
  c.isDigit || c = '-' || c = '+' || c = '.' || c = 'e' || c = 'E'

/-- The value of a hexadecimal digit. -/
def hexValue? (c : Char) : Option Nat :=
  if c.isDigit then some (c.toNat - 48)
  else if 'a' ≤ c ∧ c ≤ 'f' then some (c.toNat - 87)
  else if 'A' ≤ c ∧ c ≤ 'F' then some (c.toNat - 55)
  else none

/-- The value of four hexadecimal digits. -/
def hexUnit? (a b c d : Char) : Option Nat := do
  return (((← hexValue? a) * 16 + (← hexValue? b)) * 16 + (← hexValue? c)) * 16 + (← hexValue? d)

/-- The character that a one-letter escape stands for. -/
def escaped? : Char → Option Char
  | '"' => some '"'
  | '\\' => some '\\'
  | '/' => some '/'
  | 'b' => some '\x08'
  | 'f' => some '\x0c'
  | 'n' => some '\n'
  | 'r' => some '\r'
  | 't' => some '\t'
  | _ => none

/-- A character of a string, or a UTF-16 unit that an escape writes. -/
inductive Unit16 where
  | char (c : Char)
  | code (n : Nat)

/-- One character or escape in front of a text: what it stands for and the text
after it.  Control characters must be escaped, and a quote ends the string. -/
def readUnit : List Char → Option (Unit16 × List Char)
  | '\\' :: 'u' :: a :: b :: c :: d :: rest => (hexUnit? a b c d).map fun n => (.code n, rest)
  | '\\' :: c :: rest => (escaped? c).map fun c => (.char c, rest)
  | c :: rest => if c.toNat < 0x20 || c = '\\' || c = '"' then none else some (.char c, rest)
  | [] => none

theorem readUnit_length {s after : List Char} {u : Unit16} (h : readUnit s = some (u, after)) :
    after.length < s.length := by
  unfold readUnit at h
  split at h
  · obtain ⟨n, _, he⟩ := Option.map_eq_some_iff.1 h
    cases he; simp only [List.length_cons]; omega
  · obtain ⟨n, _, he⟩ := Option.map_eq_some_iff.1 h
    cases he; simp only [List.length_cons]; omega
  · split at h
    · cases h
    · cases h; simp
  · cases h

/-- Reads a string up to its closing quote: its units and the text after it. -/
def readUnits (s : List Char) : Option (List Unit16 × List Char) :=
  match s with
  | '"' :: rest => some ([], rest)
  | s =>
    match _h : readUnit s with
    | some (u, after) => (readUnits after).map fun (us, after) => (u :: us, after)
    | none => none
termination_by s.length
decreasing_by exact readUnit_length _h

/-- What follows a string is shorter than what it was read from. -/
theorem readUnits_length {s after : List Char} {us : List Unit16}
    (h : readUnits s = some (us, after)) : after.length < s.length := by
  fun_induction readUnits s generalizing us after with
  | case1 rest => cases h; simp
  | case2 s _ u r hr ih =>
    obtain ⟨⟨vs, t⟩, ht, he⟩ := Option.map_eq_some_iff.1 h
    cases he
    exact Nat.lt_trans (ih ht) (readUnit_length hr)
  | case3 => cases h

/-- Joins the halves of surrogate pairs; `none` if one stands alone. -/
def joinUnits : List Unit16 → Option (List Char)
  | [] => some []
  | .char c :: rest => (joinUnits rest).map (c :: ·)
  | .code high :: .code low :: rest =>
    if 0xD800 ≤ high && high < 0xDC00 then
      if 0xDC00 ≤ low && low < 0xE000 then
        (joinUnits rest).map
          (Char.ofNat (0x10000 + (high - 0xD800) * 0x400 + (low - 0xDC00)) :: ·)
      else none
    else if 0xDC00 ≤ high && high < 0xE000 then none
    else (joinUnits (.code low :: rest)).map (Char.ofNat high :: ·)
  | .code n :: rest =>
    if 0xD800 ≤ n && n < 0xE000 then none else (joinUnits rest).map (Char.ofNat n :: ·)

/-- The punctuation mark that a character is. -/
def punctuation? : Char → Option Token
  | '\x7b' => some .openBrace
  | '\x7d' => some .closeBrace
  | '[' => some .openBracket
  | ']' => some .closeBracket
  | ',' => some .comma
  | ':' => some .colon
  | _ => none

/-- Reads the scalar in front of a text: its value and the text after it. -/
def readScalar (s : List Char) : Option (Json × List Char) :=
  match s with
  | [] => none
  | '"' :: rest =>
    (readUnits rest).bind fun (us, after) =>
      (joinUnits us).map fun t => (.str (String.ofList t), after)
  | 'n' :: 'u' :: 'l' :: 'l' :: rest => some (.null, rest)
  | 't' :: 'r' :: 'u' :: 'e' :: rest => some (.bool true, rest)
  | 'f' :: 'a' :: 'l' :: 's' :: 'e' :: rest => some (.bool false, rest)
  | c :: rest =>
    (Number.parse? (c :: rest.takeWhile isNumberChar)).map fun n =>
      (.num n, rest.dropWhile isNumberChar)

theorem readScalar_length {s after : List Char} {v : Json} (h : readScalar s = some (v, after)) :
    after.length < s.length := by
  unfold readScalar at h
  split at h
  · simp at h
  · obtain ⟨⟨us, r⟩, hr, he⟩ := Option.bind_eq_some_iff.1 h
    obtain ⟨t, _, he⟩ := Option.map_eq_some_iff.1 he
    cases he
    exact Nat.lt_succ_of_lt (readUnits_length hr)
  · cases h; simp only [List.length_cons]; omega
  · cases h; simp only [List.length_cons]; omega
  · cases h; simp only [List.length_cons]; omega
  · obtain ⟨n, _, he⟩ := Option.map_eq_some_iff.1 h
    cases he
    exact Nat.lt_succ_of_le (List.dropWhile_sublist _).length_le

/-- The tokens of a text. -/
def tokens? (s : List Char) : Option (List Token) :=
  match s with
  | [] => some []
  | c :: rest =>
    if isGap c then tokens? rest
    else match punctuation? c with
      | some t => (tokens? rest).map (t :: ·)
      | none =>
        match _h : readScalar (c :: rest) with
        | some (v, after) => (tokens? after).map (.scalar v :: ·)
        | none => none
termination_by s.length
decreasing_by
  · simp
  · simp
  · exact readScalar_length _h

end Compendium.Json
