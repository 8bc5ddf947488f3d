import Compendium.Text.Chars

/-!
# Tags in running text

A text embeds tags of the form `{@name first|second|…}`.  Braces nest: a tag
ends at the brace that balances its opening one, and a pipe separates arguments
only where no inner brace is open.
-/

namespace Compendium.Inline

/-- The number of braces open after a character; it never falls below zero. -/
def depthAfter (depth : Nat) (c : Char) : Nat :=
  if c = '\x7b' then depth + 1 else if c = '\x7d' then depth - 1 else depth

/-- Reads up to the brace that closes the last of `depth` open ones: the
characters in front of it and those after it. -/
def closing? (depth : Nat) : List Char → Option (List Char × List Char)
  | [] => none
  | c :: rest =>
    if c = '\x7d' && depth ≤ 1 then some ([], rest)
    else (closing? (depthAfter depth c) rest).map fun (body, after) => (c :: body, after)

theorem closing?_length {depth : Nat} {s body after : List Char}
    (h : closing? depth s = some (body, after)) : after.length < s.length := by
  induction s generalizing depth body after with
  | nil => cases h
  | cons c rest ih =>
    rw [closing?] at h
    split at h
    · cases h; simp
    · obtain ⟨⟨b, a⟩, hb, he⟩ := Option.map_eq_some_iff.1 h
      cases he
      exact Nat.lt_succ_of_lt (ih hb)

/-- A piece of a text: a character of its own, or a whole tag. -/
inductive Segment where
  | char (c : Char)
  | tag (body : List Char)
  deriving DecidableEq, Repr

/-- Cuts a text into characters and tags.  An opening that is never closed is
ordinary text, and tags may follow it. -/
def segments (s : List Char) : List Segment :=
  match s with
  | [] => []
  | '\x7b' :: '@' :: rest =>
    match _h : closing? 1 rest with
    | some (body, after) => .tag body :: segments after
    | none => .char '\x7b' :: .char '@' :: segments rest
  | c :: rest => .char c :: segments rest
termination_by s.length
decreasing_by
  · have := closing?_length _h
    simp only [List.length_cons]; omega
  · simp only [List.length_cons]; omega
  · simp

/-- Cuts at the pipes that stand where no brace is open; `depth` braces are open
at the start. -/
def cutArguments (depth : Nat) : List Char → List (List Char)
  | [] => [[]]
  | c :: rest =>
    if c = '|' && depth = 0 then [] :: cutArguments 0 rest
    else match cutArguments (depthAfter depth c) rest with
      | [] => [[c]]
      | a :: as => (c :: a) :: as

/-- A tag's name and its arguments, in which tags are still unexpanded. -/
structure Invocation where
  name : List Char
  args : List (List Char)
  deriving DecidableEq, Repr

/-- Reads the text between `{@` and its closing brace.  White space ends the
name; nothing after it makes no argument. -/
def Invocation.parse (body : List Char) : Invocation :=
  let body := Chars.trimStart body
  let rest := Chars.trimStart (body.dropWhile fun c => !Text.isSpace c)
  ⟨body.takeWhile fun c => !Text.isSpace c, if rest.isEmpty then [] else cutArguments 0 rest⟩

/-- The first argument, empty if there is none. -/
def Invocation.first (i : Invocation) : List Char :=
  i.args.headD []

end Compendium.Inline
