import Compendium.Json.Token

/-!
# Reading JSON texts

A text is read token by token.  `Reading` is what has been read so far: the
arrays and objects still open, innermost first, and what may come next.  At most
`depthLimit` arrays and objects may be open at once.
-/

namespace Compendium.Json

/-- An array or object that is still open, its elements or fields last first. -/
inductive Frame where
  | array (items : List Json)
  | object (fields : List (String × Json)) (key : String)

/-- What may come next. -/
inductive Expectation where
  | value
  | valueOrEnd
  | key (fields : List (String × Json))
  | keyOrEnd
  | colon (fields : List (String × Json)) (key : String)
  | afterValue (v : Json)

/-- What has been read so far. -/
structure Reading where
  frames : List Frame
  next : Expectation

/-- The number of arrays and objects that may be open at once. -/
def depthLimit : Nat := 127

/-- Opens an array or object. -/
def Reading.enter (limit : Nat) (frames : List Frame) : Token → Option Reading
  | .openBracket =>
    if frames.length < limit then some ⟨.array [] :: frames, .valueOrEnd⟩ else none
  | .openBrace =>
    if frames.length < limit then some ⟨frames, .keyOrEnd⟩ else none
  | .scalar v => some ⟨frames, .afterValue v⟩
  | _ => none

/-- Reads one token. -/
def Reading.step (limit : Nat) (r : Reading) (t : Token) : Option Reading :=
  match r.next, t with
  | .value, t => Reading.enter limit r.frames t
  | .valueOrEnd, .closeBracket =>
    match r.frames with
    | .array _ :: outer => some ⟨outer, .afterValue (.arr [])⟩
    | _ => none
  | .valueOrEnd, t => Reading.enter limit r.frames t
  | .keyOrEnd, .closeBrace => some ⟨r.frames, .afterValue (.obj [])⟩
  | .keyOrEnd, .scalar (.str key) => some ⟨r.frames, .colon [] key⟩
  | .key fields, .scalar (.str key) => some ⟨r.frames, .colon fields key⟩
  | .colon fields key, .colon => some ⟨.object fields key :: r.frames, .value⟩
  | .afterValue v, .comma =>
    match r.frames with
    | .array items :: outer => some ⟨.array (v :: items) :: outer, .value⟩
    | .object fields key :: outer => some ⟨outer, .key ((key, v) :: fields)⟩
    | [] => none
  | .afterValue v, .closeBracket =>
    match r.frames with
    | .array items :: outer => some ⟨outer, .afterValue (.arr (v :: items).reverse)⟩
    | _ => none
  | .afterValue v, .closeBrace =>
    match r.frames with
    | .object fields key :: outer =>
      some ⟨outer, .afterValue (.obj (Assoc.ofList ((key, v) :: fields).reverse))⟩
    | _ => none
  | _, _ => none

/-- Reads a list of tokens. -/
def Reading.run (limit : Nat) : Reading → List Token → Option Reading
  | r, [] => some r
  | r, t :: rest => (r.step limit t).bind fun r => r.run limit rest

/-- Reads a text that is one value, with white space around it. -/
def parse? (s : String) : Option Json := do
  match ← Reading.run depthLimit ⟨[], .value⟩ (← tokens? s.toList) with
  | ⟨[], .afterValue v⟩ => some v
  | _ => none

end Compendium.Json
