import Compendium.Document.Fields

/-!
# Damage and condition lists

A list names types of damage or conditions.  Qualified groups inside it hold a
list of their own under the same key, with notes around it.
-/

namespace Compendium.Document.Defense

open Compendium.Render (Style)

/-- A group's list between its notes. -/
def withNotes (s : Style) (group : Record) (inner : String) : String :=
  " ".intercalate
    (((group.str? "preNote").map s.expand).toList ++ inner ::
      ((group.str? "note").map s.expand).toList)

/-- A list as prose: plain names between commas, then the qualified groups. -/
def text? (s : Style) (key : String) (values : List Json) : Option String :=
  let plain := (values.filterMap Json.str?).map s.expand
  let qualified := values.attach.filterMap fun ⟨v, _⟩ =>
    match _h : v.record? with
    | none => none
    | some group =>
      match group.str? "special" with
      | some special => some (s.expand special)
      | none => (text? s key (group.array key)).map (withNotes s group)
  Text.joined? "; " ((Text.joined? ", " plain).toList ++ qualified)
termination_by sizeOf values
decreasing_by
  have := Record.sizeOf_array_lt group key
  have := Record.sizeOf_record? _h
  have := List.sizeOf_lt_of_mem ‹v ∈ values›
  omega

/-- Every name in a list, those in groups too, in lower case. -/
def allNames (key : String) (values : List Json) : List String :=
  values.attach.flatMap fun ⟨v, _⟩ =>
    match _h : v.record? with
    | none => v.str?.toList.map Text.lower
    | some group => allNames key (group.array key)
termination_by sizeOf values
decreasing_by
  have := Record.sizeOf_array_lt group key
  have := Record.sizeOf_record? _h
  have := List.sizeOf_lt_of_mem ‹v ∈ values›
  omega

/-- A list in a record, under its key. -/
def field? (key : String) (s : Style) (r : Record) : Option String :=
  text? s key (r.array key)

/-- The names of a list in a record, sorted and each once. -/
def names (r : Record) (key : String) : List String :=
  Text.sortDistinct (allNames key (r.array key))

end Compendium.Document.Defense
