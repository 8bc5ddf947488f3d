import Compendium.Document.Creature
import Compendium.Proofs.Distinct
import Compendium.Proofs.Document.SpellLine

/-!
# The names in damage lists

A list of types of damage is read twice: for a line of the document, with the notes of its groups
around their lists, and for a facet, which keeps the names alone.  Both go into the groups to any
depth.  The facet holds every string that occurs in the list or in a list inside it (`Occurs`), and
says nothing of where or how often (`Rearranged`).  The line is put together from the strings of the
list, notes and punctuation (`Piece`); a group with a text of its own shows that in place of its
list, so the line takes some of the strings that occur (`Taken`), and no others.

* `defense_facets_hold_names`: the facets for immunities and resistances, and the lines beside them.
-/

namespace Compendium.Document.Defense

open Compendium.Render (Style)

/-- Induction into the lists of groups. -/
theorem groups_induction (key : String) {motive : List Json → Prop}
    (step : ∀ values, (∀ group : Record, .obj group.fields ∈ values → motive (group.array key)) →
      motive values) (values : List Json) : motive values :=
  step values fun group _ => groups_induction key step (group.array key)
termination_by sizeOf values
decreasing_by
  have := Record.sizeOf_array_lt group key
  have := Record.sizeOf_record? (Json.record?_eq_some_iff.2 (Eq.refl (Json.obj group.fields)))
  have := List.sizeOf_lt_of_mem ‹_ ∈ values›
  omega

/-! ### Names at any depth -/

section Names

variable {key : String} {values : List Json} {t : String}

/-- A string in a list, or in the list of a group in it. -/
inductive Occurs (key : String) : List Json → String → Prop
  | name {values : List Json} {t : String} (h : .str t ∈ values) : Occurs key values t
  | group {values : List Json} {group : Record} {t : String} (h : .obj group.fields ∈ values)
      (ht : Occurs key (group.array key) t) : Occurs key values t

/-- Lists with the same elements, and the same ones in the lists of their groups: in another order,
more often or less often. -/
inductive Rearranged (key : String) : List Json → List Json → Prop
  | perm {a b : List Json} (h : a.Perm b) : Rearranged key a b
  | again {a : List Json} {v : Json} (h : v ∈ a) : Rearranged key a (v :: a)
  | inside {f g : Record} (front back : List Json)
      (h : Rearranged key (f.array key) (g.array key)) :
      Rearranged key (front ++ .obj f.fields :: back) (front ++ .obj g.fields :: back)
  | symm {a b : List Json} (h : Rearranged key a b) : Rearranged key b a
  | trans {a b c : List Json} (hab : Rearranged key a b) (hbc : Rearranged key b c) :
      Rearranged key a c

/-- A string, or a group in whose list the string occurs. -/
def OccursIn (key : String) (t : String) (v : Json) : Prop :=
  v = .str t ∨ ∃ group : Record, v = .obj group.fields ∧ Occurs key (group.array key) t

theorem occurs_iff : Occurs key values t ↔ ∃ v ∈ values, OccursIn key t v := by
  constructor
  · rintro (h | ⟨h, ht⟩)
    · exact ⟨_, h, Or.inl rfl⟩
    · exact ⟨_, h, Or.inr ⟨_, rfl, ht⟩⟩
  · rintro ⟨v, hv, rfl | ⟨group, rfl, ht⟩⟩
    · exact .name hv
    · exact .group hv ht

theorem occursIn_obj {group : Record} :
    OccursIn key t (.obj group.fields) ↔ Occurs key (group.array key) t := by
  obtain ⟨fields⟩ := group
  constructor
  · rintro (hstr | ⟨⟨other⟩, heq, ht⟩)
    · cases hstr
    · cases heq
      exact ht
  · exact fun ht => Or.inr ⟨⟨fields⟩, rfl, ht⟩

/-- **Neither the order nor the number of elements matters**, at any depth. -/
theorem Rearranged.occurs_iff {a b : List Json} (h : Rearranged key a b) (t : String) :
    Occurs key a t ↔ Occurs key b t := by
  induction h with
  | perm h => simp only [Defense.occurs_iff, h.mem_iff]
  | again h =>
    simp only [Defense.occurs_iff, List.mem_cons, exists_eq_or_imp]
    exact ⟨Or.inr, fun hv => hv.elim (fun hv => ⟨_, h, hv⟩) id⟩
  | inside front back _ ih =>
    rw [← occursIn_obj, ← occursIn_obj] at ih
    simp only [Defense.occurs_iff, List.mem_append, List.mem_cons, or_and_right, exists_or,
      exists_eq_left, ih]
  | symm _ ih => exact ih.symm
  | trans _ _ ihab ihbc => exact ihab.trans ihbc

/-- The names that an element adds. -/
def namesOf (key : String) (v : Json) : List String :=
  match v.record? with
  | none => v.str?.toList.map Text.lower
  | some group => allNames key (group.array key)

theorem allNames_eq (key : String) (values : List Json) :
    allNames key values = values.flatMap (namesOf key) := by
  rw [allNames, List.flatMap_subtype (g := namesOf key), List.unattach_attach]
  intro v _
  dsimp only
  rw [namesOf]
  split <;> simp [*]

/-- **A name is a string that occurs**, in lower case. -/
theorem mem_allNames : t ∈ allNames key values ↔ ∃ u, Occurs key values u ∧ Text.lower u = t := by
  constructor
  · induction values using groups_induction key with
    | step values ih =>
      rw [allNames_eq, List.mem_flatMap]
      rintro ⟨v, hv, h⟩
      cases v with
      | str u => exact ⟨u, .name hv, (List.mem_singleton.1 h).symm⟩
      | obj fields =>
        obtain ⟨u, hu, hlower⟩ := ih ⟨fields⟩ hv h
        exact ⟨u, Occurs.group hv hu, hlower⟩
      | _ => cases h
  · rintro ⟨u, hu, rfl⟩
    induction hu with
    | name h =>
      rw [allNames_eq, List.mem_flatMap]
      exact ⟨_, h, List.mem_singleton.2 rfl⟩
    | group h _ ih =>
      rw [allNames_eq, List.mem_flatMap]
      exact ⟨_, h, ih⟩

theorem mem_names {r : Record} :
    t ∈ names r key ↔ ∃ u, Occurs key (r.array key) u ∧ Text.lower u = t := by
  rw [names, Text.mem_sortDistinct, mem_allNames]

/-- Lists in which the same strings occur have the same names. -/
theorem names_congr {r r' : Record}
    (h : ∀ t, Occurs key (r.array key) t ↔ Occurs key (r'.array key) t) :
    names r key = names r' key := by
  refine Text.sortDistinct_congr fun t => ?_
  simp only [mem_allNames, h]

end Names

/-! ### The line -/

/-- What a list is put together from when it is written as prose. -/
inductive Piece where
  /-- A string of the list. -/
  | name (t : String)
  /-- A note around a group, or the text that a group shows in place of its list. -/
  | note (t : String)
  /-- What stands between two of these. -/
  | mark (t : String)

/-- A piece as it is shown. -/
def Piece.show (s : Style) : Piece → String
  | .name t => s.expand t
  | .note t => s.expand t
  | .mark t => t

/-- The text of pieces. -/
def textOf (s : Style) (pieces : List Piece) : String :=
  String.join (pieces.map (Piece.show s))

/-- Parts with a separator between them. -/
def joined (sep : String) (parts : List (List Piece)) : List Piece :=
  [Piece.mark sep].intercalate parts

/-- Parts with a separator between them, if there are parts. -/
def joined? (sep : String) (parts : List (List Piece)) : Option (List Piece) :=
  if parts.isEmpty then none else some (joined sep parts)

/-- The list of a group between its notes. -/
def piecesWithNotes (group : Record) (inner : List Piece) : List Piece :=
  joined " " (((group.str? "preNote").map fun t => [Piece.note t]).toList ++ inner ::
    ((group.str? "note").map fun t => [Piece.note t]).toList)

/-- The pieces of a list. -/
def pieces? (key : String) (values : List Json) : Option (List Piece) :=
  let plain := (values.filterMap Json.str?).map fun t => [Piece.name t]
  let qualified := values.attach.filterMap fun ⟨v, _⟩ =>
    match _h : v.record? with
    | none => none
    | some group =>
      match group.str? "special" with
      | some special => some [.note special]
      | none => (pieces? key (group.array key)).map (piecesWithNotes group)
  joined? "; " ((joined? ", " plain).toList ++ qualified)
termination_by sizeOf values
decreasing_by
  have := Record.sizeOf_array_lt group key
  have := Record.sizeOf_record? _h
  have := List.sizeOf_lt_of_mem ‹v ∈ values›
  omega

section Pieces

variable {s : Style} {key sep : String} {values : List Json} {t : String}

theorem textOf_append (front back : List Piece) :
    textOf s (front ++ back) = textOf s front ++ textOf s back := by
  rw [textOf, List.map_append, String.join_append, textOf, textOf]

theorem textOf_joined (sep : String) (parts : List (List Piece)) :
    textOf s (joined sep parts) = sep.intercalate (parts.map (textOf s)) := by
  induction parts with
  | nil => rfl
  | cons part rest ih =>
    cases rest with
    | nil => simp [joined]
    | cons next rest =>
      rw [joined] at ih ⊢
      rw [List.intercalate_cons_cons, textOf_append, textOf_append, ih]
      simp [textOf, Piece.show, String.intercalate_cons_cons]

theorem map_textOf_joined? (sep : String) (parts : List (List Piece)) :
    (joined? sep parts).map (textOf s) = Text.joined? sep (parts.map (textOf s)) := by
  cases parts with
  | nil => rfl
  | cons part rest => exact congrArg some (textOf_joined sep (part :: rest))

theorem textOf_piecesWithNotes (group : Record) (inner : List Piece) :
    textOf s (piecesWithNotes group inner) = withNotes s group (textOf s inner) := by
  rw [piecesWithNotes, textOf_joined, withNotes]
  cases group.str? "preNote" <;> cases group.str? "note" <;> simp [textOf, Piece.show]

/-- What an element adds behind the plain names, as text. -/
def groupText? (s : Style) (key : String) (v : Json) : Option String :=
  match v.record? with
  | none => none
  | some group =>
    match group.str? "special" with
    | some special => some (s.expand special)
    | none => (text? s key (group.array key)).map (withNotes s group)

/-- What an element adds behind the plain names, as pieces. -/
def groupPieces? (key : String) (v : Json) : Option (List Piece) :=
  match v.record? with
  | none => none
  | some group =>
    match group.str? "special" with
    | some special => some [.note special]
    | none => (pieces? key (group.array key)).map (piecesWithNotes group)

theorem text?_eq (s : Style) (key : String) (values : List Json) :
    text? s key values = Text.joined? "; "
      ((Text.joined? ", " ((values.filterMap Json.str?).map s.expand)).toList ++
        values.filterMap (groupText? s key)) := by
  rw [text?, List.filterMap_subtype (g := groupText? s key), List.unattach_attach]
  intro v _
  dsimp only
  rw [groupText?]
  split
  · simp [*]
  · next group hgroup => cases hspecial : group.str? "special" <;> simp [hgroup, hspecial]

theorem pieces?_eq (key : String) (values : List Json) :
    pieces? key values = joined? "; "
      ((joined? ", " ((values.filterMap Json.str?).map fun t => [Piece.name t])).toList ++
        values.filterMap (groupPieces? key)) := by
  rw [pieces?, List.filterMap_subtype (g := groupPieces? key), List.unattach_attach]
  intro v _
  dsimp only
  rw [groupPieces?]
  split <;> simp [*]

/-- **The pieces are what the line is put together from.** -/
theorem text?_eq_pieces? (s : Style) (key : String) (values : List Json) :
    text? s key values = (pieces? key values).map (textOf s) := by
  induction values using groups_induction key with
  | step values ih =>
    have hgroups : values.filterMap (groupText? s key) =
        (values.filterMap (groupPieces? key)).map (textOf s) := by
      rw [List.map_filterMap]
      refine List.filterMap_congr fun v hv => ?_
      rw [groupText?, groupPieces?]
      cases hgroup : v.record? with
      | none => rfl
      | some group =>
        have hv' : .obj group.fields ∈ values := Json.record?_eq_some_iff.1 hgroup ▸ hv
        dsimp only
        cases group.str? "special" with
        | some special => simp [textOf, Piece.show]
        | none =>
          rw [ih group hv', Option.map_map, Option.map_map]
          simp only [Function.comp_def, textOf_piecesWithNotes]
    have hplain : (values.filterMap Json.str?).map s.expand =
        ((values.filterMap Json.str?).map fun t => [Piece.name t]).map (textOf s) := by
      simp [textOf, Piece.show]
    rw [text?_eq, pieces?_eq, map_textOf_joined?, List.map_append, ← hgroups, hplain,
      ← map_textOf_joined?, Option.toList_map]

/-- A string in a list, or in the list of a group in it that has no text of its own. -/
inductive Taken (key : String) : List Json → String → Prop
  | name {values : List Json} {t : String} (h : .str t ∈ values) : Taken key values t
  | group {values : List Json} {group : Record} {t : String} (h : .obj group.fields ∈ values)
      (hnone : group.str? "special" = none) (ht : Taken key (group.array key) t) :
      Taken key values t

theorem Taken.occurs (h : Taken key values t) : Occurs key values t := by
  induction h with
  | name h => exact .name h
  | group h _ _ ih => exact .group h ih

theorem taken_iff : Taken key values t ↔ .str t ∈ values ∨ ∃ group : Record,
    .obj group.fields ∈ values ∧ group.str? "special" = none ∧ Taken key (group.array key) t := by
  constructor
  · rintro (h | ⟨h, hnone, ht⟩)
    · exact Or.inl h
    · exact Or.inr ⟨_, h, hnone, ht⟩
  · rintro (h | ⟨group, h, hnone, ht⟩)
    · exact .name h
    · exact .group h hnone ht

theorem getD_joined? (sep : String) (parts : List (List Piece)) :
    (joined? sep parts).getD [] = joined sep parts := by
  cases parts <;> rfl

theorem name_mem_joined {parts : List (List Piece)} :
    .name t ∈ joined sep parts ↔ ∃ part ∈ parts, .name t ∈ part := by
  constructor
  · intro h
    rcases Chars.mem_intercalate h with h | h
    · cases List.mem_singleton.1 h
    · exact h
  · rintro ⟨part, hpart, h⟩
    exact (Chars.infix_intercalate hpart).subset h

theorem name_mem_piecesWithNotes {group : Record} {inner : List Piece} :
    .name t ∈ piecesWithNotes group inner ↔ .name t ∈ inner := by
  rw [piecesWithNotes, name_mem_joined]
  cases group.str? "preNote" <;> cases group.str? "note" <;> simp

theorem name_mem_groupPieces? {v : Json} : .name t ∈ (groupPieces? key v).getD [] ↔
    ∃ group : Record, v = .obj group.fields ∧ group.str? "special" = none ∧
      .name t ∈ (pieces? key (group.array key)).getD [] := by
  simp only [← Json.record?_eq_some_iff]
  rw [groupPieces?]
  cases v.record? with
  | none => simp
  | some group =>
    dsimp only
    cases hspecial : group.str? "special" with
    | some special => simp [hspecial]
    | none =>
      cases hpieces : pieces? key (group.array key) with
      | none => simp [hpieces]
      | some pieces => simp [hspecial, hpieces, name_mem_piecesWithNotes]

theorem exists_part_iff {part? : Option (List Piece)} {x : Piece} :
    (∃ part ∈ part?.toList, x ∈ part) ↔ x ∈ part?.getD [] := by
  cases part? <;> simp

/-- **The names in the line** are the strings that are taken. -/
theorem name_mem_pieces? : .name t ∈ (pieces? key values).getD [] ↔ Taken key values t := by
  induction values using groups_induction key with
  | step values ih =>
    have hplain : (∃ part ∈ (joined? ", "
        ((values.filterMap Json.str?).map fun t => [Piece.name t])).toList, .name t ∈ part) ↔
        .str t ∈ values := by
      rw [exists_part_iff, getD_joined?, name_mem_joined]
      simp [Json.str?_eq_some_iff]
    have hgroups : (∃ part ∈ values.filterMap (groupPieces? key), .name t ∈ part) ↔
        ∃ group : Record, .obj group.fields ∈ values ∧ group.str? "special" = none ∧
          Taken key (group.array key) t := by
      constructor
      · rintro ⟨part, hpart, ht⟩
        obtain ⟨v, hv, hpart⟩ := List.mem_filterMap.1 hpart
        obtain ⟨group, rfl, hnone, ht⟩ :=
          name_mem_groupPieces?.1 (exists_part_iff.1 ⟨part, Option.mem_toList.2 hpart, ht⟩)
        exact ⟨group, hv, hnone, (ih group hv).1 ht⟩
      · rintro ⟨group, hv, hnone, ht⟩
        obtain ⟨part, hpart, ht⟩ := exists_part_iff.2
          (name_mem_groupPieces?.2 ⟨group, rfl, hnone, (ih group hv).2 ht⟩)
        exact ⟨part, List.mem_filterMap.2 ⟨_, hv, Option.mem_toList.1 hpart⟩, ht⟩
    rw [pieces?_eq, getD_joined?, name_mem_joined, taken_iff, ← hplain, ← hgroups]
    simp only [List.mem_append, or_and_right, exists_or]

end Pieces

end Compendium.Document.Defense

namespace Compendium.Document

open Compendium.Render (Style)

/-! ### Creatures -/

theorem Creature.get?_immunities (s : Style) (r : Record) : (facets s r).get? "immunities" =
    if Defense.names r "immune" = [] then none else some (.list (Defense.names r "immune")) := by
  simp (disch := decide) only [facets, Facets.get?_insert_of_ne]
  refine Facets.get?_insert_list _ _ ?_
  simp (disch := decide) only [Facets.get?_insert_of_ne, Facets.get?_insert?_of_ne]
  rfl

theorem Creature.get?_resistances (s : Style) (r : Record) : (facets s r).get? "resistances" =
    if Defense.names r "resist" = [] then none else some (.list (Defense.names r "resist")) := by
  simp (disch := decide) only [facets, Facets.get?_insert_of_ne]
  refine Facets.get?_insert_list _ _ ?_
  simp (disch := decide) only [Facets.get?_insert_of_ne, Facets.get?_insert?_of_ne]
  rfl

/-- A list of types of damage under a key: what a facet of creatures holds of it, and what a
labelled line shows. -/
structure ListedDamage (s : Style) (r : Record) (facet label key : String) : Prop where
  names : ∃ names : List String, names.Pairwise (· < ·) ∧
    (∀ t, t ∈ names ↔ ∃ u, Defense.Occurs key (r.array key) u ∧ Text.lower u = t) ∧
    ((layoutOf .creature).facets s r).get? facet = if names = [] then none else some (.list names)
  rearranged : ∀ s' r', Defense.Rearranged key (r.array key) (r'.array key) →
    ((layoutOf .creature).facets s' r').get? facet = ((layoutOf .creature).facets s r).get? facet
  line : ∃ rules, .lines rules ∈ (layoutOf .creature).parts ∧ ⟨label, Defense.field? key⟩ ∈ rules
  pieces : Defense.field? key s r =
    (Defense.pieces? key (r.array key)).map (Defense.textOf s)
  taken : ∀ t, .name t ∈ (Defense.pieces? key (r.array key)).getD [] →
    ∃ names, ((layoutOf .creature).facets s r).get? facet = some (.list names) ∧
      Text.lower t ∈ names
  taken_iff : ∀ t, .name t ∈ (Defense.pieces? key (r.array key)).getD [] ↔
    Defense.Taken key (r.array key) t
  built : ∀ filter v document entry, v.record? = some r →
    build s filter .creature v = .built document entry →
    entry.facets = (layoutOf .creature).facets s r ∧
    ∀ text, Defense.field? key s r = some text → Text.isBlank text = false →
      (Style.bold label ++ " " ++ Text.trim text).toList <:+: document.body.toList

theorem listedDamage {facet label key : String}
    (hfacet : ∀ s r, ((layoutOf .creature).facets s r).get? facet =
      if Defense.names r key = [] then none else some (.list (Defense.names r key)))
    (hline : ∃ rules, .lines rules ∈ (layoutOf .creature).parts ∧
      ⟨label, Defense.field? key⟩ ∈ rules) (s : Style) (r : Record) :
    ListedDamage s r facet label key where
  names :=
    ⟨Defense.names r key, Text.pairwise_sortDistinct _, fun _ => Defense.mem_names, hfacet s r⟩
  rearranged s' r' h := by
    rw [hfacet, hfacet, Defense.names_congr h.occurs_iff]
  line := hline
  pieces := Defense.text?_eq_pieces? s key (r.array key)
  taken t ht := by
    have hmem : Text.lower t ∈ Defense.names r key :=
      Defense.mem_names.2 ⟨t, (Defense.name_mem_pieces?.1 ht).occurs, rfl⟩
    exact ⟨_, (hfacet s r).trans (if_neg (List.ne_nil_of_mem hmem)), hmem⟩
  taken_iff _ := Defense.name_mem_pieces?
  built filter v document entry hv hbuilt := by
    obtain ⟨-, -, hfacets, hbody⟩ := shown_of_build_eq_built hv hbuilt
    obtain ⟨rules, hpart, hmem⟩ := hline
    refine ⟨hfacets, fun text htext hblank => ?_⟩
    rw [hbody]
    exact infix_bodyText_line hpart hmem (Line.render?_eq_some_iff.2 ⟨text, htext, hblank, rfl⟩)

/-- **The names in damage lists.**  For every record, the facet for the immunities of a creature is
the strictly ascending list of the texts that the strings in its list, or at any depth in the lists
of the groups in it, are in lower case, and it is left out if there are none.  It is the same for
every list with these elements in another order or number, at any depth.  The line for the
immunities is put together from such strings, notes of the groups and punctuation, and every string
that it takes from a list is in the facet, in lower case; these are the strings that are not inside
a group with a text of its own.  Where a document is built of the record, its entry has these facets
and its body the line, unless that is blank.  The same holds of resistances. -/
theorem defense_facets_hold_names (s : Style) (r : Record) :
    ListedDamage s r "immunities" "Damage Immunities" "immune" ∧
    ListedDamage s r "resistances" "Damage Resistances" "resist" :=
  ⟨listedDamage Creature.get?_immunities
      ⟨_, List.mem_of_getElem? (i := 2) rfl, List.mem_of_getElem? (i := 4) rfl⟩ s r,
    listedDamage Creature.get?_resistances
      ⟨_, List.mem_of_getElem? (i := 2) rfl, List.mem_of_getElem? (i := 3) rfl⟩ s r⟩

/-- A group that shows its list and one that shows a text in place of it, and the same names in
another order, one of them twice. -/
theorem defense_facets_hold_names_wight :
    let s := Style.make false 1
    let cold : Json := .obj [("special", .str "all in rage"), ("resist", .arr [.str "Cold"])]
    let spells (values : List Json) : Json :=
      .obj [("resist", .arr values), ("note", .str "from spells")]
    let r : Record := ⟨[("resist", .arr [.str "necrotic", spells [.str "Fire", .str "necrotic"],
      cold])]⟩
    let r' : Record := ⟨[("resist", .arr [cold, .str "necrotic", .str "necrotic",
      spells [.str "necrotic", .str "Fire"]])]⟩
    let facet := some (Facet.list ["cold", "fire", "necrotic"])
    Defense.field? "resist" s r = some "necrotic; Fire, necrotic from spells; all in rage" ∧
    ((layoutOf .creature).facets s r).get? "resistances" = facet ∧
    Defense.Rearranged "resist" (r.array "resist") (r'.array "resist") ∧
    ((layoutOf .creature).facets s r').get? "resistances" = facet := by
  intro s cold spells r r' facet
  have hnames : Defense.names r "resist" = ["cold", "fire", "necrotic"] := by
    have hall : Defense.allNames "resist" (r.array "resist") =
        ["necrotic", "fire", "necrotic", "cold"] := by decide +kernel
    have hsort : ["necrotic", "fire", "necrotic", "cold"].mergeSort (fun a b => a ≤ b) =
        ["cold", "fire", "necrotic", "necrotic"] := by
      simp [List.mergeSort, List.MergeSort.Internal.splitInTwo]
    rw [Defense.names, hall, Text.sortDistinct, hsort]
    rfl
  have hfacet : ((layoutOf .creature).facets s r).get? "resistances" = facet := by
    refine (Creature.get?_resistances s r).trans ?_
    rw [hnames]
    rfl
  have hswap : Defense.Rearranged "resist" (r.array "resist") (r'.array "resist") := by
    have hinner : Defense.Rearranged "resist" [.str "Fire", .str "necrotic"]
        [.str "necrotic", .str "Fire"] := .perm (.swap _ _ _)
    have hgroup : Defense.Rearranged "resist"
        [.str "necrotic", spells [.str "Fire", .str "necrotic"], cold]
        [.str "necrotic", spells [.str "necrotic", .str "Fire"], cold] :=
      .inside (f := ⟨_⟩) (g := ⟨_⟩) [.str "necrotic"] [cold] hinner
    have hagain : Defense.Rearranged "resist"
        [.str "necrotic", spells [.str "necrotic", .str "Fire"], cold]
        [.str "necrotic", .str "necrotic", spells [.str "necrotic", .str "Fire"], cold] :=
      .again List.mem_cons_self
    exact hgroup.trans (hagain.trans (.perm (List.perm_append_singleton cold [_, _, _])))
  have hline : Defense.field? "resist" s r =
      some "necrotic; Fire, necrotic from spells; all in rage" := by decide +kernel
  exact ⟨hline, hfacet, hswap,
    ((defense_facets_hold_names s r).2.rearranged s r' hswap).trans hfacet⟩

end Compendium.Document
