import Compendium.Decimal.Reading
import Compendium.Json.Basic
import Compendium.Text.Basic

/-!
# Records

A record is a JSON object read leniently: a field that is missing, null or of
the wrong shape reads as absent, never as an error.
-/

namespace Compendium

namespace Number

/-- The number in prose: whole numbers show no fraction. -/
def display (n : Number) : String :=
  match n.int64? with
  | some i => toString i
  | none =>
    match Decimal.integer? n.toFloat with
    | some i => if i.natAbs < 1000000000000000 then toString i else Decimal.plain.text n.toFloat
    | none => Decimal.plain.text n.toFloat

/-- The whole number that a number is, brought into the signed 64-bit range. -/
def whole? (n : Number) : Option Int :=
  n.int64? <|> (Decimal.integer? n.toFloat).map Decimal.clampInt64

end Number

namespace Json

/-- A string, number or truth value as text; blank strings read as absent. -/
def scalarText? : Json → Option String
  | .str s => if Text.isBlank s then none else some s
  | .num n => some n.display
  | .bool b => some (if b then "true" else "false")
  | _ => none

/-- An integer, from a whole number or a string that writes one. -/
def whole? : Json → Option Int
  | .num n => n.whole?
  | .str s => Decimal.parseInt64? ((Chars.trim s.toList).dropWhile (· = '+'))
  | _ => none

/-- A floating-point number, from a number or a string that writes one. -/
def float? : Json → Option Float
  | .num n => some n.toFloat
  | .str s => Decimal.parseFloat? (Chars.trim s.toList)
  | _ => none

/-- Whether a value counts as set. -/
def isSet : Json → Bool
  | .null => false
  | .bool b => b
  | .str s => !s.isEmpty
  | .num n => n.toFloat != 0.0
  | .arr _ => true
  | .obj _ => true

end Json

/-- The fields of an object. -/
structure Record where
  fields : List (String × Json)

namespace Json

/-- An object as a record. -/
def record? : Json → Option Record
  | .obj fields => some ⟨fields⟩
  | _ => none

theorem record?_eq_some_iff {v : Json} {r : Record} : v.record? = some r ↔ v = .obj r.fields := by
  obtain ⟨fields⟩ := r
  cases v <;> simp [record?]

end Json

namespace Record

/-- A field, unless it is null. -/
def get? (r : Record) (key : String) : Option Json :=
  match r.fields.lookup key with
  | some .null => none
  | v => v

/-- Whether there is such a field and it is not null. -/
def has (r : Record) (key : String) : Bool :=
  (r.get? key).isSome

/-- A string field that is not blank. -/
def str? (r : Record) (key : String) : Option String :=
  ((r.get? key).bind Json.str?).filter fun s => !Text.isBlank s

/-- A string, number or truth value as text. -/
def text? (r : Record) (key : String) : Option String :=
  (r.get? key).bind Json.scalarText?

/-- An integer field. -/
def int? (r : Record) (key : String) : Option Int :=
  (r.get? key).bind Json.whole?

/-- A floating-point field. -/
def float? (r : Record) (key : String) : Option Float :=
  (r.get? key).bind Json.float?

/-- Whether a field is set. -/
def flag (r : Record) (key : String) : Bool :=
  ((r.get? key).map Json.isSet).getD false

/-- The elements of an array field. -/
def array (r : Record) (key : String) : List Json :=
  ((r.get? key).map Json.elements).getD []

/-- The strings in an array field. -/
def strings (r : Record) (key : String) : List String :=
  (r.array key).filterMap Json.str?

/-- The records in an array field. -/
def records (r : Record) (key : String) : List Record :=
  (r.array key).filterMap Json.record?

/-- A nested record. -/
def object? (r : Record) (key : String) : Option Record :=
  (r.get? key).bind Json.record?

/-- The display name. -/
def name? (r : Record) : Option String :=
  r.str? "name"

/-- The code of the source book. -/
def source? (r : Record) : Option String :=
  r.str? "source"

/-- The page in the source book: positive, and within 32 bits. -/
def page? (r : Record) : Option Nat :=
  (r.int? "page").bind fun p => if 0 < p && p < 0x100000000 then some p.toNat else none

/-- The name of the kind of block. -/
def type? (r : Record) : Option String :=
  r.str? "type"

/-- What stands inside a block, under the first of its three names. -/
def children? (r : Record) : Option Json :=
  r.get? "entries" <|> r.get? "items" <|> r.get? "entry"

/-! ### Parts are smaller -/

theorem sizeOf_lt_of_lookup {key : String} {v : Json} :
    ∀ {fields : List (String × Json)}, fields.lookup key = some v → sizeOf v < sizeOf fields
  | [], h => by cases h
  | (k, w) :: rest, h => by
    rw [List.lookup_cons] at h
    split at h
    · cases h; simp; omega
    · have := sizeOf_lt_of_lookup h
      simp; omega

theorem lookup_of_get? {r : Record} {key : String} {v : Json} (h : r.get? key = some v) :
    r.fields.lookup key = some v := by
  unfold get? at h
  split at h
  · cases h
  · exact h

theorem sizeOf_get? {r : Record} {key : String} {v : Json} (h : r.get? key = some v) :
    sizeOf v < sizeOf r := by
  have := sizeOf_lt_of_lookup (lookup_of_get? h)
  cases r; simp at *; omega

theorem sizeOf_children? {r : Record} {v : Json} (h : r.children? = some v) :
    sizeOf v < sizeOf r := by
  unfold children? at h
  simp only [Option.orElse_eq_orElse, Option.orElse_eq_or, Option.or_eq_some_iff] at h
  rcases h with h | ⟨_, h | ⟨_, h⟩⟩ <;> exact sizeOf_get? h

theorem sizeOf_array {r : Record} {key : String} {v : Json} (h : v ∈ r.array key) :
    sizeOf v < sizeOf r := by
  unfold array at h
  cases hg : r.get? key with
  | none => simp [hg] at h
  | some w =>
    have hw := sizeOf_get? hg
    cases w <;> simp [hg, Json.elements] at h
    rename_i items
    have := List.sizeOf_lt_of_mem h
    simp at hw; omega

theorem sizeOf_array_lt (r : Record) (key : String) : sizeOf (r.array key) < sizeOf r := by
  unfold array
  cases hg : r.get? key with
  | none =>
    obtain ⟨fields⟩ := r
    have : 0 < sizeOf fields := by
      cases fields <;> simp only [List.nil.sizeOf_spec, List.cons.sizeOf_spec] <;> omega
    simp; omega
  | some w =>
    have hw := sizeOf_get? hg
    cases w <;> simp [Json.elements] at hw ⊢ <;> omega

theorem sizeOf_record? {v : Json} {r : Record} (h : v.record? = some r) :
    sizeOf r = sizeOf v := by
  cases v <;> simp [Json.record?] at h
  subst h; simp

theorem sizeOf_records {r t : Record} {key : String} (h : t ∈ r.records key) :
    sizeOf t < sizeOf r := by
  obtain ⟨v, hv, ht⟩ := List.mem_filterMap.1 h
  rw [sizeOf_record? ht]
  exact sizeOf_array hv

end Record

end Compendium
