/-!
# Sorted association lists

Maps from texts to values, as lists in ascending order of their keys.
-/

namespace Compendium.Assoc

variable {α : Type}

/-- Puts a value where the order of keys has its place; a value of the same key
is replaced. -/
def insert (key : String) (value : α) : List (String × α) → List (String × α)
  | [] => [(key, value)]
  | (k, v) :: rest =>
    if key < k then (key, value) :: (k, v) :: rest
    else if key = k then (key, value) :: rest
    else (k, v) :: insert key value rest

/-- The map of a list of pairs; of several pairs with one key the last stays. -/
def ofList (pairs : List (String × α)) : List (String × α) :=
  pairs.foldl (fun map p => insert p.1 p.2 map) []

theorem lookup_insert_self (key : String) (value : α) (map : List (String × α)) :
    (insert key value map).lookup key = some value := by
  induction map with
  | nil => simp [insert]
  | cons p rest ih =>
    obtain ⟨k, v⟩ := p
    rw [insert]
    split
    · simp
    · split
      · simp
      · next h => rw [List.lookup_cons, beq_false_of_ne h]; exact ih

theorem lookup_insert_of_ne {key other : String} (h : other ≠ key) (value : α)
    (map : List (String × α)) : (insert key value map).lookup other = map.lookup other := by
  induction map with
  | nil => simp [insert, List.lookup_cons, beq_false_of_ne h]
  | cons p rest ih =>
    obtain ⟨k, v⟩ := p
    rw [insert]
    split
    · rw [List.lookup_cons, beq_false_of_ne h]
    · split
      · next hk => subst hk; simp [List.lookup_cons, beq_false_of_ne h]
      · rw [List.lookup_cons, List.lookup_cons, ih]

end Compendium.Assoc
