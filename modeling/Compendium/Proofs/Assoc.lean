import Mathlib.Data.List.Induction
import Compendium.Assoc

/-!
# Keys of maps

A map that is filled pair by pair holds the keys of the pairs, each once
(`mem_keys_ofList`, `nodup_keys_ofList`), and under each key the value that came last
(`lookup_ofList`).  Putting in a value touches no other key (`insert_perm`).
-/

namespace Compendium.Assoc

variable {α : Type}

/-- The keys of a map. -/
def keys (map : List (String × α)) : List String :=
  map.map Prod.fst

theorem mem_keys_cons {key other : String} {value : α} {map : List (String × α)} :
    other ∈ keys ((key, value) :: map) ↔ other = key ∨ other ∈ keys map :=
  List.mem_cons

theorem mem_keys_insert {key other : String} {value : α} {map : List (String × α)} :
    other ∈ keys (insert key value map) ↔ other = key ∨ other ∈ keys map := by
  induction map with
  | nil => exact mem_keys_cons
  | cons p rest ih =>
    obtain ⟨k, v⟩ := p
    rw [insert]
    split
    · exact mem_keys_cons
    · split
      · next hk => rw [hk, mem_keys_cons, mem_keys_cons, or_self_left]
      · rw [mem_keys_cons, mem_keys_cons, ih, or_left_comm]

/-- Keys stay in ascending order. -/
theorem pairwise_keys_insert {map : List (String × α)} (h : (keys map).Pairwise (· < ·))
    (key : String) (value : α) : (keys (insert key value map)).Pairwise (· < ·) := by
  induction map with
  | nil => exact List.pairwise_singleton _ _
  | cons p rest ih =>
    obtain ⟨k, v⟩ := p
    obtain ⟨hk, hrest⟩ := List.pairwise_cons.1 h
    rw [insert]
    split
    · next hlt =>
      refine List.pairwise_cons.2 ⟨fun other ho => ?_, h⟩
      rcases List.mem_cons.1 ho with rfl | ho
      · exact hlt
      · exact String.lt_trans hlt (hk other ho)
    · next hnlt =>
      split
      · next he =>
        rw [he]
        exact h
      · next hne =>
        refine List.pairwise_cons.2 ⟨fun other ho => ?_, ih hrest⟩
        rcases mem_keys_insert.1 ho with rfl | ho
        · exact String.not_le.1 fun hle => hne (String.le_antisymm hle (String.not_lt.1 hnlt))
        · exact hk other ho

/-! ### One key and the others -/

/-- The pairs of other keys. -/
def without (key : String) (map : List (String × α)) : List (String × α) :=
  map.filter fun p => p.1 ≠ key

theorem without_cons_self (key : String) (value : α) (map : List (String × α)) :
    without key ((key, value) :: map) = without key map :=
  List.filter_cons_of_neg (by simp)

theorem without_cons_of_ne {key other : String} (h : other ≠ key) (value : α)
    (map : List (String × α)) :
    without key ((other, value) :: map) = (other, value) :: without key map :=
  List.filter_cons_of_pos (decide_eq_true h)

theorem without_of_notMem {key : String} {map : List (String × α)} (h : key ∉ keys map) :
    without key map = map := by
  refine List.filter_eq_self.2 fun p hp => decide_eq_true ?_
  rintro rfl
  exact h (List.mem_map_of_mem hp)

theorem notMem_keys_of_lookup {key : String} {map : List (String × α)}
    (h : map.lookup key = none) : key ∉ keys map := by
  intro hm
  obtain ⟨p, hp, rfl⟩ := List.mem_map.1 hm
  exact absurd (beq_self_eq_true p.1) (by simpa using List.lookup_eq_none_iff.1 h p hp)

theorem mem_insert {key : String} {value : α} {map : List (String × α)} {p : String × α}
    (h : p ∈ insert key value map) : p = (key, value) ∨ p ∈ map := by
  induction map with
  | nil => exact Or.inl (List.mem_singleton.1 h)
  | cons q rest ih =>
    rw [insert] at h
    split at h
    · exact List.mem_cons.1 h
    · split at h
      · exact (List.mem_cons.1 h).imp_right (List.mem_cons_of_mem q)
      · rcases List.mem_cons.1 h with rfl | h
        · exact Or.inr List.mem_cons_self
        · exact (ih h).imp_right (List.mem_cons_of_mem q)

/-- The value that is put last under a key stays. -/
theorem insert_insert (key : String) (first second : α) (map : List (String × α)) :
    insert key second (insert key first map) = insert key second map := by
  have hself : ∀ rest : List (String × α),
      insert key second ((key, first) :: rest) = (key, second) :: rest := by
    intro rest
    rw [insert, if_neg (String.lt_irrefl key), if_pos rfl]
  induction map with
  | nil => exact hself []
  | cons p rest ih =>
    obtain ⟨k, v⟩ := p
    by_cases hlt : key < k
    · rw [insert, if_pos hlt, hself, insert, if_pos hlt]
    · by_cases heq : key = k
      · rw [insert, if_neg hlt, if_pos heq, hself, insert, if_neg hlt, if_pos heq]
      · rw [insert, if_neg hlt, if_neg heq, insert, if_neg hlt, if_neg heq, ih, insert,
          if_neg hlt, if_neg heq]

theorem mem_of_lookup {map : List (String × α)} {key : String} {value : α}
    (h : map.lookup key = some value) : (key, value) ∈ map := by
  obtain ⟨front, back, rfl, -⟩ := List.lookup_eq_some_iff.1 h
  exact List.mem_append_right front List.mem_cons_self

section Sorted

variable {map : List (String × α)}

theorem notMem_keys_tail {key : String} {p : String × α} {rest : List (String × α)}
    (h : (keys (p :: rest)).Pairwise (· < ·)) (hle : key ≤ p.1) : key ∉ keys rest := by
  intro hm
  exact String.not_le.2 ((List.pairwise_cons.1 h).1 key hm) hle

/-- **A map with a value put in** holds the value and the pairs of the other keys. -/
theorem insert_perm (h : (keys map).Pairwise (· < ·)) (key : String) (value : α) :
    (insert key value map).Perm ((key, value) :: without key map) := by
  induction map with
  | nil => exact List.Perm.refl _
  | cons p rest ih =>
    obtain ⟨k, v⟩ := p
    rw [insert]
    split
    · next hlt =>
      have hne : key ≠ k := by
        rintro rfl
        exact String.lt_irrefl key hlt
      have hle : key ≤ k :=
        String.not_lt.1 fun hgt => String.lt_irrefl key (String.lt_trans hlt hgt)
      have hrest : key ∉ keys rest := notMem_keys_tail h hle
      rw [without_of_notMem fun hm => (mem_keys_cons.1 hm).elim hne hrest]
    · split
      · next heq =>
        subst heq
        rw [without_cons_self, without_of_notMem (notMem_keys_tail h (String.le_refl key))]
      · next hne =>
        rw [without_cons_of_ne (Ne.symm hne)]
        exact ((ih (List.pairwise_cons.1 h).2).cons (k, v)).trans (.swap _ _ _)

/-- A map holds the value of a key and the pairs of the other keys. -/
theorem perm_of_lookup (h : (keys map).Pairwise (· < ·)) {key : String} {value : α}
    (hv : map.lookup key = some value) : map.Perm ((key, value) :: without key map) := by
  induction map with
  | nil => cases hv
  | cons p rest ih =>
    obtain ⟨k, v⟩ := p
    by_cases heq : key = k
    · subst heq
      rw [List.lookup_cons_self, Option.some.injEq] at hv
      rw [without_cons_self, without_of_notMem (notMem_keys_tail h (String.le_refl key)), hv]
    · rw [List.lookup_cons, beq_false_of_ne heq] at hv
      rw [without_cons_of_ne (Ne.symm heq)]
      exact ((ih (List.pairwise_cons.1 h).2 hv).cons (k, v)).trans (.swap _ _ _)

theorem lookup_eq_some_iff (h : (keys map).Pairwise (· < ·)) {key : String} {value : α} :
    map.lookup key = some value ↔ (key, value) ∈ map := by
  refine ⟨mem_of_lookup, fun hm => ?_⟩
  obtain ⟨front, back, rfl⟩ := List.append_of_mem hm
  refine List.lookup_eq_some_iff.2 ⟨front, back, rfl, fun p hp => ?_⟩
  rw [keys, List.map_append] at h
  have hlt : p.1 < key :=
    (List.pairwise_append.1 h).2.2 p.1 (List.mem_map_of_mem hp) key List.mem_cons_self
  exact bne_iff_ne.2 fun heq => String.lt_irrefl key (heq ▸ hlt)

end Sorted

/-! ### Maps of pairs -/

theorem ofList_concat (pairs : List (String × α)) (p : String × α) :
    ofList (pairs ++ [p]) = insert p.1 p.2 (ofList pairs) := by
  rw [ofList, List.foldl_append]
  rfl

theorem mem_keys_ofList {pairs : List (String × α)} {key : String} :
    key ∈ keys (ofList pairs) ↔ key ∈ keys pairs := by
  induction pairs using List.reverseRecOn with
  | nil => exact Iff.rfl
  | append_singleton pairs p ih =>
    rw [ofList_concat, mem_keys_insert, ih, or_comm, keys, keys, List.map_append, List.mem_append,
      List.map_singleton, List.mem_singleton]

theorem nodup_keys_ofList (pairs : List (String × α)) : (keys (ofList pairs)).Nodup := by
  have hsorted : (keys (ofList pairs)).Pairwise (· < ·) := by
    induction pairs using List.reverseRecOn with
    | nil => exact List.Pairwise.nil
    | append_singleton pairs p ih =>
      rw [ofList_concat]
      exact pairwise_keys_insert ih _ _
  refine hsorted.imp ?_
  rintro key _ hlt rfl
  exact String.lt_irrefl key hlt

/-- **The value that came last stays.** -/
theorem lookup_ofList {earlier later : List (String × α)} {key : String} (value : α)
    (h : key ∉ keys later) :
    (ofList (earlier ++ (key, value) :: later)).lookup key = some value := by
  induction later using List.reverseRecOn with
  | nil =>
    rw [ofList_concat]
    exact lookup_insert_self key value _
  | append_singleton later p ih =>
    rw [keys, List.map_append, List.mem_append, List.map_singleton, List.mem_singleton,
      not_or] at h
    rw [← List.cons_append, ← List.append_assoc, ofList_concat, lookup_insert_of_ne h.2]
    exact ih h.1

end Compendium.Assoc
