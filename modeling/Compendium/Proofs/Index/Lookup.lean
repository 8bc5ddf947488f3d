import Compendium.Index.Global
import Compendium.Proofs.Case
import Compendium.Proofs.Index.Views

/-!
# Looking names up

The global index notes for each lookup key the places at which it stands among the rows.  The
places are noted in ascending order (`GlobalIndex.placesAt_placesOf`), so a look-up that follows
them reads the rows of the key as a scan of the list would (`GlobalIndex.lookupAll_eq`).

A key has nothing in it that making a key of it would change: its characters are in lower case,
they are letters, numbers and spaces, and its words are joined by single spaces (`Slug.key_key`).
So an entry is found by the key of its name as well as by its name.

* `lookup_scans_rows`: what a look-up finds, and that every entry is found.
-/

namespace Compendium

/-! ### Keys -/

namespace Slug

open Compendium.Text (isAlphanumeric isSpace lowerChar IsLower)

/-- A character of a key: a space, or a letter or number in lower case. -/
theorem of_mem_keyChars {name : List Char} {c : Char} (h : c ∈ keyChars name) :
    IsLower c ∧ (isAlphanumeric c || isSpace c) = true := by
  rcases Chars.mem_intercalate h with h | ⟨word, hword, hc⟩
  · rw [List.mem_singleton] at h
    rw [h]
    decide +kernel
  · obtain ⟨hlower, hkept⟩ := List.mem_filter.1 ((Chars.of_mem_words hword).2 c hc).1
    obtain ⟨d, -, hd⟩ := List.mem_flatMap.1 hlower
    exact ⟨(Text.mem_lowerChar hd).1, hkept⟩

theorem keyChars_keyChars (name : List Char) : keyChars (keyChars name) = keyChars name := by
  have hlower : (keyChars name).flatMap lowerChar = keyChars name :=
    Text.flatMap_lowerChar fun _ hc => (of_mem_keyChars hc).1
  have hkept : (keyChars name).filter (fun c => isAlphanumeric c || isSpace c) = keyChars name :=
    List.filter_eq_self.2 fun _ hc => (of_mem_keyChars hc).2
  rw [keyChars, hlower, hkept]
  refine congrArg ([' '].intercalate ·) (Chars.words_intercalate fun word hword => ?_)
  exact (Chars.of_mem_words hword).imp_right fun hchars c hc => (hchars c hc).2

/-- **A key is its own key.** -/
theorem key_key (name : String) : key (key name) = key name := by
  rw [key, key, String.toList_ofList, keyChars_keyChars]

end Slug

/-! ### Places -/

namespace GlobalIndex

theorem placesAt_addPlace (places : List (String × List Nat)) (key other : String) (place : Nat) :
    placesAt (addPlace places key place) other =
      placesAt places other ++ if key = other then [place] else [] := by
  by_cases h : key = other
  · subst h
    rw [placesAt, addPlace, Assoc.lookup_insert_self, if_pos rfl]
    rfl
  · rw [placesAt, addPlace, Assoc.lookup_insert_of_ne (Ne.symm h), if_neg h, List.append_nil]
    rfl

/-- Noting rows puts the places of a key behind those it had. -/
theorem placesAt_foldl (key : String) (rows : List (Row × Nat))
    (places : List (String × List Nat)) :
    placesAt (rows.foldl (fun places p => addPlace places (Slug.key p.1.name) p.2) places) key =
      placesAt places key ++ (rows.filter fun p => Slug.key p.1.name = key).map Prod.snd := by
  induction rows generalizing places with
  | nil => exact (List.append_nil _).symm
  | cons p rest ih =>
    rw [List.foldl_cons, ih, placesAt_addPlace, List.append_assoc, List.filter_cons]
    by_cases h : Slug.key p.1.name = key
    · rw [if_pos h, if_pos (decide_eq_true h)]
      rfl
    · rw [if_neg h, if_neg (by simpa using h)]
      rfl

/-- **The places of a key are those of the rows that have it**, in ascending order. -/
theorem placesAt_placesOf (rows : List Row) (key : String) :
    placesAt (placesOf rows) key =
      (rows.zipIdx.filter fun p => Slug.key p.1.name = key).map Prod.snd :=
  placesAt_foldl key rows.zipIdx []

/-- What is read at the places of some rows are these rows. -/
theorem filterMap_getElem? (rows : List Row) (p : Row → Bool) :
    ((rows.zipIdx.filter fun q => p q.1).map Prod.snd).filterMap (fun place => rows[place]?) =
      rows.filter p := by
  have hplace : ∀ q ∈ rows.zipIdx.filter fun q => p q.1, rows[q.2]? = some q.1 := fun q hq =>
    List.mem_zipIdx_iff_getElem?.1 (List.mem_filter.1 hq).1
  calc ((rows.zipIdx.filter fun q => p q.1).map Prod.snd).filterMap (fun place => rows[place]?)
      = (rows.zipIdx.filter fun q => p q.1).filterMap fun q => some q.1 := by
        rw [List.filterMap_map]
        exact List.filterMap_congr hplace
    _ = (rows.zipIdx.filter fun q => p q.1).map Prod.fst := by rw [List.filterMap_eq_map']
    _ = (rows.zipIdx.map Prod.fst).filter p := List.filter_map.symm
    _ = rows.filter p := by rw [List.zipIdx_map_fst]

/-- **A look-up reads what a scan of the rows reads.** -/
theorem lookupAll_eq (g : GlobalIndex) (name : String) :
    g.lookupAll name = g.rows.filter fun row => Slug.key row.name = Slug.key name := by
  rw [lookupAll, g.places_eq, placesAt_placesOf]
  exact filterMap_getElem? g.rows fun row => Slug.key row.name = Slug.key name

/-! ### What is found -/

/-- Whether a row answers a look-up: its name has the key that is asked for, and it is of the
category if one is given. -/
def Row.Answers (row : Row) (name : String) (category? : Option Category) : Prop :=
  Slug.key row.name = Slug.key name ∧ ∀ c ∈ category?, row.category = c

instance (row : Row) (name : String) (category? : Option Category) :
    Decidable (row.Answers name category?) :=
  inferInstanceAs (Decidable (_ ∧ ∀ c ∈ category?, row.category = c))

theorem lookup?_eq (g : GlobalIndex) (name : String) (category? : Option Category) :
    g.lookup? name category? = g.rows.find? fun row => row.Answers name category? := by
  rw [lookup?, lookupAll_eq, List.find?_filter]
  refine congrArg (g.rows.find? ·) (funext fun row => decide_eq_decide.2 ?_)
  rw [decide_eq_true_eq, Option.all_eq_true]
  simp only [decide_eq_true_eq, Row.Answers, Option.mem_def]

end GlobalIndex

open GlobalIndex in
/-- **A look-up scans the rows.**  All rows that it finds for a name are those whose names have the
key of this name, in the order of the list; the row that it finds, in a category if one is given, is
the first of the list that answers; and it finds nothing if no row does.  A name is looked up as its
key is, and so every entry is found under its name and under the key of its name. -/
theorem lookup_scans_rows (entries : List Entry) :
    let index := GlobalIndex.ofEntries entries
    (∀ name, index.lookupAll name =
      index.rows.filter fun row => Slug.key row.name = Slug.key name) ∧
    (∀ name category? row, index.lookup? name category? = some row ↔
      ∃ before after, index.rows = before ++ row :: after ∧ row.Answers name category? ∧
        ∀ earlier ∈ before, ¬ earlier.Answers name category?) ∧
    (∀ name category?, index.lookup? name category? = none ↔
      ∀ row ∈ index.rows, ¬ row.Answers name category?) ∧
    (∀ name, Slug.key (Slug.key name) = Slug.key name) ∧
    ∀ e ∈ entries, Row.ofEntry e ∈ index.lookupAll e.name ∧
      Row.ofEntry e ∈ index.lookupAll (Slug.key e.name) := by
  intro index
  refine ⟨index.lookupAll_eq, fun name category? row => ?_, fun name category? => ?_, Slug.key_key,
    fun e he => ?_⟩
  · rw [lookup?_eq, List.find?_eq_some_iff_append]
    simp only [decide_eq_true_eq, Bool.not_eq_true', decide_eq_false_iff_not]
    constructor
    · rintro ⟨hrow, before, after, hrows, hbefore⟩
      exact ⟨before, after, hrows, hrow, hbefore⟩
    · rintro ⟨before, after, hrows, hrow, hbefore⟩
      exact ⟨hrow, before, after, hrows, hbefore⟩
  · rw [lookup?_eq, List.find?_eq_none]
    simp only [decide_eq_true_eq]
  · have hrow : Row.ofEntry e ∈ index.rows :=
      List.mem_map.2 ⟨e, (Entry.sort_perm entries).mem_iff.2 he, rfl⟩
    rw [lookupAll_eq, lookupAll_eq, Slug.key_key, and_self]
    exact List.mem_filter.2 ⟨hrow, decide_eq_true rfl⟩

/-- Two shields whose names share a key, and an item whose name is blank to keys. -/
theorem lookup_scans_rows_shields :
    let entry (name : String) (category : Category) : Entry :=
      ⟨name, category, some "PHB", category.dir, .empty⟩
    let spell := entry "Shield" .spell
    let armor := entry "SHIELD!" .equipment
    let marks := entry "?!" .item
    let index := GlobalIndex.ofEntries [marks, spell, armor]
    index.lookup? "  shield" none = some (GlobalIndex.Row.ofEntry spell) ∧
      index.lookup? "  shield" (some .equipment) = some (GlobalIndex.Row.ofEntry armor) ∧
      index.lookup? "  shield" (some .creature) = none ∧
      GlobalIndex.Row.ofEntry marks ∈ index.lookupAll (Slug.key "?!") := by
  intro entry spell armor marks index
  obtain ⟨-, hfirst, hnone, -, hfound⟩ := lookup_scans_rows [marks, spell, armor]
  have hsort : Entry.sort [marks, spell, armor] = [marks, spell, armor] :=
    List.mergeSort_of_pairwise (by decide +kernel)
  have hrows : index.rows = [marks, spell, armor].map GlobalIndex.Row.ofEntry := by
    rw [GlobalIndex.rows_ofEntries, hsort]
  refine ⟨(hfirst _ _ _).2 ?_, (hfirst _ _ _).2 ?_, (hnone _ _).2 ?_,
    (hfound marks List.mem_cons_self).2⟩
  · exact ⟨[.ofEntry marks], [.ofEntry armor], hrows, by decide +kernel, by decide +kernel⟩
  · exact ⟨[.ofEntry marks, .ofEntry spell], [], hrows, by decide +kernel, by decide +kernel⟩
  · change ∀ row ∈ index.rows, ¬ row.Answers _ _
    rw [hrows]
    decide +kernel

end Compendium
