import Mathlib.Logic.Relation
import Compendium.Proofs.Conversion.Run

/-!
# What a run depends on

A record that is skipped is only counted (`Agree`).  So what a run brings, its documents,
entries, paths and the counts of what was built, is what the records bring of which
documents are built, one after another (`product_run`): it depends on nothing else.

Calls that reach the same of these records can be turned into each other step by step, by
cutting arrays and corpora, and by putting in or leaving out what comes to nothing
(`recut_iff`): every list of calls can be cut into single records, of which those that are
skipped can be left out.

* `run_depends_on_accepted`: both facts, and that calls which fail do not even count.
-/

namespace Compendium.Converter

/-! ### Records of which documents are built -/

/-- Whether a document is built of a record. -/
def accepts (settings : Settings) (pair : Category × Json) : Bool :=
  match Document.build settings.style settings.sourceFilter pair.1 pair.2 with
  | .built _ _ => true
  | .filtered _ _ => false
  | .unnamed => false

theorem built_of_accepts {settings : Settings} {pair : Category × Json}
    (h : accepts settings pair = true) : ∃ document entry,
      Document.build settings.style settings.sourceFilter pair.1 pair.2 =
        .built document entry := by
  unfold accepts at h
  split at h
  · exact ⟨_, _, ‹_›⟩
  · cases h
  · cases h

theorem skipped_of_accepts {settings : Settings} {pair : Category × Json}
    (h : accepts settings pair = false) :
    (∃ name source?, Document.build settings.style settings.sourceFilter pair.1 pair.2 =
        .filtered name source?) ∨
      Document.build settings.style settings.sourceFilter pair.1 pair.2 = .unnamed := by
  unfold accepts at h
  split at h
  · cases h
  · exact Or.inl ⟨_, _, ‹_›⟩
  · exact Or.inr ‹_›

/-- The records of calls of which documents are built, in order. -/
def accepted (settings : Settings) (calls : List Call) : List (Category × Json) :=
  (calls.flatMap Call.reached).filter (accepts settings)

theorem accepted_append (settings : Settings) (calls calls' : List Call) :
    accepted settings (calls ++ calls') = accepted settings calls ++ accepted settings calls' := by
  rw [accepted, List.flatMap_append, List.filter_append]
  rfl

/-! ### What a run brings -/

/-- What a run brings: everything but the counts of records that were skipped. -/
structure Product where
  documents : List Document
  entries : List Entry
  claimed : List String
  built : Nat
  collisions : Nat

/-- What there is of a run behind these documents. -/
def product (result : List Document × Converter) : Product :=
  ⟨result.1, result.2.catalog.entries, result.2.paths.claimed, result.2.stats.built,
    result.2.stats.collisions⟩

/-- Two runs with these settings that differ at most in how many records they have
skipped. -/
structure Agree (settings : Settings) (c c' : Converter) : Prop where
  left : c.settings = settings
  right : c'.settings = settings
  paths : c.paths = c'.paths
  entries : c.catalog.entries = c'.catalog.entries
  built : c.stats.built = c'.stats.built
  collisions : c.stats.collisions = c'.stats.collisions

variable {settings : Settings} {c c' : Converter}

theorem Agree.accept (h : Agree settings c c') (document : Document) (entry : Entry) :
    (c.accept document entry).1 = (c'.accept document entry).1 ∧
      Agree settings (c.accept document entry).2 (c'.accept document entry).2 := by
  have hpath : (c.accept document entry).1.path = (c'.accept document entry).1.path := by
    rw [accept_path, accept_path, h.paths, h.left, h.right]
  refine ⟨?_, h.left, h.right, ?_, ?_, ?_, ?_⟩
  · rw [accept_document c, accept_document c', hpath]
  · rw [accept_paths, accept_paths, h.paths, hpath]
  · rw [accept_entries, accept_entries, h.entries, hpath]
  · rw [accept_stats, accept_stats, h.built]
  · rw [accept_stats, accept_stats, h.collisions, h.paths]

/-- A record that is accepted does the same to both runs. -/
theorem Agree.convertRecord (h : Agree settings c c') {pair : Category × Json}
    (ha : accepts settings pair = true) :
    (c.convertRecord pair.1 pair.2).1 = (c'.convertRecord pair.1 pair.2).1 ∧
      Agree settings (c.convertRecord pair.1 pair.2).2 (c'.convertRecord pair.1 pair.2).2 := by
  obtain ⟨document, entry, hb⟩ := built_of_accepts ha
  obtain ⟨hdocument, hend⟩ := h.accept document entry
  unfold Converter.convertRecord
  rw [h.left, h.right, hb]
  exact ⟨congrArg some hdocument, hend⟩

/-- A record that is skipped makes nothing, and only counts. -/
theorem Agree.skip (h : Agree settings c c') {pair : Category × Json}
    (hs : accepts settings pair = false) :
    (c.convertRecord pair.1 pair.2).1 = none ∧
      Agree settings (c.convertRecord pair.1 pair.2).2 c' := by
  unfold Converter.convertRecord
  rw [h.left]
  rcases skipped_of_accepts hs with ⟨_, _, hb⟩ | hb
  · rw [hb]
    exact ⟨rfl, rfl, h.right, h.paths, h.entries, h.built, h.collisions⟩
  · rw [hb]
    exact ⟨rfl, rfl, h.right, h.paths, h.entries, h.built, h.collisions⟩

/-- **Records that are skipped can be left out.** -/
theorem Agree.convertAll (pairs : List (Category × Json)) (h : Agree settings c c') :
    (c.convertAll pairs).1 = (c'.convertAll (pairs.filter (accepts settings))).1 ∧
      Agree settings (c.convertAll pairs).2
        (c'.convertAll (pairs.filter (accepts settings))).2 := by
  induction pairs generalizing c c' with
  | nil => exact ⟨rfl, h⟩
  | cons pair rest ih =>
    cases ha : accepts settings pair with
    | true =>
      obtain ⟨hfirst, hnext⟩ := h.convertRecord ha
      obtain ⟨hrest, hend⟩ := ih hnext
      rw [List.filter_cons_of_pos ha, convertAll_cons, convertAll_cons]
      exact ⟨congrArg₂ (fun first rest => first.toList ++ rest) hfirst hrest, hend⟩
    | false =>
      obtain ⟨hfirst, hnext⟩ := h.skip ha
      obtain ⟨hrest, hend⟩ := ih hnext
      rw [List.filter_cons_of_neg (ne_true_of_eq_false ha), convertAll_cons, hfirst]
      exact ⟨hrest, hend⟩

/-- **A run brings what the records bring of which documents are built.** -/
theorem product_run (settings : Settings) (calls : List Call) :
    product ((new settings).run calls) =
      product ((new settings).convertAll (accepted settings calls)) := by
  have hnew : Agree settings (new settings) (new settings) := ⟨rfl, rfl, rfl, rfl, rfl, rfl⟩
  obtain ⟨hdocuments, hend⟩ := hnew.convertAll (calls.flatMap Call.reached)
  rw [run_eq_convertAll, product, hdocuments, hend.entries, hend.paths, hend.built, hend.collisions]
  rfl

/-! ### Calls that come to the same -/

/-- A change of the calls of a run: an array or a corpus is cut in two, what stands under
a key becomes records of its category, a file becomes its corpus, or something goes that
comes to nothing: an empty array or corpus, a record that is skipped, a key that names no
category or under which there is no array, a call that fails. -/
inductive Edit (settings : Settings) : List Call → List Call → Prop
  | cutArray (category : Category) (front back : List Json) :
    Edit settings [.records category (front ++ back)]
      [.records category front, .records category back]
  | cutCorpus (front back : List (String × Json)) :
    Edit settings [.corpus (.obj (front ++ back))] [.corpus (.obj front), .corpus (.obj back)]
  | ofKey {key : String} {category : Category} (h : Category.ofCorpusKey? key = some category)
    (records : List Json) :
    Edit settings [.corpus (.obj [(key, .arr records)])] [.records category records]
  | ofFile {bytes? : Option (List UInt8)} {corpus : Json} (h : readCorpus bytes? = .ok corpus) :
    Edit settings [.file bytes?] [.corpus corpus]
  | emptyArray (category : Category) : Edit settings [.records category []] []
  | emptyCorpus : Edit settings [.corpus (.obj [])] []
  | filtered {category : Category} {v : Json} {name : String} {source? : Option String}
    (h : Document.build settings.style settings.sourceFilter category v = .filtered name source?) :
    Edit settings [.records category [v]] []
  | unnamed {category : Category} {v : Json}
    (h : Document.build settings.style settings.sourceFilter category v = .unnamed) :
    Edit settings [.records category [v]] []
  | noCategory {key : String} (h : Category.ofCorpusKey? key = none) (v : Json) :
    Edit settings [.corpus (.obj [(key, v)])] []
  | noArray {v : Json} (h : v.arr? = none) (key : String) :
    Edit settings [.corpus (.obj [(key, v)])] []
  | failing {call : Call} {e : Error} (h : call.Fails e) : Edit settings [call] []
  | within {calls calls' : List Call} (before after : List Call) (h : Edit settings calls calls') :
    Edit settings (before ++ calls ++ after) (before ++ calls' ++ after)

/-- Calls that come from each other by changes, made in either direction. -/
def Recut (settings : Settings) : List Call → List Call → Prop :=
  Relation.EqvGen (Edit settings)

/-- A change keeps the records of which documents are built. -/
theorem Edit.accepted_eq {calls calls' : List Call} (h : Edit settings calls calls') :
    accepted settings calls = accepted settings calls' := by
  induction h with
  | cutArray category front back => simp [accepted, Call.reached]
  | cutCorpus front back => simp [accepted, Call.reached]
  | ofKey h records => simp [accepted, Call.reached, keyRecords_arr h]
  | ofFile h => simp [accepted, Call.reached, h]
  | emptyArray category => rfl
  | emptyCorpus => rfl
  | filtered h => simp [accepted, Call.reached, accepts, h]
  | unnamed h => simp [accepted, Call.reached, accepts, h]
  | noCategory h v => simp [accepted, Call.reached, keyRecords_of_ofCorpusKey? h]
  | noArray h key => simp [accepted, Call.reached, keyRecords_of_arr? h]
  | failing h => simp [accepted, h.reached]
  | within before after _ ih => simp only [accepted_append, ih]

/-- Every record as a call of its own. -/
def oneByOne (pairs : List (Category × Json)) : List Call :=
  pairs.map fun pair => .records pair.1 [pair.2]

namespace Recut

variable {calls calls' : List Call}

theorem accepted_eq (h : Recut settings calls calls') :
    accepted settings calls = accepted settings calls' := by
  induction h with
  | rel _ _ h => exact h.accepted_eq
  | refl _ => rfl
  | symm _ _ _ ih => exact ih.symm
  | trans _ _ _ _ _ ihl ihr => exact ihl.trans ihr

theorem within (before after : List Call) (h : Recut settings calls calls') :
    Recut settings (before ++ calls ++ after) (before ++ calls' ++ after) := by
  induction h with
  | rel _ _ h => exact .rel _ _ (h.within before after)
  | refl _ => exact .refl _
  | symm _ _ _ ih => exact .symm _ _ ih
  | trans _ _ _ _ _ ihl ihr => exact .trans _ _ _ ihl ihr

theorem append {front front' back back' : List Call} (hf : Recut settings front front')
    (hb : Recut settings back back') : Recut settings (front ++ back) (front' ++ back') := by
  have hfront : Recut settings (front ++ back) (front' ++ back) := hf.within [] back
  have hback := hb.within front' []
  rw [List.append_nil, List.append_nil] at hback
  exact .trans _ _ _ hfront hback

/-- Changes of the first calls and of the others, one after the other. -/
theorem cons {call : Call} {front back back' : List Call} (hf : Recut settings [call] front)
    (hb : Recut settings back back') : Recut settings (call :: back) (front ++ back') :=
  hf.append hb

theorem oneByOne_records (category : Category) (records : List Json) :
    Recut settings [.records category records]
      (oneByOne (records.map fun record => (category, record))) := by
  induction records with
  | nil => exact .rel _ _ (.emptyArray category)
  | cons v rest ih =>
    exact .trans _ _ _ (.rel _ _ (.cutArray category [v] rest)) (cons (.refl _) ih)

theorem oneByOne_key (key : String) (v : Json) :
    Recut settings [.corpus (.obj [(key, v)])] (oneByOne (keyRecords key v)) := by
  cases hc : Category.ofCorpusKey? key with
  | none =>
    rw [keyRecords_of_ofCorpusKey? hc]
    exact .rel _ _ (.noCategory hc v)
  | some category =>
    cases ha : v.arr? with
    | none =>
      rw [keyRecords_of_arr? ha]
      exact .rel _ _ (.noArray ha key)
    | some records =>
      rw [Json.eq_arr_of_arr? ha, keyRecords_arr hc]
      exact .trans _ _ _ (.rel _ _ (.ofKey hc records)) (oneByOne_records category records)

theorem oneByOne_corpus (corpus : Json) :
    Recut settings [.corpus corpus] (oneByOne (corpusRecords corpus)) := by
  cases corpus with
  | obj fields =>
    induction fields with
    | nil => exact .rel _ _ .emptyCorpus
    | cons field rest ih =>
      rw [corpusRecords_obj, List.flatMap_cons, oneByOne, List.map_append]
      exact .trans _ _ _ (.rel _ _ (.cutCorpus [field] rest))
        (cons (oneByOne_key field.1 field.2) ih)
  | _ => exact .rel _ _ (.failing (.notObject rfl))

/-- A call can be cut into its records. -/
theorem oneByOne_call (call : Call) : Recut settings [call] (oneByOne call.reached) := by
  cases call with
  | records category records => exact oneByOne_records category records
  | corpus corpus => exact oneByOne_corpus corpus
  | file bytes? =>
    simp only [Call.reached]
    cases h : readCorpus bytes? with
    | error e => exact .rel _ _ (.failing (Call.fails_of_readCorpus h))
    | ok corpus => exact .trans _ _ _ (.rel _ _ (.ofFile h)) (oneByOne_corpus corpus)

theorem oneByOne_calls (calls : List Call) :
    Recut settings calls (oneByOne (calls.flatMap Call.reached)) := by
  induction calls with
  | nil => exact .refl _
  | cons call rest ih =>
    rw [List.flatMap_cons, oneByOne, List.map_append]
    exact cons (oneByOne_call call) ih

/-- Records that are skipped can be left out. -/
theorem oneByOne_filter (pairs : List (Category × Json)) :
    Recut settings (oneByOne pairs) (oneByOne (pairs.filter (accepts settings))) := by
  induction pairs with
  | nil => exact .refl _
  | cons pair rest ih =>
    cases ha : accepts settings pair with
    | true =>
      rw [List.filter_cons_of_pos ha]
      exact cons (.refl _) ih
    | false =>
      rw [List.filter_cons_of_neg (ne_true_of_eq_false ha)]
      have hskip : Recut settings [.records pair.1 [pair.2]] [] := by
        rcases skipped_of_accepts ha with ⟨_, _, hb⟩ | hb
        · exact .rel _ _ (.filtered hb)
        · exact .rel _ _ (.unnamed hb)
      exact hskip.cons ih

/-- **Calls can be cut into the records of which documents are built**, one by one. -/
theorem oneByOne_accepted (calls : List Call) :
    Recut settings calls (oneByOne (accepted settings calls)) :=
  .trans _ _ _ (oneByOne_calls calls) (oneByOne_filter _)

end Recut

/-- **Calls can be turned into each other exactly if documents are built of the same
records**, in the same order. -/
theorem recut_iff {calls calls' : List Call} :
    Recut settings calls calls' ↔ accepted settings calls = accepted settings calls' := by
  refine ⟨Recut.accepted_eq, fun h => ?_⟩
  have hback : Recut settings calls' (oneByOne (accepted settings calls)) := by
    rw [h]
    exact Recut.oneByOne_accepted calls'
  exact .trans _ _ _ (Recut.oneByOne_accepted calls) (.symm _ _ hback)

/-- A call that fails can be left out, and nothing tells. -/
theorem run_without_failing {call : Call} {e : Error} (h : call.Fails e) (c : Converter)
    (before after : List Call) : c.run (before ++ call :: after) = c.run (before ++ after) := by
  rw [run_eq_convertAll, run_eq_convertAll, List.flatMap_append, List.flatMap_cons, h.reached,
    List.nil_append, ← List.flatMap_append]

/-! ### What runs depend on -/

/-- **A run depends on the records of which documents are built, and on nothing else.**
Runs bring the same if documents are built of the same records, in the same order.  This is
so exactly for calls that can be turned into each other: arrays and corpora may be cut
differently, and what is skipped, ignored or fails may be put in or left out.  A call ends
with an error exactly if it fails, and then the run is as it was: with all its counts, it is
the run without that call. -/
theorem run_depends_on_accepted (settings : Settings) :
    (∀ calls calls' : List Call, accepted settings calls = accepted settings calls' →
      product ((new settings).run calls) = product ((new settings).run calls')) ∧
    (∀ calls calls' : List Call,
      Recut settings calls calls' ↔ accepted settings calls = accepted settings calls') ∧
    (∀ (c c' : Converter) (call : Call) (e : Error),
      c.answer call = (.error e, c') ↔ call.Fails e ∧ c' = c) ∧
    ∀ (before after : List Call) (call : Call) (e : Error), call.Fails e →
      (new settings).run (before ++ call :: after) = (new settings).run (before ++ after) := by
  refine ⟨fun calls calls' h => ?_, fun _ _ => recut_iff, fun _ _ _ _ => answer_eq_error_iff,
    fun before after call e h => run_without_failing h _ before after⟩
  rw [product_run, product_run, h]

/-- An orb, a value without a name, and a second orb of another source, in one array behind
a file that is missing; and the same orbs in a corpus of two items, with a key that names
no category and one without an array. -/
theorem run_depends_on_accepted_orbs :
    let orb : Json := .obj [("name", .str "Orb"), ("source", .str "DMG")]
    let other : Json := .obj [("name", .str "Orb"), ("source", .str "XGE")]
    let calls : List Call := [.file none, .records .item [orb, .null, other]]
    let calls' : List Call := [.corpus (.obj [("_meta", .arr [orb]), ("baseitem", .null),
      ("item", .arr [orb]), ("magicvariant", .arr [other])])]
    accepted .default calls = accepted .default calls' ∧
      product ((new .default).run calls) = product ((new .default).run calls') ∧
      Call.Fails (.file none) .io ∧
      (new .default).run calls = (new .default).run [.records .item [orb, .null, other]] := by
  intro orb other calls calls'
  have hsame : accepted .default calls = accepted .default calls' := by
    rfl
  exact ⟨hsame, (run_depends_on_accepted .default).1 _ _ hsame, .missing,
    (run_depends_on_accepted .default).2.2.2 [] _ _ _ .missing⟩

end Compendium.Converter
