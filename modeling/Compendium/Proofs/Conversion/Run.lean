import Mathlib.Data.List.Forall2
import Compendium.Proofs.Conversion.Records

/-!
# Runs

A run is a list of calls: records of a category, corpora and files, in any order.
Calls differ only in how they name records, so a run is the conversion of the
records that its calls reach, one after another (`run_eq_convertAll`).  What holds
of a run is then shown by what one record does: `convertAll_induction` is that
induction, and `run_induction` is its form for what counters do not enter.  What relates
two runs of the same calls is shown in the same way (`run_pair_induction`, `run_related`).
-/

namespace Compendium

/-- Lists that are related element by element have one image under functions that do not
tell related elements apart. -/
theorem map_eq_of_forall₂ {α β γ : Type} {R : α → β → Prop} {f : α → γ} {g : β → γ} {xs : List α}
    {ys : List β} (h : List.Forall₂ R xs ys) (hfg : ∀ x y, R x y → f x = g y) :
    xs.map f = ys.map g := by
  rw [← List.forall₂_eq_eq_eq, List.forall₂_map_left_iff, List.forall₂_map_right_iff]
  exact h.imp hfg

namespace Converter

/-! ### Calls -/

/-- A call of a run. -/
inductive Call where
  /-- Records of a category. -/
  | records (category : Category) (records : List Json)
  /-- A corpus. -/
  | corpus (corpus : Json)
  /-- A file, given its bytes if it can be read. -/
  | file (bytes? : Option (List UInt8))

/-- What a call comes to, its documents or an error, and the run behind it. -/
def answer (c : Converter) : Call → Except Error (List Document) × Converter
  | .records category records =>
    let (documents, c) := c.convertRecords category records
    (.ok documents, c)
  | .corpus corpus => c.convertCorpus corpus
  | .file bytes? => c.convertFile bytes?

/-- One call of a run.  A call that fails makes no documents. -/
def step (c : Converter) (call : Call) : List Document × Converter :=
  match c.answer call with
  | (.ok documents, c) => (documents, c)
  | (.error _, c) => ([], c)

/-- Calls, one after another: all their documents in order, and the run behind them. -/
def run (c : Converter) : List Call → List Document × Converter
  | [] => ([], c)
  | call :: rest =>
    let (first, c) := c.step call
    let (documents, c) := c.run rest
    (first ++ documents, c)

/-! ### The records of a run -/

/-- The records that a call reaches. -/
def Call.reached : Call → List (Category × Json)
  | .records category values => values.map fun record => (category, record)
  | .corpus v => corpusRecords v
  | .file bytes? =>
    match readCorpus bytes? with
    | .ok v => corpusRecords v
    | .error _ => []

/-- The calls that fail: a file that is missing or is not JSON, and a corpus, from a file
or not, that is no object. -/
inductive Call.Fails : Call → Error → Prop
  | missing : Fails (.file none) .io
  | notJson {bytes : List UInt8} (h : Json.parse? (Encoding.decodeText bytes none) = none) :
    Fails (.file (some bytes)) .json
  | notObject {v : Json} (h : v.record? = none) : Fails (.corpus v) .corpusNotObject
  | notObjectIn {bytes? : Option (List UInt8)} {v : Json} (hv : readCorpus bytes? = .ok v)
    (h : v.record? = none) : Fails (.file bytes?) .corpusNotObject

theorem Call.fails_of_readCorpus {bytes? : Option (List UInt8)} {e : Error}
    (h : readCorpus bytes? = .error e) : (Call.file bytes?).Fails e := by
  unfold readCorpus at h
  split at h
  · cases h
    exact .missing
  · split at h
    · cases h
      exact .notJson ‹_›
    · cases h

theorem Call.Fails.reached {call : Call} {e : Error} (h : call.Fails e) : call.reached = [] := by
  cases h with
  | missing => rfl
  | notJson h => simp only [Call.reached, readCorpus, h]
  | notObject h => simp only [Call.reached, corpusRecords, h]
  | notObjectIn hv h => simp only [Call.reached, hv, corpusRecords, h]

theorem Call.Fails.answer {call : Call} {e : Error} (h : call.Fails e) (c : Converter) :
    c.answer call = (.error e, c) := by
  cases h with
  | missing => rfl
  | notJson h => simp only [Converter.answer, convertFile, readCorpus, h]
  | notObject h => simp only [Converter.answer, convertCorpus, h]
  | notObjectIn hv h => simp only [Converter.answer, convertFile, hv, convertCorpus, h]

/-- What a corpus comes to, if it is an object. -/
theorem convertCorpus_eq (c : Converter) (corpus : Json) :
    corpus.record? = none ∨ c.convertCorpus corpus =
      (.ok (c.convertAll (corpusRecords corpus)).1, (c.convertAll (corpusRecords corpus)).2) := by
  unfold convertCorpus corpusRecords
  cases corpus.record? with
  | none => exact Or.inl rfl
  | some r =>
    refine Or.inr ?_
    simp only [convertFields_eq_convertAll]

/-- **A call converts the records it reaches**, unless it fails. -/
theorem answer_eq (c : Converter) (call : Call) :
    (∃ e, call.Fails e) ∨
      c.answer call = (.ok (c.convertAll call.reached).1, (c.convertAll call.reached).2) := by
  cases call with
  | records category values =>
    refine Or.inr ?_
    simp only [answer, Call.reached, convertRecords_eq_convertAll]
  | corpus corpus => exact (c.convertCorpus_eq corpus).imp_left fun h => ⟨_, .notObject h⟩
  | file bytes? =>
    simp only [answer, convertFile, Call.reached]
    cases hv : readCorpus bytes? with
    | error e => exact Or.inl ⟨e, Call.fails_of_readCorpus hv⟩
    | ok v => exact (c.convertCorpus_eq v).imp_left fun h => ⟨_, .notObjectIn hv h⟩

/-- A call ends with an error exactly if it fails, and then the run is as it was. -/
theorem answer_eq_error_iff {c c' : Converter} {call : Call} {e : Error} :
    c.answer call = (.error e, c') ↔ call.Fails e ∧ c' = c := by
  constructor
  · intro h
    rcases c.answer_eq call with ⟨e', hf⟩ | he
    · rw [hf.answer, Prod.mk.injEq, Except.error.injEq] at h
      obtain ⟨rfl, rfl⟩ := h
      exact ⟨hf, rfl⟩
    · rw [he] at h
      cases h
  · rintro ⟨hf, rfl⟩
    exact hf.answer c'

theorem step_eq_convertAll (c : Converter) (call : Call) :
    c.step call = c.convertAll call.reached := by
  unfold step
  rcases c.answer_eq call with ⟨e, hf⟩ | he
  · rw [hf.answer, hf.reached]
    rfl
  · rw [he]

/-- **A run converts the records that its calls reach**, one after another. -/
theorem run_eq_convertAll (c : Converter) (calls : List Call) :
    c.run calls = c.convertAll (calls.flatMap Call.reached) := by
  induction calls generalizing c with
  | nil => rfl
  | cons call rest ih =>
    rw [List.flatMap_cons, convertAll_append]
    simp only [run, step_eq_convertAll, ih]

/-! ### Induction over runs -/

section Induction

variable {P : List Document → Converter → Prop}

/-- **Induction over the records of a run.**  `P documents c` is about the documents
made so far and the run behind them. -/
theorem convertAll_induction
    (record : ∀ documents c category v, P documents c →
      P (documents ++ (c.convertRecord category v).1.toList) (c.convertRecord category v).2)
    (pairs : List (Category × Json)) :
    ∀ {documents : List Document} {c : Converter}, P documents c →
      P (documents ++ (c.convertAll pairs).1) (c.convertAll pairs).2 := by
  induction pairs with
  | nil =>
    intro documents c h
    rw [convertAll, List.append_nil]
    exact h
  | cons pair rest ih =>
    intro documents c h
    have hrest := ih (record documents c pair.1 pair.2 h)
    rw [List.append_assoc] at hrest
    exact hrest

/-- **Induction over a run**: what a run keeps, a record that is accepted keeps, and one
that is skipped, which is only counted. -/
theorem run_steps_induction {settings : Settings} (start : P [] (new settings))
    (accept : ∀ documents c category v document entry, c.settings = settings →
      Document.build c.settings.style c.settings.sourceFilter category v = .built document entry →
      P documents c → P (documents ++ [(c.accept document entry).1]) (c.accept document entry).2)
    (filtered : ∀ documents c, P documents c →
      P documents { c with stats := { c.stats with filtered := c.stats.filtered + 1 } })
    (unnamed : ∀ documents c, P documents c →
      P documents { c with stats := { c.stats with rejected := c.stats.rejected + 1 } })
    (calls : List Call) :
    P ((new settings).run calls).1 ((new settings).run calls).2 := by
  have hstep : ∀ documents c category v, P documents c ∧ c.settings = settings →
      P (documents ++ (c.convertRecord category v).1.toList) (c.convertRecord category v).2 ∧
        (c.convertRecord category v).2.settings = settings := by
    rintro documents c category v ⟨h, hs⟩
    rcases c.convertRecord_cases category v with ⟨document, entry, hb, he⟩ | ⟨_, _, -, he⟩ | ⟨-, he⟩
    · rw [he]
      exact ⟨accept documents c category v document entry hs hb h, hs⟩
    · rw [he, Option.toList_none, List.append_nil]
      exact ⟨filtered documents c h, hs⟩
    · rw [he, Option.toList_none, List.append_nil]
      exact ⟨unnamed documents c h, hs⟩
  rw [run_eq_convertAll]
  exact (convertAll_induction hstep (calls.flatMap Call.reached) ⟨start, rfl⟩).1

/-- **Induction over a run for what counters do not enter**: it is enough to look at
the records that make a document. -/
theorem run_induction {settings : Settings} (start : P [] (new settings))
    (count : ∀ documents c stats, P documents c → P documents { c with stats := stats })
    (accept : ∀ documents c category v document entry, c.settings = settings →
      Document.build c.settings.style c.settings.sourceFilter category v = .built document entry →
      P documents c → P (documents ++ [(c.accept document entry).1]) (c.accept document entry).2)
    (calls : List Call) :
    P ((new settings).run calls).1 ((new settings).run calls).2 :=
  run_steps_induction start accept (fun documents c h => count documents c _ h)
    (fun documents c h => count documents c _ h) calls

end Induction

/-! ### Two runs -/

/-- **Induction over two runs of the same calls.**  `P documents c documents' c'` is about what
both runs have made so far and what is behind them. -/
theorem run_pair_induction {P : List Document → Converter → List Document → Converter → Prop}
    (record : ∀ documents c documents' c' category v, P documents c documents' c' →
      P (documents ++ (c.convertRecord category v).1.toList) (c.convertRecord category v).2
        (documents' ++ (c'.convertRecord category v).1.toList) (c'.convertRecord category v).2)
    (calls : List Call) {c c' : Converter} (start : P [] c [] c') :
    P (c.run calls).1 (c.run calls).2 (c'.run calls).1 (c'.run calls).2 := by
  have hall : ∀ (pairs : List (Category × Json)) documents c documents' c',
      P documents c documents' c' →
      P (documents ++ (c.convertAll pairs).1) (c.convertAll pairs).2
        (documents' ++ (c'.convertAll pairs).1) (c'.convertAll pairs).2 := by
    intro pairs
    induction pairs with
    | nil =>
      intro documents c documents' c' h
      rw [convertAll, convertAll, List.append_nil, List.append_nil]
      exact h
    | cons pair rest ih =>
      intro documents c documents' c' h
      have hrest := ih _ _ _ _ (record documents c documents' c' pair.1 pair.2 h)
      rw [List.append_assoc, List.append_assoc] at hrest
      exact hrest
  rw [run_eq_convertAll, run_eq_convertAll]
  exact hall _ [] c [] c' start

/-- **Two runs of the same calls** stay related, and make related documents, if it is so
for every record. -/
theorem run_related {R : Converter → Converter → Prop} {D : Document → Document → Prop}
    (record : ∀ c c' category v, R c c' →
      List.Forall₂ D (c.convertRecord category v).1.toList (c'.convertRecord category v).1.toList ∧
        R (c.convertRecord category v).2 (c'.convertRecord category v).2)
    (calls : List Call) {c c' : Converter} (h : R c c') :
    List.Forall₂ D (c.run calls).1 (c'.run calls).1 ∧ R (c.run calls).2 (c'.run calls).2 := by
  refine run_pair_induction (P := fun documents c documents' c' =>
    List.Forall₂ D documents documents' ∧ R c c') ?_ calls ⟨.nil, h⟩
  rintro documents c documents' c' category v ⟨hdocuments, h⟩
  obtain ⟨hmade, hnext⟩ := record c c' category v h
  exact ⟨List.rel_append hdocuments hmade, hnext⟩

end Converter

end Compendium
