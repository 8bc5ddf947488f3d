import Compendium.Proofs.Conversion.NaturalPaths

/-!
# What a collision policy decides

Two runs of the same calls under the two policies skip and build the same records, and what they
build differs in its path alone (`Parallel`).  The registries drift apart with the first
collision.  But as long as there was none, both runs are in one state, and whether the next path
is free does not depend on the policy.  So the first collision is a collision of both runs, and
one that counts none has gone in step with the other to the end.

* `policies_decide_paths`: what is the same in both runs, which paths are kept where documents
  take paths over, and when the runs agree.
-/

namespace Compendium

open PathRegistry (isReserved)

/-- The settings with another policy. -/
def Settings.withPolicy (settings : Settings) (policy : CollisionPolicy) : Settings :=
  { settings with collision := policy }

/-- The second document is the first one, perhaps at another path. -/
def Document.SameButPath (d d' : Document) : Prop :=
  d' = { d with path := d'.path }

/-- The second entry is the first one, perhaps with another path. -/
def Entry.SameButPath (e e' : Entry) : Prop :=
  e' = { e with path := e'.path }

namespace Converter

/-- **The policy has no say in a path that is free.** -/
theorem accept_of_contains_eq_false {c : Converter} {document : Document}
    (h : c.paths.contains document.path = false) (entry : Entry) (settings : Settings) :
    { c with settings := settings }.accept document entry =
      ((c.accept document entry).1, { (c.accept document entry).2 with settings := settings }) := by
  simp only [accept, settle, PathRegistry.claim, PathRegistry.resolve_of_contains_eq_false h]

/-! ### Two runs under two policies -/

/-- What is known of two runs that differ at most in their policies and have made these
documents. -/
structure Parallel (documents : List Document) (c : Converter) (documents' : List Document)
    (c' : Converter) : Prop where
  settings : c'.settings = c.settings.withPolicy c'.settings.collision
  made : List.Forall₂ Document.SameButPath documents documents'
  entries : List.Forall₂ Entry.SameButPath c.catalog.entries c'.catalog.entries
  built : c.stats.built = c'.stats.built
  filtered : c.stats.filtered = c'.stats.filtered
  rejected : c.stats.rejected = c'.stats.rejected
  agree : c.stats.collisions = 0 ∨ c'.stats.collisions = 0 →
    documents' = documents ∧ c' = { c with settings := c'.settings }

section Parallel

variable {documents documents' : List Document} {c c' : Converter}

/-- **A document that both runs make** keeps them parallel. -/
theorem Parallel.accept (h : Parallel documents c documents' c') (document : Document)
    (entry : Entry) :
    Parallel (documents ++ [(c.accept document entry).1]) (c.accept document entry).2
      (documents' ++ [(c'.accept document entry).1]) (c'.accept document entry).2 where
  settings := h.settings
  made := by
    refine List.rel_append h.made (.cons ?_ .nil)
    rw [Document.SameButPath, c'.accept_document, c.accept_document]
  entries := by
    rw [accept_entries, accept_entries]
    exact List.rel_append h.entries (.cons rfl .nil)
  built := by
    rw [accept_stats, accept_stats, h.built]
  filtered := h.filtered
  rejected := h.rejected
  agree := by
    intro hzero
    rw [accept_stats, accept_stats] at hzero
    -- Neither a collision before nor one with this document, and so none in the other run.
    have hbefore : c.stats.collisions = 0 ∨ c'.stats.collisions = 0 :=
      hzero.imp Nat.eq_zero_of_add_eq_zero_right Nat.eq_zero_of_add_eq_zero_right
    obtain ⟨hdocuments, hstate⟩ := h.agree hbefore
    have hfree : c.paths.contains document.path = false := by
      rw [hstate] at hzero
      by_contra hc
      rw [Bool.not_eq_false] at hc
      simp only [hc, if_true] at hzero
      omega
    rw [hdocuments, hstate, accept_of_contains_eq_false hfree]
    exact ⟨rfl, rfl⟩

/-- **A record does the same to both runs**, up to paths. -/
theorem Parallel.convertRecord (h : Parallel documents c documents' c') (category : Category)
    (v : Json) :
    Parallel (documents ++ (c.convertRecord category v).1.toList) (c.convertRecord category v).2
      (documents' ++ (c'.convertRecord category v).1.toList) (c'.convertRecord category v).2 := by
  have hstyle : c'.settings.style = c.settings.style := by
    rw [h.settings]
    rfl
  have hfilter : c'.settings.sourceFilter = c.settings.sourceFilter := by
    rw [h.settings]
    rfl
  unfold Converter.convertRecord
  rw [hstyle, hfilter]
  cases Document.build c.settings.style c.settings.sourceFilter category v with
  | built document entry => exact h.accept document entry
  | filtered name source? =>
    simp only [Option.toList_none, List.append_nil]
    refine ⟨h.settings, h.made, h.entries, h.built, ?_, h.rejected, fun hzero => ?_⟩
    · exact congrArg (· + 1) h.filtered
    · obtain ⟨hdocuments, hstate⟩ := h.agree hzero
      rw [hstate]
      exact ⟨hdocuments, rfl⟩
  | unnamed =>
    simp only [Option.toList_none, List.append_nil]
    refine ⟨h.settings, h.made, h.entries, h.built, h.filtered, ?_, fun hzero => ?_⟩
    · exact congrArg (· + 1) h.rejected
    · obtain ⟨hdocuments, hstate⟩ := h.agree hzero
      rw [hstate]
      exact ⟨hdocuments, rfl⟩

theorem parallel_run (settings : Settings) (policy : CollisionPolicy) (calls : List Call) :
    Parallel ((new settings).run calls).1 ((new settings).run calls).2
      ((new (settings.withPolicy policy)).run calls).1
      ((new (settings.withPolicy policy)).run calls).2 :=
  run_pair_induction (fun _ _ _ _ category v h => h.convertRecord category v) calls
    ⟨rfl, .nil, .nil, rfl, rfl, rfl, fun _ => ⟨rfl, rfl⟩⟩

end Parallel

/-! ### Documents that take paths over -/

/-- Where documents take paths over, one whose natural path is not reserved has that path. -/
theorem path_of_overwrite {settings : Settings} (hs : settings.collision = .overwrite)
    (calls : List Call) {d : Document} (hd : d ∈ ((new settings).run calls).1)
    (hfree : isReserved (Document.naturalPath d.category d.name) = false) :
    d.path = Document.naturalPath d.category d.name := by
  obtain ⟨earlier, later, hsplit⟩ := List.append_of_mem hd
  obtain ⟨r, -, hp⟩ := settled_run settings calls earlier d ⟨later, by simp [hsplit]⟩
  rw [hp, hs, PathRegistry.resolve_overwrite hfree]

/-! ### Both policies -/

/-- **A collision policy decides paths alone.**  Under both policies the same calls make the same
documents and entries in the same order, up to their paths, and count the same records as built,
filtered and rejected.  Where documents take paths over, each is at its natural path unless that
is reserved.  If one of the runs counts no collision, the runs agree in everything they make and
hold. -/
theorem policies_decide_paths (settings : Settings) (calls : List Call) :
    let apart := (new (settings.withPolicy .suffixSource)).run calls
    let taken := (new (settings.withPolicy .overwrite)).run calls
    List.Forall₂ Document.SameButPath apart.1 taken.1 ∧
    List.Forall₂ Entry.SameButPath apart.2.catalog.entries taken.2.catalog.entries ∧
    apart.2.stats.built = taken.2.stats.built ∧
    apart.2.stats.filtered = taken.2.stats.filtered ∧
    apart.2.stats.rejected = taken.2.stats.rejected ∧
    (∀ d ∈ taken.1, isReserved (Document.naturalPath d.category d.name) = false →
      d.path = Document.naturalPath d.category d.name) ∧
    (apart.2.stats.collisions = 0 ∨ taken.2.stats.collisions = 0 →
      taken.1 = apart.1 ∧ taken.2 = { apart.2 with settings := taken.2.settings }) := by
  intro apart taken
  have h : Parallel apart.1 apart.2 taken.1 taken.2 :=
    parallel_run (settings.withPolicy .suffixSource) .overwrite calls
  have hover : (settings.withPolicy .overwrite).collision = .overwrite := rfl
  refine ⟨h.made, h.entries, h.built, h.filtered, h.rejected, fun d hd hfree => ?_, h.agree⟩
  exact path_of_overwrite hover calls hd hfree

/-- Two orbs of one name and a rule that may not have the path of a listing page, which collide
under both policies; and an orb and a rule of the same name, which do not. -/
theorem policies_decide_paths_orbs :
    let record (name : String) : Json := .obj [("name", .str name), ("source", .str "DMG")]
    let calls : List Call :=
      [.records .item [record "Orb", record "Orb"], .records .rule [record "Index"]]
    let clear : List Call := [.records .item [record "Orb", .null], .records .rule [record "Orb"]]
    List.Forall₂ Document.SameButPath
        ((new (Settings.default.withPolicy .suffixSource)).run calls).1
        ((new (Settings.default.withPolicy .overwrite)).run calls).1 ∧
      ((new (Settings.default.withPolicy .suffixSource)).run calls).1.map Document.path =
        ["items/orb.md", "items/orb-dmg.md", "rules/index-dmg.md"] ∧
      ((new (Settings.default.withPolicy .overwrite)).run calls).1.map Document.path =
        ["items/orb.md", "items/orb.md", "rules/index-dmg.md"] ∧
      (∀ d ∈ ((new (Settings.default.withPolicy .overwrite)).run calls).1,
        isReserved (Document.naturalPath d.category d.name) = false →
          d.path = Document.naturalPath d.category d.name) ∧
      ((new (Settings.default.withPolicy .overwrite)).run clear).2.stats.collisions = 0 ∧
      ((new (Settings.default.withPolicy .overwrite)).run clear).1 =
        ((new (Settings.default.withPolicy .suffixSource)).run clear).1 := by
  intro record calls clear
  obtain ⟨hmade, -, -, -, -, hkept, -⟩ := policies_decide_paths .default calls
  obtain ⟨-, -, -, -, -, -, hagree⟩ := policies_decide_paths .default clear
  have hzero :
      ((new (Settings.default.withPolicy .overwrite)).run clear).2.stats.collisions = 0 := by
    decide +kernel
  exact ⟨hmade, by decide +kernel, by decide +kernel, hkept, hzero, (hagree (Or.inr hzero)).1⟩

end Converter

end Compendium
