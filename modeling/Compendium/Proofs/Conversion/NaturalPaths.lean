import Compendium.Inline.Tag
import Compendium.Proofs.Export.Memory
import Compendium.Proofs.Markdown.Target

/-!
# Natural paths and what takes them

A document asks for its natural path in a registry of just the paths of the documents before it
(`Converter.settled_run`).  So it goes without that path only if an earlier document has it, and
that one either shares the category and the stem, or is itself not where it belongs: its stem
with a tail behind it makes up the stem of the later document.

* `unshared_path_natural_iff`: when a document that shares its stem with no earlier one is at
  its natural path, and what a reference link to it leads to.
-/

namespace Compendium

open PathRegistry (IsTail)

/-! ### How a document came to its path -/

/-- The path of a document is what a claim of its natural path comes to where just the paths of
these documents are taken. -/
def Document.SettledBehind (policy : CollisionPolicy) (earlier : List Document) (d : Document) :
    Prop :=
  ∃ r : PathRegistry, (∀ path, path ∈ r.claimed ↔ path ∈ earlier.map Document.path) ∧
    d.path = r.resolve policy (Document.naturalPath d.category d.name) d.source?

namespace Converter

theorem PathsOf.settledBehind {documents : List Document} {c : Converter} {s : Render.Style}
    {filter : SourceFilter} {category : Category} {v : Json} {document : Document} {entry : Entry}
    (hb : Document.build s filter category v = .built document entry) (h : PathsOf documents c) :
    (c.accept document entry).1.SettledBehind c.settings.collision documents := by
  obtain ⟨hc, hp⟩ := Document.of_build_eq_built hb
  refine ⟨c.paths, h.claimed, ?_⟩
  rw [accept_path, hp, ← hc, accept_document]

/-- **Every document of a run is settled behind those before it.** -/
theorem settled_run (settings : Settings) (calls : List Call) :
    ∀ earlier d, earlier ++ [d] <+: ((new settings).run calls).1 →
      Document.SettledBehind settings.collision earlier d := by
  refine (run_induction (P := fun documents c => PathsOf documents c ∧
    ∀ earlier d, earlier ++ [d] <+: documents →
      Document.SettledBehind settings.collision earlier d)
    ⟨pathsOf_new settings, fun earlier d h => ?_⟩
    (fun _ _ stats h => ⟨h.1.withStats stats, h.2⟩) ?_ calls).2
  · exact absurd (List.prefix_nil.1 h) (by simp)
  · rintro documents c category v document entry hc hb ⟨hpaths, hsettled⟩
    refine ⟨hpaths.accept hb, fun earlier d h => ?_⟩
    rcases List.prefix_concat_iff.1 h with he | h
    · -- The document that has just been made.
      obtain ⟨rfl, hd⟩ := List.append_inj' he rfl
      obtain rfl := List.singleton_injective hd
      rw [← hc]
      exact hpaths.settledBehind hb
    · exact hsettled earlier d h

end Converter

namespace Document.SettledBehind

variable {policy : CollisionPolicy} {earlier : List Document} {d : Document}

/-- A document is at its natural path, or behind its own stem with a tail. -/
theorem path_cases (h : d.SettledBehind policy earlier) :
    d.path = naturalPath d.category d.name ∨ ∃ tail, IsTail d.source? tail ∧
      d.path = d.category.dir ++ "/" ++ (stem d.name ++ "-" ++ tail ++ ".md") := by
  obtain ⟨r, -, hp⟩ := h
  rcases r.resolve_cases policy (naturalPath d.category d.name) d.source? with he | ⟨-, he⟩
  · exact Or.inl (hp.trans he)
  · obtain ⟨tail, ht, ha⟩ := r.alternative_eq (naturalPath d.category d.name) d.source?
    refine Or.inr ⟨tail, ht, ?_⟩
    rw [hp, he, ha, naturalPath, show ".md" = PathRegistry.extension from rfl,
      PathRegistry.stemOf_append]
    simp only [String.append_assoc]

/-- Where documents get paths of their own, one is at its natural path unless that is reserved
or an earlier document has it. -/
theorem path_eq_iff (h : d.SettledBehind .suffixSource earlier) :
    d.path = naturalPath d.category d.name ↔ stem d.name ≠ PathRegistry.reservedStem ∧
      ∀ e ∈ earlier, e.path ≠ naturalPath d.category d.name := by
  obtain ⟨r, hr, hp⟩ := h
  rw [hp, PathRegistry.resolve_eq_self_iff, PathRegistry.contains_eq_false_iff, hr,
    ← Bool.not_eq_true, isReserved_naturalPath, List.mem_map]
  simp only [not_exists, not_and]

/-- **What takes the natural path of another stem**: a document that is not where it belongs. -/
theorem of_path_eq_naturalPath {c : Category} {name : String} (h : d.SettledBehind policy earlier)
    (hp : d.path = naturalPath c name) (hne : d.category = c → stem d.name ≠ stem name) :
    d.category = c ∧ d.path ≠ naturalPath d.category d.name ∧
      ∃ tail, IsTail d.source? tail ∧ stem name = stem d.name ++ "-" ++ tail := by
  have hmoved : d.path ≠ naturalPath d.category d.name := by
    intro he
    obtain ⟨hc, hs⟩ := naturalPath_inj.1 (he.symm.trans hp)
    exact hne hc hs
  rcases h.path_cases with he | ⟨tail, ht, he⟩
  · exact absurd he hmoved
  · have hslash : '/' ∉ (stem d.name ++ "-" ++ tail).toList := by
      simp [slash_notMem_stem, Slug.slash_notMem fun _ => ht.isSlugChar]
    rw [he, naturalPath_eq, file_inj (isPathName_file hslash) (isPathName_stem name)] at hp
    exact ⟨hp.1, hmoved, tail, ht, ((String.append_left_inj ".md").1 hp.2).symm⟩

end Document.SettledBehind

/-! ### Reference links -/

namespace Inline

theorem ofName_of_referenceTag {tag : String} {c : Category}
    (h : Category.ofReferenceTag? tag = some c) :
    ∃ emphasis, Kind.ofName tag = .reference emphasis := by
  unfold Category.ofReferenceTag? at h
  split at h <;> cases h
  all_goals exact ⟨_, rfl⟩

theorem render_reference_eq {tag : String} {args : List String} {c : Category} {name : String}
    (h : Category.ofReferenceTag? tag = some c)
    (hs : Slug.slug (Text.trim (args.headD "")) = Document.stem name) :
    render (.markdown true) tag args =
      "[" ++ argumentOr args (displayIndex tag) (Text.trim (args.headD "")) ++ "](" ++
        ("../" ++ Document.naturalPath c name) ++ ")" := by
  obtain ⟨emphasis, hk⟩ := ofName_of_referenceTag h
  have hslug : (Document.stem name).isEmpty = false :=
    Bool.eq_false_iff.2 fun he => Document.stem_ne_empty name (String.isEmpty_iff.1 he)
  simp only [render, hk, referenceText, h, hs, hslug, Mode.markdown, documentLink,
    Document.naturalPath]
  simp [String.append_assoc, ← String.toList_inj]

/-- **A reference link points at a natural path**, that of the slug of what it names. -/
theorem render_reference {tag : String} {args : List String} {c : Category} {name : String}
    (h : Category.ofReferenceTag? tag = some c)
    (hs : Slug.slug (Text.trim (args.headD "")) = Document.stem name) :
    ∃ display, render (.markdown true) tag args =
      "[" ++ display ++ "](" ++ ("../" ++ Document.naturalPath c name) ++ ")" :=
  ⟨_, render_reference_eq h hs⟩

end Inline

namespace Markdown

/-- From the page of any document, a link that leads up and to a path with the characters of slugs
in its stem finds it. -/
theorem resolve?_file {category : Category} {path stem : String}
    (h : Document.SlugPath category path) (c : Category)
    (hstem : ∀ ch ∈ stem.toList, Slug.IsSlugChar ch) :
    resolve? path ("../" ++ (c.dir ++ "/" ++ (stem ++ ".md"))) =
      some (c.dir ++ "/" ++ (stem ++ ".md")) := by
  obtain ⟨page, hpage, rfl⟩ := h.exists_file
  have hpercent : '%' ∉ ("../" ++ (c.dir ++ "/" ++ (stem ++ ".md"))).toList := by
    rw [String.toList_append, List.mem_append, not_or]
    exact ⟨by decide, Document.notMem_toList_file hstem (by decide)⟩
  exact resolve?_up hpage (Document.isPathName_file (Slug.slash_notMem hstem))
    (decode?_eq_self hpercent)

theorem resolve?_naturalPath {category : Category} {path : String}
    (h : Document.SlugPath category path) (c : Category) (name : String) :
    resolve? path ("../" ++ Document.naturalPath c name) = some (Document.naturalPath c name) := by
  rw [Document.naturalPath_eq]
  exact resolve?_file h c fun _ => Document.isSlugChar_of_mem_stem

end Markdown

/-! ### Documents that share their stem with no earlier one -/

/-- **A stem of one's own is not always enough.**  Where documents get paths of their own, one
whose stem is not reserved and is that of no earlier document of the category is at its natural
path exactly if no earlier document has that path.  One that has it is of the same category, is
itself not at its natural path, and its stem and tail make up the stem of the later one.
Reference links to a document point at its natural path from every page, and the file there
holds the document that has the path. -/
theorem unshared_path_natural_iff {settings : Settings} (hs : settings.collision = .suffixSource)
    (calls : List Converter.Call) {earlier later : List Document} {d : Document}
    (hd : ((Converter.new settings).run calls).1 = earlier ++ d :: later)
    (hindex : Document.stem d.name ≠ PathRegistry.reservedStem)
    (hunshared : ∀ e ∈ earlier, e.category = d.category →
      Document.stem e.name ≠ Document.stem d.name) :
    let documents := ((Converter.new settings).run calls).1
    let catalog := ((Converter.new settings).run calls).2.catalog
    let natural := Document.naturalPath d.category d.name
    (d.path = natural ↔ ∀ e ∈ earlier, e.path ≠ natural) ∧
    (∀ e ∈ earlier, e.path = natural → e.category = d.category ∧
      e.path ≠ Document.naturalPath e.category e.name ∧
      ∃ tail, IsTail e.source? tail ∧
        Document.stem d.name = Document.stem e.name ++ "-" ++ tail) ∧
    (∀ tag args, Category.ofReferenceTag? tag = some d.category →
      Slug.slug (Text.trim (args.headD "")) = Document.stem d.name →
      ∃ display, Inline.render (.markdown true) tag args =
        "[" ++ display ++ "](" ++ ("../" ++ natural) ++ ")") ∧
    (∀ page ∈ documents, Markdown.resolve? page.path ("../" ++ natural) = some natural) ∧
    ∀ options, ∀ e ∈ documents, e.path = natural →
      ((Export.plan options documents catalog).toMemory []).lookup natural = some e.body := by
  intro documents catalog natural
  have hpaths : Converter.PathsOf documents ((Converter.new settings).run calls).2 :=
    Converter.pathsOf_run settings calls
  have hsettled : ∀ front e, front ++ [e] <+: documents →
      Document.SettledBehind .suffixSource front e := by
    rw [← hs]
    exact Converter.settled_run settings calls
  have hprefix : earlier ++ [d] <+: documents := ⟨later, by simp [documents, hd]⟩
  refine ⟨?_, ?_, ?_, ?_, ?_⟩
  · exact (hsettled earlier d hprefix).path_eq_iff.trans (and_iff_right hindex)
  · intro e he hp
    obtain ⟨front, back, hsplit⟩ := List.append_of_mem he
    have hfront : front ++ [e] <+: documents :=
      List.IsPrefix.trans ⟨back, by simp [hsplit]⟩ ((List.prefix_append _ _).trans hprefix)
    exact (hsettled front e hfront).of_path_eq_naturalPath hp (hunshared e he)
  · intro tag args htag harg
    exact Inline.render_reference htag harg
  · intro page hpage
    exact Markdown.resolve?_naturalPath (hpaths.place page hpage) d.category d.name
  · intro options e he hp
    rw [← hp]
    exact Export.lookup_toMemory_of_nodup hpaths (Converter.nodup_paths_run hs calls) he

/-- Two orbs of one name and another orb, whose path neither of them has taken. -/
theorem unshared_path_natural_iff_orbs :
    let orb (name : String) : Json := .obj [("name", .str name), ("source", .str "DMG")]
    let calls : List Converter.Call := [.records .item [orb "Orb", orb "Orb", orb "Orb XGE"]]
    let run := (Converter.new .default).run calls
    let memory := (Export.plan ⟨true, true⟩ run.1 run.2.catalog).toMemory []
    ∃ first second third, run.1 = [first, second, third] ∧
      first.path = "items/orb.md" ∧ second.path = "items/orb-dmg.md" ∧
      third.path = "items/orb-xge.md" ∧
      Markdown.resolve? first.path "../items/orb-xge.md" = some "items/orb-xge.md" ∧
      memory.lookup "items/orb-xge.md" = some third.body := by
  intro orb calls run memory
  have hfacts : run.1.map (fun d => (d.name, d.category, d.path)) =
      [("Orb", .item, "items/orb.md"), ("Orb", .item, "items/orb-dmg.md"),
        ("Orb XGE", .item, "items/orb-xge.md")] := by
    decide +kernel
  obtain ⟨first, rest, hrun, hfirst, hrest⟩ := List.map_eq_cons_iff.1 hfacts
  obtain ⟨second, rest, rfl, hsecond, hrest⟩ := List.map_eq_cons_iff.1 hrest
  obtain ⟨third, rfl, hthird⟩ := List.map_eq_singleton_iff.1 hrest
  simp only [Prod.mk.injEq] at hfirst hsecond hthird
  have hnatural : Document.naturalPath third.category third.name = "items/orb-xge.md" := by
    rw [hthird.1, hthird.2.1]
    decide +kernel
  have hindex : Document.stem third.name ≠ PathRegistry.reservedStem := by
    rw [hthird.1]
    decide +kernel
  have hunshared : ∀ e ∈ [first, second], e.category = third.category →
      Document.stem e.name ≠ Document.stem third.name := by
    intro e he _
    have hname : e.name = "Orb" := by
      rcases List.mem_pair.1 he with rfl | rfl
      · exact hfirst.1
      · exact hsecond.1
    rw [hname, hthird.1]
    decide +kernel
  have hpolicy : Settings.default.collision = .suffixSource := rfl
  have hsplit : ((Converter.new .default).run calls).1 = [first, second] ++ [third] := hrun
  obtain ⟨hiff, -, -, hpage, hfile⟩ :=
    unshared_path_natural_iff hpolicy calls hsplit hindex hunshared
  rw [hnatural] at hiff hpage hfile
  have hpath : third.path = "items/orb-xge.md" := by
    refine hiff.2 fun e he => ?_
    rcases List.mem_pair.1 he with rfl | rfl
    · rw [hfirst.2.2]
      decide
    · rw [hsecond.2.2]
      decide
  rw [hsplit] at hpage
  have hlast : third ∈ ((Converter.new .default).run calls).1 := by
    rw [hsplit]
    simp
  have hlookup := hfile ⟨true, true⟩ third hlast hpath
  refine ⟨first, second, third, hrun, hfirst.2.2, hsecond.2.2, hpath, ?_, ?_⟩
  · exact hpage first List.mem_cons_self
  · simpa only [memory, run] using hlookup

/-- **The second of two orbs takes the path of another one**, which shares its stem with no
document: a link to it leads to the second orb. -/
theorem unshared_path_taken :
    let orb (name : String) : Json := .obj [("name", .str name), ("source", .str "DMG")]
    let run := (Converter.new .default).run
      [.records .item [orb "Orb", orb "Orb", orb "Orb DMG"]]
    ∃ first second third, run.1 = [first, second, third] ∧
      Document.stem third.name ≠ PathRegistry.reservedStem ∧
      (∀ e ∈ [first, second], Document.stem e.name ≠ Document.stem third.name) ∧
      third.path ≠ Document.naturalPath third.category third.name ∧
      second.path = Document.naturalPath third.category third.name := by
  intro orb run
  have hfacts : run.1.map (fun d => (Document.stem d.name, d.path,
      Document.naturalPath d.category d.name)) =
      [("orb", "items/orb.md", "items/orb.md"), ("orb", "items/orb-dmg.md", "items/orb.md"),
        ("orb-dmg", "items/orb-dmg-dmg.md", "items/orb-dmg.md")] := by
    decide +kernel
  obtain ⟨first, rest, hrun, hfirst, hrest⟩ := List.map_eq_cons_iff.1 hfacts
  obtain ⟨second, rest, rfl, hsecond, hrest⟩ := List.map_eq_cons_iff.1 hrest
  obtain ⟨third, rfl, hthird⟩ := List.map_eq_singleton_iff.1 hrest
  simp only [Prod.mk.injEq] at hfirst hsecond hthird
  refine ⟨first, second, third, hrun, ?_, ?_, ?_, ?_⟩
  · rw [hthird.1]
    decide
  · intro e he
    rcases List.mem_pair.1 he with rfl | rfl
    · rw [hfirst.1, hthird.1]
      decide
    · rw [hsecond.1, hthird.1]
      decide
  · rw [hthird.2.1, hthird.2.2]
    decide
  · rw [hsecond.2.1, hthird.2.2]

end Compendium
