import Compendium.Proofs.Conversion.References

/-!
# References to statblocks

A statblock block links, like a reference tag, to the slug of the name that it shows.  The path of
a document has the stem of its name instead, which is the slug unless that is empty
(`Document.stem_eq_slug_iff`).  Reference tags leave the link out in the one case where slug and
stem differ (`Inline.referenceText_of_slug_eq_empty`), and statblocks do not: theirs then leads to
a file without a stem, and no document of a run is at such a path.

* `statblock_link_natural_iff`: what a statblock links to, and which names find their documents.
-/

namespace Compendium

open Markdown (resolve?)

namespace Render

variable {s : Style} {r : Record} {name : String} {c : Category}

theorem statblock_eq (hlinks : s.links = true) (hname : statblockName? s r = some name)
    (htag : Category.ofReferenceTag? (statblockTag r) = some c) :
    statblock s r = "*See the [" ++ name ++ "](" ++
      ("../" ++ (c.dir ++ "/" ++ (Slug.slug name ++ ".md"))) ++ ") statblock.*" := by
  simp only [statblock, hname, htag, hlinks, if_true, Inline.documentLink]
  simp [← String.toList_inj]

theorem value_of_statblock (hkind : r.kind = .statblock ∨ r.kind = .statblockInline)
    (depth : UInt64) : value s (.obj r.fields) depth = statblock s r := by
  rw [value, block]
  rcases hkind with hk | hk
  · rw [hk]
  · rw [hk]

end Render

namespace Document

/-- A record whose plain name has a slug is built at the path of that name, unless its source is
not wanted. -/
theorem build_path {s : Render.Style} {v : Json} {r : Record} {name : String}
    (hv : v.record? = some r) (hname : r.name?.map s.plainText = some name)
    (hslug : Slug.slug name ≠ "") (filter : SourceFilter) (c : Category) :
    (∃ source?, build s filter c v = .filtered (Text.trim name) source?) ∨
      ∃ document entry, build s filter c v = .built document entry ∧
        document.path = naturalPath c name := by
  have hne : Text.trim name ≠ "" := by
    rw [← Slug.slug_trim] at hslug
    intro hempty
    rw [hempty] at hslug
    exact hslug rfl
  rcases build_cases hv (displayName?_of_plainText hname hne) filter c with
    hfiltered | ⟨document, entry, hbuilt, -, hpath⟩
  · exact Or.inl hfiltered
  · refine Or.inr ⟨document, entry, hbuilt, ?_⟩
    rw [hpath, naturalPath_trim]

/-- The path of a document has a stem. -/
theorem SlugPath.ne_bare {category : Category} {path : String}
    (h : SlugPath category path) (c : Category) : path ≠ c.dir ++ "/" ++ ("" ++ ".md") := by
  obtain ⟨stem, hne, hstem, rfl⟩ := h
  intro he
  have hfile := isPathName_file (Slug.slash_notMem hstem)
  have hbare : IsPathName ("" ++ ".md") := isPathName_file (by decide)
  exact hne ((String.append_left_inj ".md").1 ((file_inj hfile hbare).1 he).2)

end Document

/-- **A statblock links to the natural path of its name unless the slug of the name is empty.**
With links on, a block of this kind that has a name, and whose tag refers to a category, shows the
name as plain text and links up and to the file of its slug, and the link resolves from the page of
any document of a run.  If the slug is not empty, the file is at the natural path of the name, where
every record of that name is built unless its source is not wanted.  If it is empty, the path is not
the natural one, no document of any run has it, and a reference tag to the name is no link at
all. -/
theorem statblock_link_natural_iff {s : Render.Style} {r : Record} {name : String} {c : Category}
    (hlinks : s.links = true) (hkind : r.kind = .statblock ∨ r.kind = .statblockInline)
    (hname : Render.statblockName? s r = some name)
    (htag : Category.ofReferenceTag? (Render.statblockTag r) = some c) :
    let path := c.dir ++ "/" ++ (Slug.slug name ++ ".md")
    (∀ depth, Render.value s (.obj r.fields) depth =
      "*See the [" ++ name ++ "](" ++ ("../" ++ path) ++ ") statblock.*") ∧
    (∀ settings calls, ∀ page ∈ ((Converter.new settings).run calls).1,
      resolve? page.path ("../" ++ path) = some path) ∧
    (path = Document.naturalPath c name ↔ Slug.slug name ≠ "") ∧
    (Slug.slug name ≠ "" → ∀ style filter v record, v.record? = some record →
      record.name?.map style.plainText = some name →
      (∃ source?, Document.build style filter c v = .filtered (Text.trim name) source?) ∨
      ∃ document entry, Document.build style filter c v = .built document entry ∧
        document.path = path) ∧
    (Slug.slug name = "" →
      (∀ settings calls, ∀ d ∈ ((Converter.new settings).run calls).1, d.path ≠ path) ∧
      ∀ mode emphasis tag display, Inline.referenceText mode emphasis tag name display =
        Inline.emphasize mode emphasis display) := by
  intro path
  have hchars : ∀ ch ∈ (Slug.slug name).toList, Slug.IsSlugChar ch :=
    fun _ => Slug.isSlugChar_of_mem_slug
  have hnatural : path = Document.naturalPath c name ↔ Slug.slug name ≠ "" := by
    rw [Document.naturalPath_eq, Document.file_inj
      (Document.isPathName_file (Slug.slash_notMem hchars)) (Document.isPathName_stem name),
      ← Document.stem_eq_slug_iff, String.append_left_inj, eq_comm (a := Slug.slug name)]
    exact and_iff_right rfl
  refine ⟨?_, ?_, hnatural, ?_, ?_⟩
  · intro depth
    rw [Render.value_of_statblock hkind, Render.statblock_eq hlinks hname htag]
  · intro settings calls page hpage
    exact Markdown.resolve?_file ((Converter.pathsOf_run settings calls).place page hpage) c hchars
  · intro hslug style filter v record hv hrecord
    rw [hnatural.2 hslug]
    exact Document.build_path hv hrecord hslug filter c
  · intro hslug
    refine ⟨fun settings calls d hd => ?_, Inline.referenceText_of_slug_eq_empty hslug⟩
    have hplace := (Converter.pathsOf_run settings calls).place d hd
    simp only [path, hslug]
    exact hplace.ne_bare c

/-- A zombie whose name is in the data of the block, and the record of that name. -/
theorem statblock_link_natural_iff_zombie :
    let s := Render.Style.make true 2
    let zombie : Json := .obj [("name", .str "Ogre Zombie"), ("source", .str "MM")]
    let r : Record := ⟨[("type", .str "statblockInline"), ("dataType", .str "creature"),
      ("data", zombie)]⟩
    (s.links = true ∧ (r.kind = .statblock ∨ r.kind = .statblockInline) ∧
      Render.statblockName? s r = some "Ogre Zombie" ∧
      Category.ofReferenceTag? (Render.statblockTag r) = some .creature ∧
      Slug.slug "Ogre Zombie" ≠ "") ∧
    Render.value s (.obj r.fields) 0 =
      "*See the [Ogre Zombie](../bestiary/ogre-zombie.md) statblock.*" ∧
    ∃ document entry, Document.build s .all .creature zombie = .built document entry ∧
      document.path = "bestiary/ogre-zombie.md" := by
  intro s zombie r
  have hkind : r.kind = .statblock ∨ r.kind = .statblockInline := by decide
  have hname : Render.statblockName? s r = some "Ogre Zombie" := by decide +kernel
  have htag : Category.ofReferenceTag? (Render.statblockTag r) = some .creature := by decide
  have hslug : Slug.slug "Ogre Zombie" = "ogre-zombie" := by decide +kernel
  have hne : Slug.slug "Ogre Zombie" ≠ "" := by
    rw [hslug]
    decide
  obtain ⟨hvalue, -, -, hbuild, -⟩ := statblock_link_natural_iff rfl hkind hname htag
  rw [hslug] at hvalue hbuild
  let record : Record := ⟨[("name", .str "Ogre Zombie"), ("source", .str "MM")]⟩
  have hrecord : zombie.record? = some record := rfl
  have hplain : record.name?.map s.plainText = some "Ogre Zombie" := by decide +kernel
  have hdisplay : Document.displayName? s record = some "Ogre Zombie" := by decide +kernel
  have hallows : SourceFilter.all.allows (record.source?.map Text.trim) = true := by decide
  refine ⟨⟨rfl, hkind, hname, htag, hne⟩, hvalue 0, ?_⟩
  rcases hbuild (by decide) s .all zombie record hrecord hplain with ⟨_, hfiltered⟩ | hbuilt
  · simp only [Document.build, hrecord, hdisplay, if_pos hallows] at hfiltered
    cases hfiltered
  · exact hbuilt

/-- **A name without a slug**: the statblock leads to a file without a stem, where the document
of that name is not, and the reference tag to the same name is no link. -/
theorem statblock_link_of_slug_empty :
    let s := Render.Style.make true 2
    let r : Record := ⟨[("type", .str "statblock"), ("name", .str "???")]⟩
    s.links = true ∧ r.kind = .statblock ∧ Render.statblockName? s r = some "???" ∧
    Category.ofReferenceTag? (Render.statblockTag r) = some .creature ∧
    Render.value s (.obj r.fields) 0 = "*See the [???](../bestiary/.md) statblock.*" ∧
    Document.naturalPath .creature "???" = "bestiary/entry.md" ∧
    "../bestiary/.md" ≠ "../" ++ Document.naturalPath .creature "???" ∧
    Inline.expand (.markdown true) (Inline.tagText "creature" "???") = "**???**" := by
  intro s r
  have hvalue : Render.value s (.obj r.fields) 0 = Render.statblock s r :=
    Render.value_of_statblock (Or.inl (by decide)) 0
  rw [hvalue]
  decide +kernel

end Compendium
