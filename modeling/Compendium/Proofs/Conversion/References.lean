import Compendium.Proofs.Conversion.NaturalPaths
import Compendium.Proofs.Inline.SingleTag

/-!
# References by name

A reference leads to the slug of its argument, a document gets its path from the name of its record.
The argument is expanded and trimmed by the tag, the name is expanded as plain text and trimmed when
the document is built.  A text without braces and pipes comes out of both as the trimmed text, whose
slug is that of the text (`Slug.slug_trim`), so link and document meet at one natural path.

* `reference_leads_to_document`: what a reference by name expands to, and which documents it finds.
-/

namespace Compendium

/-! ### What a reference writes -/

namespace Inline

theorem isTagName_of_referenceTag {tag : String} {c : Category}
    (h : Category.ofReferenceTag? tag = some c) : IsTagName tag := by
  unfold Category.ofReferenceTag? at h
  split at h <;> cases h
  all_goals exact isTagName_of_all (by decide) (by decide)

theorem argumentOr_of_length_le {args : List String} {n : Nat} (h : args.length ≤ n)
    (fallback : String) : argumentOr args n fallback = fallback := by
  rw [argumentOr, List.getElem?_eq_none h]
  rfl

/-- A tag around a text without braces and pipes. -/
theorem expand_tagText_singleton (mode : Mode) {tag name : String} (htag : IsTagName tag)
    (hplain : '\x7b' ∉ name.toList ∧ '\x7d' ∉ name.toList ∧ '|' ∉ name.toList) :
    expand mode (tagText tag name) = render mode tag [name] := by
  have hargs : ∀ arg ∈ [name], IsArgument arg.toList :=
    List.forall_mem_singleton.2 (isArgument_of_notMem hplain.1 hplain.2.1 hplain.2.2)
  have hexpand := expand_tagText mode htag hargs
  rwa [String.intercalate_singleton, List.map_singleton,
    argumentText_of_notMem mode hplain.1] at hexpand

/-- A reference by name is a link to the natural path of the trimmed name. -/
theorem expand_reference {tag name : String} {c : Category}
    (htag : Category.ofReferenceTag? tag = some c)
    (hplain : '\x7b' ∉ name.toList ∧ '\x7d' ∉ name.toList ∧ '|' ∉ name.toList)
    (hslug : Slug.slug name ≠ "") :
    expand (.markdown true) (tagText tag name) = "[" ++ Text.trim name ++ "](" ++
      ("../" ++ Document.naturalPath c (Text.trim name)) ++ ")" := by
  have hstem : Slug.slug (Text.trim ([name].headD "")) = Document.stem (Text.trim name) := by
    rw [← Slug.slug_trim] at hslug
    exact (Document.stem_eq_slug_iff.2 hslug).symm
  have hone : [name].length ≤ displayIndex tag := one_le_displayIndex tag
  rw [expand_tagText_singleton _ (isTagName_of_referenceTag htag) hplain,
    render_reference_eq htag hstem, List.headD_cons, argumentOr_of_length_le hone]

end Inline

/-! ### What is built of a record -/

namespace Document

theorem displayName?_of_plainText {s : Render.Style} {r : Record} {name : String}
    (hname : r.name?.map s.plainText = some name) (hne : Text.trim name ≠ "") :
    displayName? s r = some (Text.trim name) := by
  obtain ⟨raw, hraw, rfl⟩ := Option.map_eq_some_iff.1 hname
  rw [displayName?, hraw, Option.bind_some, Text.nonEmpty?, if_neg (by simpa using hne)]

theorem displayName?_of_notMem {r : Record} {name : String} (hname : r.name? = some name)
    (hplain : '\x7b' ∉ name.toList) (hne : Text.trim name ≠ "") (s : Render.Style) :
    displayName? s r = some (Text.trim name) := by
  have htext : s.plainText name = name := by
    rw [Render.Style.plainText, Inline.expand, Inline.expandTo_of_notMem _ hplain,
      String.ofList_toList]
  refine displayName?_of_plainText ?_ hne
  rw [hname, Option.map_some, htext]

/-- A record with a name is built under it, unless its source is not wanted. -/
theorem build_cases {s : Render.Style} {v : Json} {r : Record} {name : String}
    (hv : v.record? = some r) (hname : displayName? s r = some name) (filter : SourceFilter)
    (c : Category) :
    (∃ source?, build s filter c v = .filtered name source?) ∨
      ∃ document entry, build s filter c v = .built document entry ∧ document.name = name ∧
        document.path = naturalPath c name := by
  simp only [build, hv, hname]
  by_cases hallows : filter.allows (r.source?.map Text.trim) = true
  · rw [if_pos hallows]
    exact Or.inr ⟨_, _, rfl, rfl, rfl⟩
  · rw [if_neg hallows]
    exact Or.inl ⟨_, rfl⟩

end Document

/-! ### Documents whose claim met no other -/

namespace Converter

/-- A document that a run makes of a record of a category, where the claim of its path reports no
collision. -/
def PlacesFreely (settings : Settings) (calls : List Call) (category : Category) (v : Json)
    (d : Document) : Prop :=
  ∃ before after document entry,
    calls.flatMap Call.reached = before ++ (category, v) :: after ∧
    let c := ((new settings).convertAll before).2
    Document.build c.settings.style c.settings.sourceFilter category v = .built document entry ∧
    (c.paths.claim c.settings.collision document.path document.source?).collided = false ∧
    d = (c.accept document entry).1

namespace PlacesFreely

variable {settings : Settings} {calls : List Call} {category : Category} {v : Json} {d : Document}

theorem mem_run (h : PlacesFreely settings calls category v d) :
    d ∈ ((new settings).run calls).1 := by
  obtain ⟨before, after, document, entry, hreached, hbuilt, -, rfl⟩ := h
  have hmade : (((new settings).convertAll before).2.convertRecord category v).1 =
      some (((new settings).convertAll before).2.accept document entry).1 := by
    rw [convertRecord, hbuilt]
  rw [run_eq_convertAll, hreached, convertAll_append, convertAll_cons, hmade]
  simp

/-- Such a document is at its natural path. -/
theorem path_eq (h : PlacesFreely settings calls category v d) :
    d.path = Document.naturalPath category d.name := by
  obtain ⟨before, after, document, entry, -, hbuilt, hfree, rfl⟩ := h
  rw [PathRegistry.claim_collided] at hfree
  rw [accept_path, PathRegistry.resolve_of_contains_eq_false hfree,
    (Document.of_build_eq_built hbuilt).2, accept_document]

theorem name_eq (h : PlacesFreely settings calls category v d) {r : Record} {name : String}
    (hv : v.record? = some r) (hname : ∀ s, Document.displayName? s r = some name) :
    d.name = name := by
  obtain ⟨before, after, document, entry, -, hbuilt, -, rfl⟩ := h
  rw [accept_document]
  rcases Document.build_cases hv (hname _) _ category with ⟨_, hfiltered⟩ | ⟨_, _, he, hd, -⟩
  · rw [hfiltered] at hbuilt
    cases hbuilt
  · rw [he] at hbuilt
    cases hbuilt
    exact hd

end PlacesFreely

end Converter

/-! ### References and documents -/

/-- **A reference by name leads to the document of that name.**  With a tag that refers to a
category, a text without braces and pipes whose slug is not empty expands to a link that shows the
trimmed text and leads up and to a natural path.  It is the path that a record of this name is built
with, unless its source is not wanted, and so the link resolves, from the page of any document of a
run, to the path of every document of the category that was made of a record of this name and whose
claim of a path reported no collision. -/
theorem reference_leads_to_document {tag name : String} {c : Category}
    (htag : Category.ofReferenceTag? tag = some c)
    (hplain : '\x7b' ∉ name.toList ∧ '\x7d' ∉ name.toList ∧ '|' ∉ name.toList)
    (hslug : Slug.slug name ≠ "") :
    let target := "../" ++ Document.naturalPath c (Text.trim name)
    Inline.expand (.markdown true) (Inline.tagText tag name) =
      "[" ++ Text.trim name ++ "](" ++ target ++ ")" ∧
    (∀ s filter v r, v.record? = some r → r.name? = some name →
      (∃ source?, Document.build s filter c v = .filtered (Text.trim name) source?) ∨
      ∃ document entry, Document.build s filter c v = .built document entry ∧
        document.name = Text.trim name ∧
        document.path = Document.naturalPath c (Text.trim name)) ∧
    ∀ settings calls v r d, v.record? = some r → r.name? = some name →
      Converter.PlacesFreely settings calls c v d →
      d ∈ ((Converter.new settings).run calls).1 ∧
      ∀ page ∈ ((Converter.new settings).run calls).1,
        Markdown.resolve? page.path target = some d.path := by
  intro target
  have hne : Text.trim name ≠ "" := Slug.trim_ne_empty hslug
  have hdisplay : ∀ r : Record, r.name? = some name →
      ∀ s, Document.displayName? s r = some (Text.trim name) := fun r hr =>
    Document.displayName?_of_notMem hr hplain.1 hne
  refine ⟨Inline.expand_reference htag hplain hslug, ?_, ?_⟩
  · intro s filter v r hv hr
    exact Document.build_cases hv (hdisplay r hr s) filter c
  · intro settings calls v r d hv hr hd
    refine ⟨hd.mem_run, fun page hpage => ?_⟩
    rw [hd.path_eq, hd.name_eq hv (hdisplay r hr)]
    exact Markdown.resolve?_naturalPath
      ((Converter.pathsOf_run settings calls).place page hpage) c (Text.trim name)

/-- A dragon with white space around its name, behind an item of that name and in front of a second
dragon. -/
theorem reference_leads_to_document_dragon :
    let name := "\u00a0Ancient Red DRAGON\t"
    let dragon : Json := .obj [("name", .str name), ("source", .str "MM")]
    let calls : List Converter.Call :=
      [.records .item [dragon], .records .creature [.null, dragon, dragon]]
    (Category.ofReferenceTag? "creature" = some .creature ∧
      ('\x7b' ∉ name.toList ∧ '\x7d' ∉ name.toList ∧ '|' ∉ name.toList) ∧ Slug.slug name ≠ "") ∧
    Inline.expand (.markdown true) (Inline.tagText "creature" name) =
      "[Ancient Red DRAGON](../bestiary/ancient-red-dragon.md)" ∧
    ∃ d, Converter.PlacesFreely .default calls .creature dragon d ∧
      d ∈ ((Converter.new .default).run calls).1 ∧
      ∀ page ∈ ((Converter.new .default).run calls).1,
        Markdown.resolve? page.path "../bestiary/ancient-red-dragon.md" = some d.path := by
  intro name dragon calls
  have htag : Category.ofReferenceTag? "creature" = some .creature := by decide
  have hplain : '\x7b' ∉ name.toList ∧ '\x7d' ∉ name.toList ∧ '|' ∉ name.toList := by decide
  have hslug : Slug.slug name ≠ "" := by decide +kernel
  obtain ⟨hexpand, hbuild, hresolve⟩ := reference_leads_to_document htag hplain hslug
  have hnatural : Document.naturalPath .creature (Text.trim name) =
      "bestiary/ancient-red-dragon.md" := by
    decide +kernel
  have htrim : Text.trim name = "Ancient Red DRAGON" := by decide
  rw [hnatural] at hexpand hresolve
  rw [htrim] at hexpand
  refine ⟨⟨htag, hplain, hslug⟩, hexpand.trans (by decide +kernel), ?_⟩
  have hname : Record.name? ⟨[("name", .str name), ("source", .str "MM")]⟩ = some name := by decide
  let c := ((Converter.new .default).convertAll [(.item, dragon), (.creature, .null)]).2
  rcases hbuild c.settings.style c.settings.sourceFilter dragon _ rfl hname with
    ⟨_, hfiltered⟩ | ⟨document, entry, hbuilt, -, hpath⟩
  · have hsome : (c.convertRecord .creature dragon).1.isSome = true := by decide +kernel
    rw [Converter.convertRecord, hfiltered] at hsome
    cases hsome
  · have hfree : (c.paths.claim c.settings.collision document.path
        document.source?).collided = false := by
      rw [PathRegistry.claim_collided, hpath]
      decide +kernel
    have hplaced : Converter.PlacesFreely .default calls .creature dragon
        (c.accept document entry).1 :=
      ⟨[(.item, dragon), (.creature, .null)], [(.creature, dragon)], document, entry, rfl, hbuilt,
        hfree, rfl⟩
    exact ⟨_, hplaced, hresolve .default calls dragon _ _ rfl hname hplaced⟩

end Compendium
