import Compendium.Proofs.Conversion.Accounts
import Compendium.Proofs.Export.Memory
import Compendium.Proofs.Index.Groups
import Compendium.Proofs.Index.Keywords
import Compendium.Proofs.Markdown.LinkReader

/-!
# Where indexes and listing pages point

Every index reads its paths off the entries of the catalog, under the category of the entry
(`Catalog.PointsTo`), and the entries of a run have the paths and categories of its documents
(`Converter.Kept.pointsTo_iff`).  A document is where its path says, since only a document of the
same path can be written over it, so no index points at nothing.  A listing page cuts the
directory of its category off a path and encodes what is left; a reader who decodes that and
looks in the directory of the page is back at the path (`Page.resolve?_target`).  The root page
links to the listing pages in the same way (`Page.resolve?_categoryPath`).

Summaries stand behind the links of a page, and may have links of their own.  A reader finds the
links of the page line by line (`Page.linkTargets_ofCategory`), and those that the page is made for
are all of them exactly if the details have none (`Page.map_resolve?_linkTargets_iff`).

* `listings_point_at_documents`: for every run and every index, and for the listing pages.
-/

namespace Compendium

/-! ### What indexes point at -/

/-- An entry of the category has the path. -/
def Catalog.PointsTo (catalog : Catalog) (c : Category) (path : String) : Prop :=
  ∃ e ∈ catalog.entries, e.category = c ∧ e.path = path

section Indexes

variable {catalog : Catalog}

theorem GlobalIndex.mem_rows {row : GlobalIndex.Row} :
    row ∈ (GlobalIndex.ofEntries catalog.entries).rows ↔
      ∃ e ∈ catalog.entries, Row.ofEntry e = row := by
  rw [rows_ofEntries, List.mem_map]
  simp only [(Entry.sort_perm catalog.entries).mem_iff]

theorem Catalog.mem_ofCategory {e : Entry} {c : Category} :
    e ∈ catalog.ofCategory c ↔ e ∈ catalog.entries ∧ e.category = c := by
  rw [Catalog.ofCategory_eq catalog.entries, List.mem_filter,
    (Entry.sort_perm catalog.entries).mem_iff, decide_eq_true_eq]

theorem QuickReference.mem_ofEntries {c : Category} {quick : List QuickReference} :
    (c, quick) ∈ QuickReference.ofEntries catalog.entries ↔
      quick = (catalog.ofCategory c).map ofEntry ∧ catalog.ofCategory c ≠ [] := by
  rw [ofEntries_eq_lists, Category.mem_lists, ne_eq, List.map_eq_nil_iff]

theorem QuickReference.pointsTo {c : Category} {quick : List QuickReference}
    (h : (c, quick) ∈ QuickReference.ofEntries catalog.entries) {q : QuickReference}
    (hq : q ∈ quick) : catalog.PointsTo c q.path := by
  rw [(mem_ofEntries.1 h).1] at hq
  obtain ⟨e, he, rfl⟩ := List.mem_map.1 hq
  obtain ⟨hm, hc⟩ := Catalog.mem_ofCategory.1 he
  exact ⟨e, hm, hc, rfl⟩

theorem CrossReference.pointsTo {x : CrossReference} {g : CrossReference.Group}
    (hg : g ∈ x.groups catalog.entries) {r : Reference} (hr : r ∈ g.references) :
    catalog.PointsTo x.category r.path := by
  rw [(mem_groups_iff.1 hg).2, (Sorting.sort_perm _ _).mem_iff] at hr
  obtain ⟨e, he, rfl⟩ := List.mem_map.1 hr
  obtain ⟨hm, hc, -⟩ := mem_members.1 he
  exact ⟨e, hm, hc, rfl⟩

theorem KeywordIndex.pointsTo {keyword : String}
    {lists : List (Category × List KeywordIndex.Reference)}
    (h : (keyword, lists) ∈ (KeywordIndex.ofEntries catalog.entries).keywords) {c : Category}
    {references : List KeywordIndex.Reference} (hc : (c, references) ∈ lists)
    {r : KeywordIndex.Reference} (hr : r ∈ references) : catalog.PointsTo c r.path := by
  rw [KeywordIndex.ofEntries_eq] at h
  obtain ⟨e, he, hcategory, rfl, -⟩ :=
    KeywordIndex.mem_tags.1 (KeywordIndex.mem_references.1 ⟨lists, h, references, hc, hr⟩)
  exact ⟨e, he, hcategory, rfl⟩

end Indexes

theorem Converter.Kept.pointsTo_iff {documents : List Document} {c : Converter}
    (h : Kept documents c) {category : Category} {path : String} :
    c.catalog.PointsTo category path ↔ ∃ d ∈ documents, d.category = category ∧ d.path = path := by
  have hplaces : c.catalog.entries.map (fun e => (e.category, e.path)) =
      documents.map fun d => (d.category, d.path) :=
    map_eq_of_forall₂ h.entries fun _ _ he => Prod.ext he.category he.path
  have hmem := congrArg (fun places => (category, path) ∈ places) hplaces
  simpa only [List.mem_map, Prod.mk.injEq, Catalog.PointsTo, eq_iff_iff] using hmem

/-! ### What listing pages link to -/

namespace Page

theorem isPathName_fileName : IsPathName fileName :=
  ⟨by decide, by decide, by decide, by decide⟩

theorem relativeTo_file (c : Category) (file : String) :
    relativeTo c (c.dir ++ "/" ++ file) = file := by
  have htext : (c.dir ++ "/" ++ file).toList = (c.dir ++ "/").toList ++ file.toList :=
    String.toList_append
  have hfront : Text.beginsWith (c.dir ++ "/") (c.dir ++ "/" ++ file) = true := by
    rw [Text.beginsWith, List.isPrefixOf_iff_prefix, htext]
    exact List.prefix_append _ _
  rw [relativeTo, if_pos hfront, htext, List.drop_left, String.ofList_toList]

/-- **The target in a line leads from the page to the entry's path.** -/
theorem resolve?_target {c : Category} {path : String} (h : Document.SlugPath c path) :
    Markdown.resolve? (categoryPath c) (Markdown.encodeTarget (relativeTo c path)) =
      some path := by
  have hpercent : '%' ∉ path.toList := h.notMem_toList (by decide)
  obtain ⟨file, hfile, rfl⟩ := h.exists_file
  have hdecode : Markdown.decode? (Markdown.encodeTarget file) = some file := by
    refine Markdown.decode?_encodeTarget fun hm => hpercent ?_
    rw [String.toList_append]
    exact List.mem_append_right _ hm
  rw [relativeTo_file]
  exact Markdown.resolve?_beside isPathName_fileName hfile hdecode

theorem entryLine_eq (c : Category) (q : QuickReference) :
    entryLine c q = "- [" ++ q.name ++ "](" ++ Markdown.encodeTarget (relativeTo c q.path) ++ ")" ++
      details q ++ "\n" := by
  have hdash : "- [" = "- " ++ "[" := rfl
  rw [entryLine, Markdown.link, hdash]
  simp only [String.append_assoc]

/-! ### The links of a page -/

theorem isPlainTarget_of_slugPath {c : Category} {path : String} (h : Document.SlugPath c path) :
    Markdown.IsPlainTarget (Markdown.encodeTarget (relativeTo c path)) := by
  have hpath : ∀ ch, Text.isAlphanumeric ch = false ∧ ch ≠ '-' ∧ ch ≠ '/' ∧ ch ≠ '.' →
      ch ∉ (relativeTo c path).toList := by
    intro ch hch hm
    have hnot := h.notMem_toList hch
    obtain ⟨file, -, rfl⟩ := h.exists_file
    rw [relativeTo_file] at hm
    rw [String.toList_append] at hnot
    exact hnot (List.mem_append_right _ hm)
  intro ch hch
  have hmem := Markdown.mem_encodeTarget hch
  refine ⟨?_, ?_, ?_, ?_⟩ <;> rintro rfl <;>
    exact (hmem.resolve_left (hpath _ (by decide))).elim (by decide) (by decide)

theorem linkTargets_entryLine {c : Category} {q : QuickReference}
    (h : Document.SlugPath c q.path) :
    Markdown.linkTargets ("- " ++ Markdown.link q.name (relativeTo c q.path) ++ details q) =
      Markdown.linkTargets (Markdown.link q.name (relativeTo c q.path)) ++
        Markdown.linkTargets (details q) := by
  rw [String.append_assoc, Markdown.linkTargets_dash_append, Markdown.link,
    Markdown.linkTargets_link_append (isPlainTarget_of_slugPath h)]

/-- **The links of a category's page** are those of its lines. -/
theorem linkTargets_ofCategory {c : Category} {list : List QuickReference}
    (h : ∀ q ∈ list, Document.SlugPath c q.path) :
    Markdown.linkTargets (ofCategory c list) = list.flatMap fun q =>
      Markdown.linkTargets (Markdown.link q.name (relativeTo c q.path)) ++
        Markdown.linkTargets (details q) := by
  have hheader : ∀ s, Markdown.linkTargets ("# " ++ c.label ++ "\n\n" ++ s) =
      Markdown.linkTargets s := by
    intro s
    rw [Markdown.linkTargets, String.toList_append, Markdown.targetsFrom_append]
    cases c <;> rfl
  have hlines : list.map (entryLine c) = (list.map fun q =>
      "- " ++ Markdown.link q.name (relativeTo c q.path) ++ details q).map fun line =>
        line ++ "\n" := by
    rw [List.map_map]
    rfl
  rw [ofCategory, hheader, hlines, Markdown.linkTargets_join, List.flatMap_map]
  exact List.flatMap_congr fun q hq => linkTargets_entryLine (h q hq)

theorem length_le_length_flatMap {α β : Type} (f : α → β) (g : α → List β) (list : List α) :
    list.length ≤ (list.flatMap fun a => f a :: g a).length := by
  induction list with
  | nil => exact Nat.le_refl 0
  | cons a rest ih =>
    rw [List.flatMap_cons, List.length_append, List.length_cons, List.length_cons]
    omega

/-- Lists that begin with something are each no longer if all together have no more members. -/
theorem forall_eq_nil_of_length_flatMap {α β : Type} {f : α → β} {g : α → List β} {list : List α}
    (h : (list.flatMap fun a => f a :: g a).length = list.length) : ∀ a ∈ list, g a = [] := by
  induction list with
  | nil => exact fun a ha => absurd ha List.not_mem_nil
  | cons a rest ih =>
    have hle := length_le_length_flatMap f g rest
    rw [List.flatMap_cons, List.length_append, List.length_cons, List.length_cons] at h
    refine List.forall_mem_cons.2 ⟨List.eq_nil_of_length_eq_zero (by omega), ih (by omega)⟩

/-- If no name has a bracket or a line feed, each line begins with its link. -/
theorem linkTargets_of_plain_names {c : Category} {list : List QuickReference}
    (h : ∀ q ∈ list, Document.SlugPath c q.path)
    (hnames : ∀ q ∈ list, ∀ ch ∈ q.name.toList, ch ≠ '[' ∧ ch ≠ ']' ∧ ch ≠ '\n') :
    Markdown.linkTargets (ofCategory c list) = list.flatMap fun q =>
      Markdown.encodeTarget (relativeTo c q.path) :: Markdown.linkTargets (details q) := by
  rw [linkTargets_ofCategory h]
  refine List.flatMap_congr fun q hq => ?_
  rw [Markdown.link, Markdown.linkTargets_link (isPlainTarget_of_slugPath (h q hq)) (hnames q hq)]
  rfl

/-- The links of such a page lead to the references one by one exactly if all of them are in front
of the details. -/
theorem map_resolve?_linkTargets_iff {c : Category} {list : List QuickReference}
    (h : ∀ q ∈ list, Document.SlugPath c q.path)
    (hnames : ∀ q ∈ list, ∀ ch ∈ q.name.toList, ch ≠ '[' ∧ ch ≠ ']' ∧ ch ≠ '\n') :
    (Markdown.linkTargets (ofCategory c list)).map (Markdown.resolve? (categoryPath c)) =
        list.map (fun q => some q.path) ↔
      ∀ q ∈ list, Markdown.linkTargets (details q) = [] := by
  rw [linkTargets_of_plain_names h hnames]
  constructor
  · intro heq
    have hlength := congrArg List.length heq
    rw [List.length_map, List.length_map] at hlength
    exact forall_eq_nil_of_length_flatMap hlength
  · intro hnone
    have hfront : (list.flatMap fun q => Markdown.encodeTarget (relativeTo c q.path) ::
        Markdown.linkTargets (details q)) =
          list.map fun q => Markdown.encodeTarget (relativeTo c q.path) := by
      rw [List.flatMap_congr fun q hq => by rw [hnone q hq], List.map_eq_flatMap]
    rw [hfront, List.map_map]
    exact List.map_congr_left fun q hq => resolve?_target (h q hq)

/-- What stands behind a link has no links if source and summary hold no target. -/
theorem linkTargets_details (q : QuickReference)
    (h : ∀ detail ∈ q.source?.toList ++ [q.summary], ¬ [']', '('] <:+: detail.toList) :
    Markdown.linkTargets (details q) = [] := by
  have hshown : ∀ detail ∈ (q.source?.toList ++ [q.summary]).filter fun detail => !detail.isEmpty,
      ¬ [']', '('] <:+: detail.toList :=
    fun detail hm => h detail (List.mem_filter.1 hm).1
  refine Markdown.linkTargets_eq_nil fun hi => ?_
  unfold details at hi
  generalize (q.source?.toList ++ [q.summary]).filter (fun detail => !detail.isEmpty) = shown
    at hshown hi
  cases shown with
  | nil => exact absurd hi.length_le (by decide)
  | cons first rest =>
    have hchars : (" (" ++ ", ".intercalate (first :: rest) ++ ")").toList =
        [' ', '('] ++ ([',', ' '].intercalate ((first :: rest).map String.toList) ++ [')']) := by
      simp
    dsimp only at hi
    rw [hchars] at hi
    -- Neither the spaces nor the parentheses around the details belong to a link.
    have hinner : [']', '('] <:+: [',', ' '].intercalate ((first :: rest).map String.toList) := by
      rcases Chars.infix_append_cons (s := []) (by decide) hi with hi | hi
      · exact absurd hi.length_le (by decide)
      · rcases List.infix_cons_iff.1 hi with hfront | hi
        · simp at hfront
        · exact (Chars.infix_append_cons (by decide) hi).resolve_right
            fun hi => absurd hi.length_le (by decide)
    obtain ⟨piece, hpiece, hpart⟩ :=
      Chars.infix_of_infix_intercalate (by decide) (by decide) (by decide) hinner
    obtain ⟨detail, hdetail, rfl⟩ := List.mem_map.1 hpiece
    exact hshown detail hdetail hpart

/-- The line on a category leads from the root page to the page of the category. -/
theorem resolve?_categoryPath (c : Category) :
    Markdown.resolve? fileName (Markdown.encodeTarget (categoryPath c)) =
      some (categoryPath c) := by
  have hpercent : '%' ∉ (categoryPath c).toList :=
    (slugPath_categoryPath c).notMem_toList (by decide)
  exact Markdown.resolve?_below isPathName_fileName isPathName_fileName
    (Markdown.decode?_encodeTarget hpercent)

theorem categoryLine_eq (c : Category) (list : List QuickReference) :
    categoryLine c list = "- [" ++ c.label ++ "](" ++ Markdown.encodeTarget (categoryPath c) ++
      ") (" ++ toString list.length ++ ")\n" := by
  have hdash : "- [" = "- " ++ "[" := rfl
  have hcount : ") (" = ")" ++ " (" := rfl
  rw [categoryLine, Markdown.link, hdash, hcount]
  simp only [String.append_assoc]

end Page

/-! ### All of them -/

namespace Export

/-- A document of the category is what was written to the path and is there. -/
def HoldsDocument (documents : List Document) (memory : List (String × String)) (c : Category)
    (path : String) : Prop :=
  ∃ d ∈ documents, d.category = c ∧ d.path = path ∧ memory.lookup path = some d.body

variable {documents : List Document} {c : Converter} {options : ExportOptions}

/-- **What the catalog points at is there.** -/
theorem holdsDocument_of_pointsTo (hkept : Converter.Kept documents c)
    (hpaths : Converter.PathsOf documents c) {category : Category} {path : String}
    (h : c.catalog.PointsTo category path) :
    HoldsDocument documents ((plan options documents c.catalog).toMemory []) category path := by
  obtain ⟨d, hd, rfl, rfl⟩ := hkept.pointsTo_iff.1 h
  obtain ⟨last, hlast, hp, hlookup⟩ :=
    exists_lookup_toMemory hpaths (List.mem_map_of_mem hd)
  -- The last document with the path has the category that the path tells.
  have hcategory : last.category = d.category :=
    (hpaths.place last hlast).category_inj (hp ▸ hpaths.place d hd)
  exact ⟨last, hlast, hcategory, hp, hlookup⟩

/-- The page of a category lists its quick references. -/
theorem lookup_categoryPath {catalog : Catalog} (hpages : options.pages = true)
    {category : Category} {list : List QuickReference}
    (h : (category, list) ∈ QuickReference.ofEntries catalog.entries) :
    ((plan options documents catalog).toMemory []).lookup (Page.categoryPath category) =
      some (Page.ofCategory category list) := by
  have hpage : (⟨Page.categoryPath category, Page.ofCategory category list⟩ : OutputFile) ∈
      (plan options documents catalog).pages := by
    rw [plan, if_pos hpages, pagesOf]
    exact List.mem_append_left _ (List.mem_map.2 ⟨(category, list), h, rfl⟩)
  exact lookup_toMemory_others (List.mem_append_right _ hpage)

/-- The root page lists the categories. -/
theorem lookup_fileName {catalog : Catalog} (hpages : options.pages = true) :
    ((plan options documents catalog).toMemory []).lookup Page.fileName =
      some (Page.overview (QuickReference.ofEntries catalog.entries)) := by
  have hpage : (⟨Page.fileName, Page.overview (QuickReference.ofEntries catalog.entries)⟩ :
      OutputFile) ∈ (plan options documents catalog).pages := by
    rw [plan, if_pos hpages, pagesOf]
    exact List.mem_append_right _ List.mem_cons_self
  exact lookup_toMemory_others (List.mem_append_right _ hpage)

end Export

/-- **Nothing that an index says points at nothing.**  After a run is exported, under either policy,
every path in one of the indexes is the path of a document of the category under which it stands
there, and the document is in memory at that path.  The paths of all documents stand in the global
index and in the quick references of their categories.

The page of a category has one line for each quick reference of the category, in their order.  The
line begins with a link on the name, whose target leads from the page to the path of that reference;
behind it stand source and summary.  A reader finds the links of the names and those in the details,
line by line.  Where no name has a bracket or a line feed, each line begins with a link to its
reference, and the links of the page lead to the references one by one exactly if no details have a
link.  Details have none if neither source nor summary has a target in parentheses.

The root page has a line for each of these pages, which leads there. -/
theorem listings_point_at_documents (settings : Settings) (calls : List Converter.Call)
    (pretty : Bool) :
    let documents := ((Converter.new settings).run calls).1
    let catalog := ((Converter.new settings).run calls).2.catalog
    let memory := (Export.plan ⟨true, pretty⟩ documents catalog).toMemory []
    let quick := QuickReference.ofEntries catalog.entries
    (∀ row ∈ (GlobalIndex.ofEntries catalog.entries).rows,
      Export.HoldsDocument documents memory row.category row.path) ∧
    (∀ c list, (c, list) ∈ quick → ∀ q ∈ list,
      Export.HoldsDocument documents memory c q.path) ∧
    (∀ x : CrossReference, ∀ g ∈ x.groups catalog.entries, ∀ r ∈ g.references,
      Export.HoldsDocument documents memory x.category r.path) ∧
    (∀ keyword lists, (keyword, lists) ∈ (KeywordIndex.ofEntries catalog.entries).keywords →
      ∀ c list, (c, list) ∈ lists → ∀ r ∈ list,
        Export.HoldsDocument documents memory c r.path) ∧
    (∀ d ∈ documents,
      d.path ∈ (GlobalIndex.ofEntries catalog.entries).rows.map GlobalIndex.Row.path ∧
      ∃ list, (d.category, list) ∈ quick ∧ d.path ∈ list.map QuickReference.path) ∧
    (∀ c list, (c, list) ∈ quick → ∃ (page : String) (target : QuickReference → String),
      memory.lookup (Page.categoryPath c) = some page ∧
      page = "# " ++ c.label ++ "\n\n" ++ String.join (list.map fun q =>
        "- [" ++ q.name ++ "](" ++ target q ++ ")" ++ Page.details q ++ "\n") ∧
      (∀ q ∈ list, Markdown.resolve? (Page.categoryPath c) (target q) = some q.path) ∧
      (Markdown.linkTargets page = list.flatMap fun q =>
        Markdown.linkTargets ("[" ++ q.name ++ "](" ++ target q ++ ")") ++
          Markdown.linkTargets (Page.details q)) ∧
      ((∀ q ∈ list, ∀ ch ∈ q.name.toList, ch ≠ '[' ∧ ch ≠ ']' ∧ ch ≠ '\n') →
        (Markdown.linkTargets page = list.flatMap fun q =>
          target q :: Markdown.linkTargets (Page.details q)) ∧
        ((Markdown.linkTargets page).map (Markdown.resolve? (Page.categoryPath c)) =
            list.map (fun q => some q.path) ↔
          ∀ q ∈ list, Markdown.linkTargets (Page.details q) = []))) ∧
    (∀ q : QuickReference, (∀ detail ∈ q.source?.toList ++ [q.summary],
      ¬ [']', '('] <:+: detail.toList) → Markdown.linkTargets (Page.details q) = []) ∧
    ∃ target : Category → String,
      memory.lookup Page.fileName = some ("# Index\n\n" ++ String.join (quick.map fun p =>
        "- [" ++ p.1.label ++ "](" ++ target p.1 ++ ") (" ++ toString p.2.length ++ ")\n")) ∧
      ∀ c, Markdown.resolve? Page.fileName (target c) = some (Page.categoryPath c) := by
  intro documents catalog memory quick
  have hpaths : Converter.PathsOf documents ((Converter.new settings).run calls).2 :=
    Converter.pathsOf_run settings calls
  have hkept : Converter.Kept documents ((Converter.new settings).run calls).2 :=
    Converter.kept_run settings calls
  have hholds : ∀ {c path}, catalog.PointsTo c path →
      Export.HoldsDocument documents memory c path :=
    fun h => Export.holdsDocument_of_pointsTo hkept hpaths h
  refine ⟨?_, ?_, ?_, ?_, ?_, ?_, Page.linkTargets_details,
    fun c => Markdown.encodeTarget (Page.categoryPath c), ?_, Page.resolve?_categoryPath⟩
  · intro row hrow
    obtain ⟨e, he, rfl⟩ := GlobalIndex.mem_rows.1 hrow
    exact hholds ⟨e, he, rfl, rfl⟩
  · intro c list hlist q hq
    exact hholds (QuickReference.pointsTo hlist hq)
  · intro x g hg r hr
    exact hholds (CrossReference.pointsTo hg hr)
  · intro keyword lists hlists c list hlist r hr
    exact hholds (KeywordIndex.pointsTo hlists hlist hr)
  · intro d hd
    obtain ⟨e, he, hc, hp⟩ := hkept.pointsTo_iff.2 ⟨d, hd, rfl, rfl⟩
    have hlisted : e ∈ catalog.ofCategory d.category := Catalog.mem_ofCategory.2 ⟨he, hc⟩
    rw [← hp]
    refine ⟨?_, _, QuickReference.mem_ofEntries.2 ⟨rfl, List.ne_nil_of_mem hlisted⟩, ?_⟩
    · exact List.mem_map.2 ⟨_, GlobalIndex.mem_rows.2 ⟨e, he, rfl⟩, rfl⟩
    · exact List.mem_map.2 ⟨_, List.mem_map_of_mem hlisted, rfl⟩
  · intro c list hlist
    have hslug : ∀ q ∈ list, Document.SlugPath c q.path := by
      intro q hq
      obtain ⟨d, hd, rfl, hp⟩ := hkept.pointsTo_iff.1 (QuickReference.pointsTo hlist hq)
      exact hp ▸ hpaths.place d hd
    refine ⟨Page.ofCategory c list, fun q => Markdown.encodeTarget (Page.relativeTo c q.path),
      Export.lookup_categoryPath rfl hlist, ?_, fun q hq => Page.resolve?_target (hslug q hq),
      Page.linkTargets_ofCategory hslug, fun hnames => ?_⟩
    · rw [Page.ofCategory]
      simp only [funext (Page.entryLine_eq c)]
    · exact ⟨Page.linkTargets_of_plain_names hslug hnames,
        Page.map_resolve?_linkTargets_iff hslug hnames⟩
  · have hlookup : memory.lookup Page.fileName = some (Page.overview quick) :=
      Export.lookup_fileName rfl
    rw [hlookup, Page.overview]
    simp only [Page.categoryLine_eq]

/-- The page of a feat whose prerequisite refers to a species, without links between documents. -/
theorem listings_point_at_documents_elf :
    let feat : Json := .obj [("name", .str "Elven Accuracy"),
      ("prerequisite", .arr [.obj [("other", .str "\x7b@race Elf\x7d")]])]
    let calls : List Converter.Call := [.records .feat [feat]]
    let run := (Converter.new .default).run calls
    let memory := (Export.plan ⟨true, true⟩ run.1 run.2.catalog).toMemory []
    ∃ page, memory.lookup "feats/index.md" = some page ∧
      (Markdown.linkTargets page).map (Markdown.resolve? "feats/index.md") =
        [some "feats/elven-accuracy.md"] := by
  intro feat calls run memory
  obtain ⟨-, -, -, -, -, hpages, -⟩ := listings_point_at_documents .default calls true
  have hquick : QuickReference.ofEntries run.2.catalog.entries = [(.feat,
      [⟨"Elven Accuracy", "feats/elven-accuracy.md", none, "Prerequisite: *Elf*"⟩])] := by
    decide +kernel
  obtain ⟨page, target, hlookup, -, -, -, hplain⟩ :=
    hpages .feat _ (hquick ▸ List.mem_singleton_self _)
  obtain ⟨-, hlinks⟩ := hplain (by simp)
  exact ⟨page, hlookup, hlinks.2 (by decide +kernel)⟩

/-- The page of a feat whose prerequisite refers to a species, with links between documents: the
second link comes from the summary, there is no second feat, and the link leads to no file. -/
theorem listing_link_dangles :
    let feat : Json := .obj [("name", .str "Elven Accuracy"),
      ("prerequisite", .arr [.obj [("other", .str "\x7b@race Elf\x7d")]])]
    let calls : List Converter.Call := [.records .feat [feat]]
    let run := (Converter.new { Settings.default with linkReferences := true }).run calls
    let memory := (Export.plan ⟨true, true⟩ run.1 run.2.catalog).toMemory []
    (QuickReference.ofEntries run.2.catalog.entries).map (fun p =>
      (p.1, p.2.map QuickReference.path)) = [(.feat, ["feats/elven-accuracy.md"])] ∧
    (memory.lookup "feats/index.md").map Markdown.linkTargets =
      some ["elven-accuracy.md", "../species/elf.md"] ∧
    Markdown.resolve? "feats/index.md" "../species/elf.md" = some "species/elf.md" ∧
    memory.lookup "species/elf.md" = none := by
  decide +kernel

end Compendium
