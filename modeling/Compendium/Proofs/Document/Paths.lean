import Mathlib.Data.List.Nodup
import Compendium.Conversion.PathRegistry
import Compendium.Document.Basic
import Compendium.Proofs.Slug

/-!
# The parts of a document's path

The path of a document has two parts, the directory of its category and the name of its file,
and neither holds a slash (`splitOn_file`).  So the path tells the category and the stem
(`file_inj`), and whether it is reserved depends on the stem alone (`isReserved_file`).  The
stem is made of the characters of slugs (`SlugPath`), which leaves no place for anything that
a link or a disk would read in a way of its own (`Document.mem_toList_file`).
-/

namespace Compendium

/-! ### Parts -/

namespace Text

theorem splitOn_ne_nil (s : String) : splitOn '/' s ≠ [] := by
  rw [splitOn, ne_eq, List.map_eq_nil_iff]
  exact List.splitOn_ne_nil '/' s.toList

theorem splitOn_injective : Function.Injective (splitOn '/') :=
  Function.LeftInverse.injective (intercalate_splitOn '/')

theorem splitOn_of_notMem {s : String} (h : '/' ∉ s.toList) : splitOn '/' s = [s] := by
  rw [splitOn, List.splitOn_eq_singleton h, List.map_singleton, String.ofList_toList]

/-- Paths with a slash between them have the parts of both. -/
theorem splitOn_slash (a b : String) :
    splitOn '/' (a ++ "/" ++ b) = splitOn '/' a ++ splitOn '/' b :=
  splitOn_append '/' a b

theorem splitOn_append_slash {a : String} (h : '/' ∉ a.toList) (b : String) :
    splitOn '/' (a ++ "/" ++ b) = a :: splitOn '/' b := by
  rw [splitOn_slash, splitOn_of_notMem h, List.singleton_append]

theorem afterLast_append_slash (a : String) {b : String} (h : '/' ∉ b.toList) :
    afterLast '/' (a ++ "/" ++ b) = b := by
  have htext : (a ++ "/" ++ b).toList.reverse = b.toList.reverse ++ '/' :: a.toList.reverse := by
    simp
  have hall : ∀ c ∈ b.toList.reverse, decide (c ≠ '/') = true := by
    intro c hc
    refine decide_eq_true ?_
    rintro rfl
    exact h (List.mem_reverse.1 hc)
  rw [afterLast, htext, List.takeWhile_append_of_pos hall]
  simp

end Text

/-! ### Names -/

/-- What can stand between the slashes of a path and name something there. -/
structure IsPathName (part : String) : Prop where
  slash_notMem : '/' ∉ part.toList
  ne_empty : part ≠ ""
  ne_dot : part ≠ "."
  ne_dots : part ≠ ".."

namespace Document

theorem isPathName_file {stem : String} (h : '/' ∉ stem.toList) : IsPathName (stem ++ ".md") := by
  have hne : ∀ name : String, name.length < 3 → stem ++ ".md" ≠ name := by
    intro name hlen he
    have hlength := congrArg String.length he
    rw [String.length_append] at hlength
    have hextension : ".md".length = 3 := rfl
    omega
  exact ⟨by simp [h], hne _ (by decide), hne _ (by decide), hne _ (by decide)⟩

end Document

/-! ### Directories -/

namespace Category

theorem dir_injective : Function.Injective dir := by
  intro c d h
  have hnodup : (all.map dir).Nodup := by decide
  exact List.inj_on_of_nodup_map hnodup (mem_all c) (mem_all d) h

theorem isSlugChar_of_mem_dir {c : Category} {ch : Char} (h : ch ∈ c.dir.toList) :
    Slug.IsSlugChar ch := by
  have hdir : c.dir.toList.all Text.isAlphanumeric = true := by cases c <;> decide
  exact Slug.isSlugChar_of_all hdir h

theorem isPathName_dir (c : Category) : IsPathName c.dir where
  slash_notMem := Slug.slash_notMem fun _ => isSlugChar_of_mem_dir
  ne_empty := by cases c <;> decide
  ne_dot := by cases c <;> decide
  ne_dots := by cases c <;> decide

end Category

/-! ### Files -/

namespace Document

/-- The parts of a path in the directory of a category. -/
theorem splitOn_file (c : Category) {file : String} (h : IsPathName file) :
    Text.splitOn '/' (c.dir ++ "/" ++ file) = [c.dir, file] := by
  rw [Text.splitOn_append_slash c.isPathName_dir.slash_notMem,
    Text.splitOn_of_notMem h.slash_notMem]

/-- **A path tells the category and the file.** -/
theorem file_inj {c d : Category} {file other : String} (hf : IsPathName file)
    (ho : IsPathName other) :
    c.dir ++ "/" ++ file = d.dir ++ "/" ++ other ↔ c = d ∧ file = other := by
  constructor
  · intro h
    have hparts := congrArg (Text.splitOn '/') h
    rw [splitOn_file c hf, splitOn_file d ho, List.cons.injEq, List.cons.injEq] at hparts
    exact ⟨Category.dir_injective hparts.1, hparts.2.1⟩
  · rintro ⟨rfl, rfl⟩
    rfl

/-- **A path with the characters of slugs in its stem** holds nothing else but slashes and dots. -/
theorem mem_toList_file {c : Category} {stem : String}
    (hstem : ∀ ch ∈ stem.toList, Slug.IsSlugChar ch) {ch : Char}
    (h : ch ∈ (c.dir ++ "/" ++ (stem ++ ".md")).toList) :
    Slug.IsSlugChar ch ∨ ch = '/' ∨ ch = '.' := by
  simp only [String.toList_append, List.mem_append] at h
  rcases h with (h | h) | h | h
  · exact Or.inl (Category.isSlugChar_of_mem_dir h)
  · exact Or.inr (Or.inl (List.mem_singleton.1 h))
  · exact Or.inl (hstem ch h)
  · have hmd : "md".toList.all Text.isAlphanumeric = true := by decide
    rcases List.mem_cons.1 h with rfl | h
    · exact Or.inr (Or.inr rfl)
    · exact Or.inl (Slug.isSlugChar_of_all hmd h)

theorem notMem_toList_file {c : Category} {stem : String}
    (hstem : ∀ ch ∈ stem.toList, Slug.IsSlugChar ch) {ch : Char}
    (h : Text.isAlphanumeric ch = false ∧ ch ≠ '-' ∧ ch ≠ '/' ∧ ch ≠ '.') :
    ch ∉ (c.dir ++ "/" ++ (stem ++ ".md")).toList := by
  obtain ⟨halnum, hhyphen, hslash, hdot⟩ := h
  intro hm
  rcases mem_toList_file hstem hm with (ha | he) | he | he
  · rw [halnum] at ha
    cases ha
  · exact hhyphen he
  · exact hslash he
  · exact hdot he

/-- A path is reserved if its stem is. -/
theorem isReserved_file (directory : String) {stem : String} (h : '/' ∉ stem.toList) :
    PathRegistry.isReserved (directory ++ "/" ++ (stem ++ ".md")) = true ↔
      stem = PathRegistry.reservedStem := by
  rw [PathRegistry.isReserved, Text.afterLast_append_slash _ (isPathName_file h).slash_notMem,
    decide_eq_true_eq]
  exact String.append_left_inj ".md"

/-! ### Stems -/

theorem stem_ne_empty (name : String) : stem name ≠ "" := by
  unfold stem Text.nonEmpty?
  split
  · decide
  · next h =>
    intro he
    exact h (String.isEmpty_iff.2 he)

theorem isSlugChar_of_mem_stem {name : String} {c : Char} (h : c ∈ (stem name).toList) :
    Slug.IsSlugChar c := by
  unfold stem Text.nonEmpty? at h
  split at h
  · have hunnamed : unnamedStem.toList.all Text.isAlphanumeric = true := by decide
    exact Slug.isSlugChar_of_all hunnamed h
  · exact Slug.isSlugChar_of_mem_slug h

theorem slash_notMem_stem (name : String) : '/' ∉ (stem name).toList :=
  Slug.slash_notMem fun _ => isSlugChar_of_mem_stem

theorem isPathName_stem (name : String) : IsPathName (stem name ++ ".md") :=
  isPathName_file (slash_notMem_stem name)

theorem naturalPath_eq (category : Category) (name : String) :
    naturalPath category name = category.dir ++ "/" ++ (stem name ++ ".md") := by
  rw [naturalPath, String.append_assoc]

/-- A name whose slug is empty has another stem. -/
theorem stem_eq_slug_iff {name : String} : stem name = Slug.slug name ↔ Slug.slug name ≠ "" := by
  constructor
  · intro h
    rw [← h]
    exact stem_ne_empty name
  · intro h
    rw [stem, Text.nonEmpty?, if_neg (by simpa using h)]
    rfl

theorem naturalPath_trim (category : Category) (name : String) :
    naturalPath category (Text.trim name) = naturalPath category name := by
  rw [naturalPath, naturalPath, stem, stem, Slug.slug_trim]

/-- Natural paths are the same if category and stem are. -/
theorem naturalPath_inj {c d : Category} {name other : String} :
    naturalPath c name = naturalPath d other ↔ c = d ∧ stem name = stem other := by
  rw [naturalPath_eq, naturalPath_eq, file_inj (isPathName_stem name) (isPathName_stem other)]
  exact and_congr_right fun _ => String.append_left_inj ".md"

theorem isReserved_naturalPath (c : Category) (name : String) :
    PathRegistry.isReserved (naturalPath c name) = true ↔
      stem name = PathRegistry.reservedStem := by
  rw [naturalPath_eq, isReserved_file c.dir (slash_notMem_stem name)]

/-! ### Places -/

/-- A path of a file in the directory of a category, and in no directory below it. -/
def LiesIn (category : Category) (path : String) : Prop :=
  ∃ stem : String, stem ≠ "" ∧ '/' ∉ stem.toList ∧ path = category.dir ++ "/" ++ stem ++ ".md"

/-- The path of a file in the directory of a category whose stem is made of the characters of
slugs. -/
def SlugPath (category : Category) (path : String) : Prop :=
  ∃ stem : String, stem ≠ "" ∧ (∀ c ∈ stem.toList, Slug.IsSlugChar c) ∧
    path = category.dir ++ "/" ++ (stem ++ ".md")

theorem slugPath_naturalPath (category : Category) (name : String) :
    SlugPath category (naturalPath category name) :=
  ⟨stem name, stem_ne_empty name, fun _ => isSlugChar_of_mem_stem, naturalPath_eq category name⟩

namespace SlugPath

variable {category : Category} {path : String}

theorem liesIn (h : SlugPath category path) : LiesIn category path := by
  obtain ⟨stem, hne, hstem, rfl⟩ := h
  exact ⟨stem, hne, Slug.slash_notMem hstem, String.append_assoc.symm⟩

theorem notMem_toList (h : SlugPath category path) {c : Char}
    (hc : Text.isAlphanumeric c = false ∧ c ≠ '-' ∧ c ≠ '/' ∧ c ≠ '.') : c ∉ path.toList := by
  obtain ⟨stem, -, hstem, rfl⟩ := h
  exact notMem_toList_file hstem hc

/-- The path names a file in the directory of its category. -/
theorem exists_file (h : SlugPath category path) :
    ∃ file, IsPathName file ∧ path = category.dir ++ "/" ++ file := by
  obtain ⟨stem, -, hstem, rfl⟩ := h
  exact ⟨_, isPathName_file (Slug.slash_notMem hstem), rfl⟩

theorem category_inj {other : Category} (h : SlugPath category path) (ho : SlugPath other path) :
    category = other := by
  obtain ⟨file, hf, rfl⟩ := h.exists_file
  obtain ⟨file', hf', he⟩ := ho.exists_file
  exact ((file_inj hf hf').1 he).1

end SlugPath

end Document

end Compendium
