import Compendium.Document.Class
import Compendium.Proofs.Distinct
import Compendium.Proofs.Trim

/-!
# Features by level

The references to features of a class come in any order, with texts and records among them that are
no references.  A reference is read through the fields between its pipes, which put together again
are the reference (`ofJson?_eq_some_iff`).  The levels at which features are gained are those of the
references, each once and in ascending order (`pairwise_featureLevels`, `mem_featureLevels`), so the
references by level are all references (`flatMap_filter_level_perm`).

* `features_stand_by_level`: the part of a class or a subclass that lists its features.
-/

namespace Compendium.Document

open Compendium.Render (Style)

/-! ### References -/

/-- The identifier in a reference: the reference itself, or a field of it. -/
inductive HoldsUid (key : String) : Json → String → Prop
  | text (uid : String) : HoldsUid key (.str uid) uid
  | field {fields : List (String × Json)} {uid : String} (h : fields.lookup key = some (.str uid)) :
      HoldsUid key (.obj fields) uid

/-- The fields of an identifier: what stands between its pipes. -/
structure UidFields (uid : String) (fields : List String) : Prop where
  ne_nil : fields ≠ []
  joined : "|".intercalate fields = uid
  pipeless : ∀ field ∈ fields, '|' ∉ field.toList

theorem uidFields_iff {uid : String} {fields : List String} :
    UidFields uid fields ↔ fields = Text.splitOn '|' uid := by
  constructor
  · rintro ⟨hne, rfl, hpipe⟩
    exact (Text.splitOn_intercalate hne hpipe).symm
  · rintro rfl
    refine ⟨?_, Text.intercalate_splitOn '|' uid, ?_⟩
    · rw [Text.splitOn, Ne, List.map_eq_nil_iff]
      exact List.splitOn_ne_nil '|' uid.toList
    · intro field hfield
      obtain ⟨piece, hpiece, rfl⟩ := List.mem_map.1 hfield
      rw [String.toList_ofList]
      exact Chars.sep_notMem_of_mem_splitOn hpiece

/-- A value that refers to a feature: the first field of its identifier is not blank and names the
feature, and the field with the number of the level is an integer, white space around it apart. -/
def FeatureRef.Refers (key : String) (levelField : Nat) (v : Json) (f : FeatureRef) : Prop :=
  ∃ uid fields name level, HoldsUid key v uid ∧ UidFields uid fields ∧
    fields[0]? = some name ∧ Text.isBlank name = false ∧ f.name = Text.trim name ∧
    fields[levelField]? = some level ∧
    Decimal.parseInt64? (Text.trim level).toList = some f.level

/-- The identifier in a reference, if it has one. -/
def uid? (key : String) : Json → Option String
  | .str uid => some uid
  | .obj fields => (fields.lookup key).bind Json.str?
  | _ => none

theorem uid?_eq_some_iff {key : String} {v : Json} {uid : String} :
    uid? key v = some uid ↔ HoldsUid key v uid := by
  constructor
  · intro h
    cases v with
    | str t =>
      obtain rfl : t = uid := Option.some.inj h
      exact .text t
    | obj fields =>
      obtain ⟨w, hw, hstr⟩ := Option.bind_eq_some_iff.1 h
      cases w with
      | str t =>
        obtain rfl : t = uid := Option.some.inj hstr
        exact .field hw
      | _ => cases hstr
    | _ => cases h
  · rintro (_ | h)
    · rfl
    · simp [uid?, h, Json.str?]

namespace FeatureRef

variable {key : String} {levelField : Nat} {v : Json} {f : FeatureRef}

/-- What is read, step by step: the identifier, its fields, the name and the level. -/
theorem ofJson?_eq (key : String) (levelField : Nat) (v : Json) :
    ofJson? key levelField v = (uid? key v).bind fun uid =>
      (Text.nonEmpty? (Text.trim ((Text.splitOn '|' uid).headD ""))).bind fun name =>
        ((Text.splitOn '|' uid)[levelField]?).bind fun level =>
          (Decimal.parseInt64? (Text.trim level).toList).map fun n => ⟨name, n⟩ := by
  have hbind : ∀ {α β : Type} (x : Option α) (g : α → β), (x.bind fun a => some (g a)) = x.map g :=
    fun x g => by cases x <;> rfl
  simp only [← hbind]
  cases v <;> rfl

/-- **Exactly what refers to a feature is read.** -/
theorem ofJson?_eq_some_iff : ofJson? key levelField v = some f ↔ Refers key levelField v f := by
  have hfirst : ∀ uid name, (Text.splitOn '|' uid)[0]? = some name ↔
      (Text.splitOn '|' uid).headD "" = name := by
    intro uid name
    obtain ⟨first, rest, hs⟩ := List.exists_cons_of_ne_nil (uidFields_iff.2 rfl).ne_nil
    rw [hs]
    exact Option.some_inj
  simp only [ofJson?_eq, Option.bind_eq_some_iff, Option.map_eq_some_iff, uid?_eq_some_iff,
    Text.nonEmpty?_trim_eq_some_iff, Refers, uidFields_iff]
  constructor
  · rintro ⟨uid, huid, _, ⟨hblank, rfl⟩, level, hlevel, n, hn, rfl⟩
    exact ⟨uid, _, _, level, huid, rfl, (hfirst uid _).2 rfl, hblank, rfl, hlevel, hn⟩
  · rintro ⟨uid, _, name, level, huid, rfl, hhead, hblank, hf, hlevel, hn⟩
    obtain rfl := (hfirst uid name).1 hhead
    exact ⟨uid, huid, f.name, ⟨hblank, hf⟩, level, hlevel, f.level, hn, rfl⟩

end FeatureRef

/-! ### Levels -/

section Levels

variable {refs : List FeatureRef}

theorem mem_featureLevels {n : Int} : n ∈ featureLevels refs ↔ ∃ f ∈ refs, f.level = n := by
  rw [featureLevels, Text.mem_eraseReps, List.mem_mergeSort, List.mem_map]

theorem pairwise_featureLevels (refs : List FeatureRef) :
    (featureLevels refs).Pairwise (· < ·) := by
  have hsorted : ((refs.map FeatureRef.level).mergeSort fun a b => a ≤ b).Pairwise (· ≤ ·) :=
    Text.pairwise_mergeSort_decide (r := (· ≤ ·)) (fun _ _ _ => Int.le_trans) Int.le_total _
  refine (Text.pairwise_eraseReps (fun a b => Int.le_antisymm) hsorted).imp ?_
  rintro a b ⟨hab, hne⟩
  omega

/-- The references of some levels, level by level, are all references of these levels. -/
theorem flatMap_filter_level_perm {levels : List Int} (h : levels.Nodup)
    (refs : List FeatureRef) :
    (levels.flatMap fun n => refs.filter fun f => f.level = n).Perm
      (refs.filter fun f => levels.contains f.level) := by
  induction levels with
  | nil => simp
  | cons n rest ih =>
    obtain ⟨hn, hrest⟩ := List.nodup_cons.1 h
    have hlevel : (refs.filter fun f => (n :: rest).contains f.level).filter
        (fun f => f.level = n) = refs.filter fun f => f.level = n := by
      rw [List.filter_filter]
      refine List.filter_congr fun f _ => ?_
      by_cases hf : f.level = n <;> simp [hf]
    have hothers : (refs.filter fun f => (n :: rest).contains f.level).filter
        (fun f => !decide (f.level = n)) = refs.filter fun f => rest.contains f.level := by
      rw [List.filter_filter]
      refine List.filter_congr fun f _ => ?_
      by_cases hf : f.level = n <;> simp [hf, hn]
    have hsplit := List.filter_append_perm (fun f : FeatureRef => decide (f.level = n))
      (refs.filter fun f => (n :: rest).contains f.level)
    rw [hlevel, hothers] at hsplit
    rw [List.flatMap_cons]
    exact ((ih hrest).append_left _).trans hsplit

end Levels

/-! ### The part of a document -/

/-- A bullet that shows the features of one level. -/
def levelBullet (s : Style) (level : Int) (refs : List FeatureRef) : String :=
  "- **" ++ Phrase.ordinal level ++ " level**: " ++
    ", ".intercalate (refs.map fun f => s.plainText f.name)

/-- A text that shows features under a heading, a bullet for each level in ascending order, or that
is empty if there are none. -/
structure ShowsFeatures (s : Style) (refs : List FeatureRef) (text : String) : Prop where
  empty_iff : text = "" ↔ refs = []
  exists_levels : refs ≠ [] → ∃ levels : List Int, levels.Pairwise (· < ·) ∧
    (∀ n, n ∈ levels ↔ ∃ f ∈ refs, f.level = n) ∧
    (levels.flatMap fun n => refs.filter fun f => f.level = n).Perm refs ∧
    text = s.heading "Features" 0 0 ++ "\n\n" ++
      "\n".intercalate (levels.map fun n => levelBullet s n (refs.filter fun f => f.level = n))

theorem showsFeatures_featureList (s : Style) (refs : List FeatureRef) :
    ShowsFeatures s refs (featureList s refs) := by
  by_cases hrefs : refs = []
  · have hempty : featureList s [] = "" := by
      rw [featureList, featureLevels, List.map_nil, List.mergeSort_nil]
      rfl
    subst hrefs
    exact ⟨⟨fun _ => rfl, fun _ => hempty⟩, fun hne => absurd rfl hne⟩
  · have hne : featureLevels refs ≠ [] := by
      obtain ⟨f, rest, rfl⟩ := List.exists_cons_of_ne_nil hrefs
      exact List.ne_nil_of_mem (mem_featureLevels.2 ⟨f, List.mem_cons_self, rfl⟩)
    have htext : featureList s refs = s.heading "Features" 0 0 ++ "\n\n" ++
        "\n".intercalate ((featureLevels refs).map fun n =>
          levelBullet s n (refs.filter fun f => f.level = n)) := by
      have hlines : Text.joined? "\n" ((featureLevels refs).map (featureLine s refs)) =
          some ("\n".intercalate ((featureLevels refs).map (featureLine s refs))) :=
        if_neg (by simpa using hne)
      rw [featureList, hlines]
      rfl
    refine ⟨⟨fun hempty => ?_, fun hnil => absurd hnil hrefs⟩, fun _ => ?_⟩
    · rw [htext] at hempty
      simp at hempty
    · have hsorted := pairwise_featureLevels refs
      have hnodup : (featureLevels refs).Nodup := hsorted.imp fun hlt heq => by omega
      have hall : (refs.filter fun f => (featureLevels refs).contains f.level) = refs :=
        List.filter_eq_self.2 fun f hf =>
          List.contains_iff_mem.2 (mem_featureLevels.2 ⟨f, hf, rfl⟩)
      have hperm := flatMap_filter_level_perm hnodup refs
      rw [hall] at hperm
      exact ⟨featureLevels refs, hsorted, fun _ => mem_featureLevels, hperm, htext⟩

/-- **The features of classes and subclasses.**  The part that lists them is empty exactly if no
element of the array refers to a feature.  Otherwise it has one bullet for each level of a
reference, in strictly ascending order, and the bullet of a level holds the plain names of the
references of that level as they come, repeated ones too, so each reference stands in one bullet.
An element refers to a feature if it is a string, or an object with one under the key, whose first
field between pipes is not blank and whose level, the fourth field for classes and the sixth one for
subclasses, is an integer of 64 bits with white space around it at most. -/
theorem features_stand_by_level (s : Style) (r : Record) :
    ShowsFeatures s ((r.array "classFeatures").filterMap (FeatureRef.ofJson? "classFeature" 3))
      (PlayerClass.features s r) ∧
    ShowsFeatures s
      ((r.array "subclassFeatures").filterMap (FeatureRef.ofJson? "subclassFeature" 5))
      (Subclass.features s r) ∧
    (∀ key levelField v f, FeatureRef.ofJson? key levelField v = some f ↔
      FeatureRef.Refers key levelField v f) :=
  ⟨showsFeatures_featureList s _, showsFeatures_featureList s _,
    fun _ _ _ _ => FeatureRef.ofJson?_eq_some_iff⟩

/-- Features as strings and in objects, in the order of an array, with elements that name no feature
or no level between them. -/
theorem features_stand_by_level_fighter :
    let s := Style.make false 2
    let r : Record := ⟨[("classFeatures", .arr [.str "Indomitable|Fighter||9", .num (.int 3),
      .obj [("classFeature", .str "Fighting Style|Fighter|| 1 ")], .str "Extra Attack|Fighter",
      .str "Second Wind|Fighter||1", .str " |Fighter||2"])]⟩
    let refs := (r.array "classFeatures").filterMap (FeatureRef.ofJson? "classFeature" 3)
    refs = [⟨"Indomitable", 9⟩, ⟨"Fighting Style", 1⟩, ⟨"Second Wind", 1⟩] ∧
    ShowsFeatures s refs (PlayerClass.features s r) ∧
    PlayerClass.features s r = "## Features\n\n- **1st level**: Fighting Style, Second Wind\n" ++
      "- **9th level**: Indomitable" := by
  intro s r refs
  have hread : refs = [⟨"Indomitable", 9⟩, ⟨"Fighting Style", 1⟩, ⟨"Second Wind", 1⟩] := rfl
  have hsort : ([9, 1, 1] : List Int).mergeSort (fun a b => a ≤ b) = [1, 1, 9] := by
    simp [List.mergeSort, List.MergeSort.Internal.splitInTwo]
  have hlevels : featureLevels refs = [1, 9] := by
    rw [hread, featureLevels]
    exact congrArg List.eraseReps hsort
  refine ⟨hread, (features_stand_by_level s r).1, ?_⟩
  change featureList s refs = _
  rw [featureList, hlevels, hread]
  decide +kernel

end Compendium.Document
