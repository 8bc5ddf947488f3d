import Compendium.Index.Summary
import Compendium.Proofs.Document.SpellLine
import Compendium.Proofs.Document.Styles
import Compendium.Proofs.Inline.Links

/-!
# Links in facets

The time of an action and the prerequisite of a feat are facets made of texts in Markdown, and so a
reference is a link in them where the documents have links.  Plain text is made of a prerequisite
when this has happened already, and takes nothing away then: no tag is left to take it from.

Facets see a style through the texts that they show only (`facets_congr`).  These texts are put
together to one, which is heavier with links if any of them is: `Outweigh` carries this through
lists of texts, and so to the facet (`insert?_eq_iff`).

* `facets_linked_iff_reference`: which facets and summaries are the same with links and without.
-/

namespace Compendium.Document

open Compendium.Render (Style)
open Compendium.Inline (IsLinkless IsFlat HasLink Outweighs tagsMet)

/-! ### What facets show -/

/-- The texts that one time of an action shows. -/
def timeTexts : Json → List String
  | .str text => [text]
  | .obj fields =>
    if (Record.str? ⟨fields⟩ "unit").isSome then (Record.str? ⟨fields⟩ "condition").toList else []
  | _ => []

/-- The texts of a record that its facets show. -/
def shownTexts (r : Record) : Category → List String
  | .action => (r.array "time").flatMap timeTexts
  | .feat => (r.records "prerequisite").filterMap fun p => p.str? "other"
  | _ => []

variable {s s' : Style} {r : Record} {category : Category}

theorem timePart?_congr {v : Json} (h : ∀ text ∈ timeTexts v, s.expand text = s'.expand text) :
    timePart? s v = timePart? s' v := by
  cases v with
  | str text => exact congrArg some (h text List.mem_cons_self)
  | obj fields =>
    rw [timePart?, timePart?]
    rw [timeTexts] at h
    cases hunit : Record.str? ⟨fields⟩ "unit" with
    | none => rw [Option.map_none, Option.map_none]
    | some unit =>
      rw [hunit, Option.isSome_some, if_pos rfl] at h
      rw [Option.map_some, Option.map_some]
      cases hcondition : Record.str? ⟨fields⟩ "condition" with
      | none => rfl
      | some condition =>
        have hshown := h condition (by rw [hcondition]; exact List.mem_cons_self)
        dsimp only
        rw [hshown]
  | _ => rfl

theorem time?_congr (h : ∀ text ∈ shownTexts r .action, s.expand text = s'.expand text) :
    time? s r = time? s' r := by
  have hparts : (r.array "time").filterMap (timePart? s) =
      (r.array "time").filterMap (timePart? s') :=
    List.filterMap_congr fun v hv => timePart?_congr fun text ht =>
      h text (List.mem_flatMap.2 ⟨v, hv, ht⟩)
  rw [time?, time?, hparts]

theorem prerequisite?_congr (h : ∀ text ∈ shownTexts r .feat, s.expand text = s'.expand text) :
    Feat.prerequisite? s r = Feat.prerequisite? s' r := by
  have hneeds : ∀ p ∈ r.records "prerequisite", Feat.needs s p = Feat.needs s' p := by
    intro p hp
    have hother : (p.str? "other").map s.expand = (p.str? "other").map s'.expand :=
      Option.map_congr fun text ht => h text (List.mem_filterMap.2 ⟨p, hp, ht⟩)
    rw [Feat.needs, Feat.needs, hother]
  have htexts : (r.records "prerequisite").map (fun p => ", ".intercalate (Feat.needs s p)) =
      (r.records "prerequisite").map fun p => ", ".intercalate (Feat.needs s' p) :=
    List.map_congr_left fun p hp => by rw [hneeds p hp]
  rw [Feat.prerequisite?, Feat.prerequisite?, htexts]

/-- **Facets see a style through the texts that they show.** -/
theorem facets_congr (h : ∀ text ∈ shownTexts r category, s.expand text = s'.expand text) :
    (layoutOf category).facets s r = (layoutOf category).facets s' r := by
  cases category with
  | action =>
    exact congrArg (fun time => Facets.empty.insert? "time" (time.map .text)) (time?_congr h)
  | feat =>
    show Feat.facets s r = Feat.facets s' r
    rw [Feat.facets, Feat.facets, prerequisite?_congr h]
    simp only [Style.plainText_eq]
  | item => exact facets_item s s' r
  | equipment => exact facets_item s s' r
  | _ => rfl

/-! ### Lists of texts -/

/-- Lists of texts of which the first outweighs the second, text by text; the condition is that
of any of the texts. -/
inductive Outweigh : Prop → List String → List String → Prop where
  | nil : Outweigh False [] []
  | cons {p q : Prop} {a b : String} {as bs : List String} (h : Outweighs p a b)
    (hs : Outweigh q as bs) : Outweigh (p ∨ q) (a :: as) (b :: bs)

namespace Outweigh

variable {p q : Prop} {a b : String} {as bs cs ds : List String}

theorem congr (h : Outweigh p as bs) (hpq : p ↔ q) : Outweigh q as bs :=
  propext hpq ▸ h

theorem refl (as : List String) : Outweigh False as as := by
  induction as with
  | nil => exact nil
  | cons a as ih => exact (cons (.refl a) ih).congr or_self_iff

theorem single (h : Outweighs p a b) : Outweigh p [a] [b] :=
  (cons h nil).congr (iff_of_eq (or_false p))

theorem append (h : Outweigh p as bs) (h' : Outweigh q cs ds) :
    Outweigh (p ∨ q) (as ++ cs) (bs ++ ds) := by
  induction h with
  | nil => exact h'.congr (iff_of_eq (false_or q)).symm
  | cons h _ ih => exact (cons h ih).congr or_assoc.symm

theorem flatMap {α : Type} {l : List α} {P : α → Prop} {f g : α → List String}
    (h : ∀ x ∈ l, Outweigh (P x) (f x) (g x)) :
    Outweigh (∃ x ∈ l, P x) (l.flatMap f) (l.flatMap g) := by
  induction l with
  | nil => exact nil.congr (by simp)
  | cons x rest ih =>
    rw [List.flatMap_cons, List.flatMap_cons]
    have hrest := ih fun y hy => h y (List.mem_cons_of_mem x hy)
    refine ((h x List.mem_cons_self).append hrest).congr ?_
    simp only [List.mem_cons, exists_eq_or_imp]

/-- Empty texts may be left out: they are empty on both sides. -/
theorem filter (h : Outweigh p as bs) :
    Outweigh p (as.filter fun text => !text.isEmpty) (bs.filter fun text => !text.isEmpty) := by
  induction h with
  | nil => exact nil
  | @cons p q a b as bs h hs ih =>
    by_cases ha : a = ""
    · have hnot : ¬ p := h.eq_iff.1 (ha.trans (h.eq_empty_iff.1 ha).symm)
      rw [List.filter_cons_of_neg (by simp [ha]),
        List.filter_cons_of_neg (by simp [h.eq_empty_iff.1 ha])]
      exact ih.congr (or_iff_right hnot).symm
    · have hb : b ≠ "" := mt h.eq_empty_iff.2 ha
      rw [List.filter_cons_of_pos (by simp [ha]), List.filter_cons_of_pos (by simp [hb])]
      exact cons h ih

theorem intercalate (h : Outweigh p as bs) (sep : String) :
    Outweighs p (sep.intercalate as) (sep.intercalate bs) := by
  induction h with
  | nil => exact .refl _
  | @cons p q a b as bs h hs ih =>
    cases hs with
    | nil =>
      rw [String.intercalate_singleton, String.intercalate_singleton]
      exact h.congr (iff_of_eq (or_false p)).symm
    | cons h' hs =>
      rw [String.intercalate_cons_cons, String.intercalate_cons_cons]
      exact (h.append_right sep).append ih

theorem exists_last (h : Outweigh p as bs) (hne : as ≠ []) : ∃ q q',
    (q ∨ q' ↔ p) ∧ Outweigh q as.dropLast bs.dropLast ∧
      Outweighs q' (as.getLastD "") (bs.getLastD "") := by
  induction h with
  | nil => exact absurd rfl hne
  | @cons p q a b as bs h hs ih =>
    cases hs with
    | nil => exact ⟨False, p, or_comm, nil, h⟩
    | cons h' hs =>
      obtain ⟨q', q'', hiff, hinit, hlast⟩ := ih (List.cons_ne_nil _ _)
      exact ⟨p ∨ q', q'', or_assoc.trans (or_congr_right hiff), cons h hinit, hlast⟩

theorem conjunction (h : Outweigh p as bs) (word : String) :
    Outweighs p (Phrase.conjunction word as) (Phrase.conjunction word bs) := by
  cases h with
  | nil => exact .refl _
  | cons h hs =>
    cases hs with
    | nil => exact h.congr (iff_of_eq (or_false _)).symm
    | cons h' hs' =>
      cases hs' with
      | nil =>
        exact (((h.append_right " ").append_right word).append_right " ").append
          (h'.congr (iff_of_eq (or_false _)).symm)
      | cons h'' hs'' =>
        obtain ⟨q, q', hiff, hinit, hlast⟩ :=
          (cons h (cons h' (cons h'' hs''))).exists_last (List.cons_ne_nil _ _)
        exact (((((hinit.intercalate ", ").append_right ", ").append_right word).append_right
          " ").append hlast).congr hiff

theorem joined? (h : Outweigh p as bs) (sep : String) :
    Outweigh p (Text.joined? sep as).toList (Text.joined? sep bs).toList := by
  have hjoined := h.intercalate sep
  cases h with
  | nil => exact nil
  | cons => exact single hjoined

theorem anyOf? (h : Outweigh p as bs) :
    Outweigh p (Feat.anyOf? as).toList (Feat.anyOf? bs).toList := by
  have hjoined := h.conjunction "or"
  cases h with
  | nil => exact nil
  | cons => exact single hjoined

end Outweigh

/-! ### Times and prerequisites -/

section Shown

variable {s s' : Style} {r : Record}

theorem outweighs_shown (hs : s.links = true) (hs' : s'.links = false) {text : String}
    (h : IsFlat text) : Outweighs (HasLink text) (s.expand text) (s'.expand text) := by
  rw [Style.expand, Style.expand, Style.mode, Style.mode, hs, hs']
  exact (Inline.outweighs_expand h).trim

theorem outweigh_timePart? (hs : s.links = true) (hs' : s'.links = false) {v : Json}
    (h : ∀ text ∈ timeTexts v, IsFlat text) :
    Outweigh (∃ text ∈ timeTexts v, HasLink text) (timePart? s v).toList
      (timePart? s' v).toList := by
  cases v with
  | str text =>
    refine (Outweigh.single (outweighs_shown hs hs' (h text List.mem_cons_self))).congr ?_
    simp [timeTexts]
  | obj fields =>
    rw [timePart?, timePart?]
    rw [timeTexts] at h ⊢
    cases hunit : Record.str? ⟨fields⟩ "unit" with
    | none => exact Outweigh.nil.congr (by simp)
    | some unit =>
      rw [hunit, Option.isSome_some, if_pos rfl] at h
      cases hcondition : Record.str? ⟨fields⟩ "condition" with
      | none => exact (Outweigh.refl _).congr (by simp)
      | some condition =>
        have hflat : IsFlat condition := h condition (by rw [hcondition]; exact List.mem_cons_self)
        have hshown := (outweighs_shown hs hs' hflat).append_left ", which you take "
        exact (Outweigh.single (hshown.append_left _)).congr (by simp)
  | _ => exact Outweigh.nil.congr (by simp [timeTexts])

theorem outweigh_time? (hs : s.links = true) (hs' : s'.links = false)
    (h : ∀ text ∈ shownTexts r .action, IsFlat text) :
    Outweigh (∃ text ∈ shownTexts r .action, HasLink text) (time? s r).toList
      (time? s' r).toList := by
  have hparts := Outweigh.flatMap (l := r.array "time") fun v hv =>
    outweigh_timePart? hs hs' fun text ht => h text (List.mem_flatMap.2 ⟨v, hv, ht⟩)
  rw [← List.filterMap_eq_flatMap_toList, ← List.filterMap_eq_flatMap_toList] at hparts
  refine (hparts.filter.joined? " or ").congr ?_
  simp only [shownTexts, List.mem_flatMap, ← exists_and_right, and_assoc]
  exact ⟨fun ⟨v, hv, text, ht, hlink⟩ => ⟨text, v, hv, ht, hlink⟩,
    fun ⟨text, v, hv, ht, hlink⟩ => ⟨v, hv, text, ht, hlink⟩⟩

theorem outweigh_needs (hs : s.links = true) (hs' : s'.links = false) {p : Record}
    (h : ∀ text ∈ p.str? "other", IsFlat text) :
    Outweigh (∃ text ∈ p.str? "other", HasLink text) (Feat.needs s p) (Feat.needs s' p) := by
  rw [Feat.needs, Feat.needs]
  cases hother : p.str? "other" with
  | none =>
    rw [Option.map_none, Option.map_none]
    exact (Outweigh.refl _).congr (by simp)
  | some text =>
    rw [Option.map_some, Option.map_some]
    have hshown := Outweigh.single (outweighs_shown hs hs' (h text hother))
    exact ((Outweigh.refl _).append hshown).congr (by simp)

theorem outweigh_prerequisite? (hs : s.links = true) (hs' : s'.links = false)
    (h : ∀ text ∈ shownTexts r .feat, IsFlat text) :
    Outweigh (∃ text ∈ shownTexts r .feat, HasLink text) (Feat.prerequisite? s r).toList
      (Feat.prerequisite? s' r).toList := by
  have halternatives := Outweigh.flatMap (l := r.records "prerequisite") fun p hp =>
    Outweigh.single ((outweigh_needs hs hs' fun text ht =>
      h text (List.mem_filterMap.2 ⟨p, hp, ht⟩)).intercalate ", ")
  rw [← List.map_eq_flatMap, ← List.map_eq_flatMap] at halternatives
  refine halternatives.filter.anyOf?.congr ?_
  simp only [shownTexts, List.mem_filterMap, ← exists_and_right, and_assoc]
  exact ⟨fun ⟨p, hp, text, ht, hlink⟩ => ⟨text, p, hp, ht, hlink⟩,
    fun ⟨text, p, hp, ht, hlink⟩ => ⟨p, hp, text, ht, hlink⟩⟩

end Shown

/-! ### Facets and summaries -/

section Single

variable {p : Prop} {o o' : Option String} {a b : String}

/-- Texts that may be missing are the same, or neither is blank and the first is heavier. -/
theorem Outweigh.option_cases (h : Outweigh p o.toList o'.toList) : (¬ p ∧ o = o') ∨
    ∃ a b, o = some a ∧ o' = some b ∧ Text.isBlank a = false ∧ Text.isBlank b = false ∧
      p ∧ Outweighs p a b := by
  cases o with
  | none =>
    cases o' with
    | none =>
      cases h
      exact Or.inl ⟨id, rfl⟩
    | some b => cases h
  | some a =>
    cases o' with
    | none => cases h
    | some b =>
      have ha : Outweighs p a b := by
        cases h with
        | cons h hs =>
          cases hs
          exact h.congr (iff_of_eq (or_false _)).symm
      by_cases hp : p
      · obtain ⟨hb, hlt⟩ := ha.heavier hp
        refine Or.inr ⟨a, b, rfl, rfl, ?_, ?_, hp, ha⟩
        · rw [← Bool.not_eq_true, ← Inline.weight_eq_zero_iff]
          omega
        · rw [← Bool.not_eq_true, ← Inline.weight_eq_zero_iff]
          omega
      · exact Or.inl ⟨hp, congrArg some (ha.same hp)⟩

theorem isKept_text (h : Text.isBlank a = false) : (Facet.text a).isKept = true := by
  rw [Facet.isKept, h, Bool.not_false]

/-- **A facet tells links from their names.** -/
theorem insert?_eq_iff (f : Facets) (key : String) (h : Outweigh p o.toList o'.toList) :
    f.insert? key (o.map .text) = f.insert? key (o'.map .text) ↔ ¬ p := by
  rcases h.option_cases with ⟨hp, rfl⟩ | ⟨a, b, rfl, rfl, ha, hb, hp, hab⟩
  · exact iff_of_true rfl hp
  · refine iff_of_false (fun heq => ?_) (not_not.2 hp)
    have hget : (f.insert key (.text a)).get? key = (f.insert key (.text b)).get? key :=
      congrArg (Facets.get? · key) heq
    rw [f.get?_insert_self (isKept_text ha), f.get?_insert_self (isKept_text hb),
      Option.some.injEq, Facet.text.injEq, hab.eq_iff] at hget
    exact hget hp

theorem summary_time (ha : Text.isBlank a = false) :
    Summary.ofFacets .action (Facets.empty.insert? "time" (some (.text a))) = Text.trim a := by
  rw [Facets.insert?, Facets.insert, if_pos (isKept_text ha)]
  rfl

theorem summary_prerequisite (ha : Text.isBlank a = false) :
    Summary.ofFacets .feat (Facets.empty.insert? "prerequisite" (some (.text a))) =
      Text.trim ("Prerequisite: " ++ a) := by
  rw [Facets.insert?, Facets.insert, if_pos (isKept_text ha)]
  rfl

theorem summary_time_eq_iff (h : Outweigh p o.toList o'.toList) :
    Summary.ofFacets .action (Facets.empty.insert? "time" (o.map .text)) =
      Summary.ofFacets .action (Facets.empty.insert? "time" (o'.map .text)) ↔ ¬ p := by
  rcases h.option_cases with ⟨hp, rfl⟩ | ⟨a, b, rfl, rfl, ha, hb, -, hab⟩
  · exact iff_of_true rfl hp
  · rw [Option.map_some, Option.map_some, summary_time ha, summary_time hb]
    exact hab.trim.eq_iff

theorem summary_prerequisite_eq_iff (h : Outweigh p o.toList o'.toList) :
    Summary.ofFacets .feat (Facets.empty.insert? "prerequisite" (o.map .text)) =
      Summary.ofFacets .feat (Facets.empty.insert? "prerequisite" (o'.map .text)) ↔ ¬ p := by
  rcases h.option_cases with ⟨hp, rfl⟩ | ⟨a, b, rfl, rfl, ha, hb, -, hab⟩
  · exact iff_of_true rfl hp
  · rw [Option.map_some, Option.map_some, summary_prerequisite ha, summary_prerequisite hb]
    exact (hab.append_left "Prerequisite: ").trim.eq_iff

end Single

/-- In a prerequisite without braces, nothing is left for plain text to take away. -/
theorem facets_feat_of_notMem {s : Style} {r : Record}
    (h : ∀ text ∈ Feat.prerequisite? s r, '\x7b' ∉ text.toList) :
    Feat.facets s r = (Facets.empty.insert? "feat_category" ((Feat.kind? r).map .text)).insert?
      "prerequisite" ((Feat.prerequisite? s r).map .text) := by
  have htexts : (Feat.prerequisite? s r).map (fun text => Facet.text (s.plainText text)) =
      (Feat.prerequisite? s r).map Facet.text := by
    refine Option.map_congr fun text ht => ?_
    rw [Style.plainText, Inline.expand, Inline.expandTo_of_notMem _ (h text ht),
      String.ofList_toList]
  rw [Feat.facets, htexts]

theorem facets_feat_prerequisite {s : Style} {r : Record} {text : String}
    (hkind : Feat.kind? r = none) (h : Feat.prerequisite? s r = some text)
    (hbrace : '\x7b' ∉ text.toList) : (layoutOf .feat).facets s r =
      Facets.empty.insert? "prerequisite" (some (.text text)) := by
  have hfacets : (layoutOf .feat).facets s r = _ := facets_feat_of_notMem fun text' h' => by
    rw [h, Option.mem_some_iff] at h'
    exact h' ▸ hbrace
  rw [hfacets, hkind, h, Option.map_none, Option.map_some]
  rfl

theorem facets_action_time {s : Style} {r : Record} {text : String}
    (h : time? s r = some text) : (layoutOf .action).facets s r =
      Facets.empty.insert? "time" (some (.text text)) :=
  congrArg (fun o : Option String => Facets.empty.insert? "time" (o.map .text)) h

/-! ### Links on and off -/

/-- **Facets and summaries with links and without.**  They are the same if no tag that is met in
the texts they show refers to a category.  If these texts have no tags in tags, and nothing is left
for plain text to take away, the facets are the same exactly if no tag is a link, and so are the
summaries, where they are not about the category of a feat. -/
theorem facets_linked_iff_reference (s s' : Style) (category : Category) (r : Record)
    (hs : s.links = true) (hs' : s'.links = false) :
    let facets := (layoutOf category).facets s r
    let facets' := (layoutOf category).facets s' r
    ((∀ text ∈ shownTexts r category, IsLinkless text) →
      facets = facets' ∧ Summary.ofFacets category facets = Summary.ofFacets category facets') ∧
    ((∀ text ∈ shownTexts r category, IsFlat text) →
      (category = .feat → ∀ t ∈ [s, s'], ∀ text ∈ Feat.prerequisite? t r, '\x7b' ∉ text.toList) →
      (facets = facets' ↔ ∀ text ∈ shownTexts r category, ¬ HasLink text) ∧
      ((category = .feat → Feat.kind? r = none) →
        (Summary.ofFacets category facets = Summary.ofFacets category facets' ↔
          ∀ text ∈ shownTexts r category, ¬ HasLink text))) := by
  intro facets facets'
  constructor
  · intro h
    have hfacets : facets = facets' := facets_congr fun text ht => by
      rw [Style.expand, Style.expand, Style.mode, Style.mode,
        (h text ht).expand_eq s.links s'.links]
    exact ⟨hfacets, congrArg _ hfacets⟩
  · intro hflat hbraces
    have hnone : (∀ text ∈ shownTexts r category, ¬ HasLink text) ↔
        ¬ ∃ text ∈ shownTexts r category, HasLink text := by simp
    rw [hnone]
    cases category with
    | action =>
      have htime := outweigh_time? hs hs' hflat
      exact ⟨insert?_eq_iff .empty "time" htime, fun _ => summary_time_eq_iff htime⟩
    | feat =>
      have hprerequisite := outweigh_prerequisite? hs hs' hflat
      have hon : facets = _ := facets_feat_of_notMem (hbraces rfl s (by simp))
      have hoff : facets' = _ := facets_feat_of_notMem (hbraces rfl s' (by simp))
      rw [hon, hoff]
      refine ⟨insert?_eq_iff _ "prerequisite" hprerequisite, fun hkind => ?_⟩
      rw [hkind rfl, Option.map_none]
      exact summary_prerequisite_eq_iff hprerequisite
    | _ =>
      have hfacets : facets = facets' := facets_congr fun text ht => by cases ht
      have hempty : ¬ ∃ text ∈ ([] : List String), HasLink text := by simp
      exact ⟨iff_of_true hfacets hempty, fun _ => iff_of_true (congrArg _ hfacets) hempty⟩

/-- A feat behind another one, which is a link, and an action once, set off in both styles. -/
theorem facets_linked_iff_reference_grappler :
    let on := Style.make true 2
    let off := Style.make false 2
    let brawler : Record :=
      ⟨[("prerequisite", .arr [.obj [("other", .str "\x7b@feat Grappler\x7d")]])]⟩
    let single : Record := ⟨[("time", .arr [.str "\x7b@b \x7b@skill Arcana\x7d once\x7d"])]⟩
    (layoutOf .action).facets on single = (layoutOf .action).facets off single ∧
    (layoutOf .feat).facets on brawler ≠ (layoutOf .feat).facets off brawler ∧
    Summary.ofFacets .feat ((layoutOf .feat).facets on brawler) ≠
      Summary.ofFacets .feat ((layoutOf .feat).facets off brawler) := by
  intro on off brawler single
  have hlinkless : ∀ text ∈ shownTexts single .action, IsLinkless text := by
    refine List.forall_mem_singleton.2 ?_
    unfold IsLinkless
    decide +kernel
  have htags : tagsMet 1 "\x7b@feat Grappler\x7d".toList =
      [⟨"feat".toList, ["Grappler".toList]⟩] := by decide +kernel
  have hflat : ∀ text ∈ shownTexts brawler .feat, IsFlat text := by
    refine List.forall_mem_singleton.2 ?_
    rw [IsFlat, htags]
    decide
  have hlink : HasLink "\x7b@feat Grappler\x7d" := by
    rw [HasLink, htags]
    exact ⟨_, List.mem_cons_self, by decide, by decide +kernel⟩
  have hon : Feat.prerequisite? on brawler = some "[Grappler](../feats/grappler.md)" := by
    decide +kernel
  have hoff : Feat.prerequisite? off brawler = some "*Grappler*" := by decide +kernel
  have hbraces : ∀ t ∈ [on, off], ∀ text ∈ Feat.prerequisite? t brawler, '\x7b' ∉ text.toList := by
    intro t ht text htext
    rcases List.mem_pair.1 ht with rfl | rfl
    · obtain rfl := Option.mem_some_iff.1 (hon ▸ htext)
      decide
    · obtain rfl := Option.mem_some_iff.1 (hoff ▸ htext)
      decide
  obtain ⟨hfacets, hsummary⟩ := (facets_linked_iff_reference on off .feat brawler rfl rfl).2 hflat
    fun _ => hbraces
  have hnot : ¬ ∀ text ∈ shownTexts brawler .feat, ¬ HasLink text := fun h =>
    h _ List.mem_cons_self hlink
  exact ⟨((facets_linked_iff_reference on off .action single rfl rfl).1 hlinkless).1,
    mt hfacets.1 hnot, mt (hsummary fun _ => rfl).1 hnot⟩

/-- **A feat for elves**, and an action that takes the time of another: with links, their facets
are links, and so are their summaries. -/
theorem facets_follow_links :
    let on := Style.make true 2
    let off := Style.make false 2
    let elven : Record :=
      ⟨[("prerequisite", .arr [.obj [("other", .str "\x7b@race Elf\x7d")]])]⟩
    let ready : Record := ⟨[("time", .arr [.str "\x7b@action dash\x7d"])]⟩
    let prerequisite (s : Style) := (layoutOf .feat).facets s elven
    let time (s : Style) := (layoutOf .action).facets s ready
    ((prerequisite on).get? "prerequisite" = some (.text "[Elf](../species/elf.md)") ∧
      (prerequisite off).get? "prerequisite" = some (.text "*Elf*") ∧
      Summary.ofFacets .feat (prerequisite on) = "Prerequisite: [Elf](../species/elf.md)" ∧
      Summary.ofFacets .feat (prerequisite off) = "Prerequisite: *Elf*") ∧
    (time on).get? "time" = some (.text "[dash](../actions/dash.md)") ∧
      (time off).get? "time" = some (.text "dash") ∧
      Summary.ofFacets .action (time on) = "[dash](../actions/dash.md)" ∧
      Summary.ofFacets .action (time off) = "dash" := by
  intro on off elven ready prerequisite time
  have helfOn : Feat.prerequisite? on elven = some "[Elf](../species/elf.md)" := by decide +kernel
  have helfOff : Feat.prerequisite? off elven = some "*Elf*" := by decide +kernel
  have hdashOn : time? on ready = some "[dash](../actions/dash.md)" := by decide +kernel
  have hdashOff : time? off ready = some "dash" := by decide +kernel
  have hprerequisiteOn : prerequisite on = _ := facets_feat_prerequisite rfl helfOn (by decide)
  have hprerequisiteOff : prerequisite off = _ := facets_feat_prerequisite rfl helfOff (by decide)
  have htimeOn : time on = _ := facets_action_time hdashOn
  have htimeOff : time off = _ := facets_action_time hdashOff
  rw [hprerequisiteOn, hprerequisiteOff, htimeOn, htimeOff]
  exact ⟨⟨Facets.empty.get?_insert_self rfl, Facets.empty.get?_insert_self rfl, by decide +kernel,
      by decide +kernel⟩,
    Facets.empty.get?_insert_self rfl, Facets.empty.get?_insert_self rfl, by decide +kernel,
    by decide +kernel⟩

end Compendium.Document
