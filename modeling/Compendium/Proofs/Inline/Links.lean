import Compendium.Proofs.Conversion.References
import Compendium.Proofs.Inline.Emphasis

/-!
# What links change

A text comes out the same with links and without if no tag that is met in it refers to a category
(`IsLinkless.expand_eq`).  The other way round, a link is told from the name that it shows by its
weight, the number of characters that are not white space: a link is heavier than its text in any
emphasis, and neither trimming nor the text around it evens that out.  `Outweighs` says this of two
texts at once, that they are equal unless a condition holds and differ in weight if it does, so it
passes from the tags of a text to the text (`outweighs_expand`).

Tags in tags are left out there: a tag may well make less of an argument that is a link.
-/

namespace Compendium.Inline

variable {mode : Mode} {name text : String}

/-! ### Tags that are no links -/

/-- Without a category to refer to, links make no difference to a tag. -/
theorem render_markdown_congr (h : Category.ofReferenceTag? name = none) (links links' : Bool)
    (args : List String) :
    render (.markdown links) name args = render (.markdown links') name args := by
  unfold render
  cases Kind.ofName name with
  | reference emphasis =>
    dsimp only
    rw [referenceText, referenceText, h]
    rfl
  | _ => rfl

/-- Whether no tag of a text refers to a category. -/
def IsLinkless (text : String) : Prop :=
  ∀ i ∈ tagsMet maxDepth text.toList, Category.ofReferenceTag? (String.ofList i.name) = none

theorem IsLinkless.expand_eq (h : IsLinkless text) (links links' : Bool) :
    expand (.markdown links) text = expand (.markdown links') text := by
  rw [expand, expand]
  exact congrArg String.ofList (expandTo_congr fun i hi => render_markdown_congr (h i hi) _ _)

/-! ### Weights -/

/-- The number of characters of a text that are not white space. -/
def weight (text : String) : Nat :=
  text.toList.countP fun c => !Text.isSpace c

variable {s t : String}

@[simp]
theorem weight_append (s t : String) : weight (s ++ t) = weight s + weight t := by
  rw [weight, String.toList_append]
  exact List.countP_append

theorem weight_eq_zero_iff : weight s = 0 ↔ Text.isBlank s = true := by
  simp [weight, List.countP_eq_zero, Text.isBlank, Chars.isBlank]

/-- **Trimming takes no weight away.** -/
theorem weight_trim (s : String) : weight (Text.trim s) = weight s := by
  obtain ⟨front, back, hfront, hback, hs⟩ := Chars.exists_padded s.toList
  have hblank : ∀ padding : List Char, Chars.isBlank padding = true →
      weight (String.ofList padding) = 0 := by
    intro padding h
    rwa [weight_eq_zero_iff, Text.isBlank, String.toList_ofList]
  calc weight (Text.trim s)
      = weight (String.ofList front) + weight (Text.trim s) + weight (String.ofList back) := by
        rw [hblank front hfront, hblank back hback, Nat.zero_add, Nat.add_zero]
    _ = weight (String.ofList (front ++ Chars.trim s.toList ++ back)) := by
        rw [← weight_append, ← weight_append, Text.trim, ← String.ofList_append,
          ← String.ofList_append]
    _ = weight s := by rw [hs, String.ofList_toList]

/-- Two texts that are equal unless a condition holds; if it does, the first is heavier, and the
second is not blank. -/
structure Outweighs (p : Prop) (s t : String) : Prop where
  same : ¬ p → s = t
  heavier : p → 0 < weight t ∧ weight t < weight s

namespace Outweighs

variable {p q : Prop} {s' t' : String}

theorem refl (s : String) : Outweighs False s s :=
  ⟨fun _ => rfl, False.elim⟩

theorem congr (h : Outweighs p s t) (hpq : p ↔ q) : Outweighs q s t :=
  propext hpq ▸ h

theorem eq_iff (h : Outweighs p s t) : s = t ↔ ¬ p := by
  refine ⟨?_, h.same⟩
  rintro rfl hp
  exact absurd (h.heavier hp).2 (Nat.lt_irrefl _)

theorem weight_le (h : Outweighs p s t) : weight t ≤ weight s := by
  by_cases hp : p
  · exact (h.heavier hp).2.le
  · rw [h.same hp]

theorem eq_empty_iff (h : Outweighs p s t) : s = "" ↔ t = "" := by
  by_cases hp : p
  · have hheavy := h.heavier hp
    refine iff_of_false ?_ ?_
    · rintro rfl
      exact absurd hheavy.2 (Nat.not_lt_zero _)
    · rintro rfl
      exact absurd hheavy.1 (Nat.lt_irrefl 0)
  · rw [h.same hp]

theorem append (h : Outweighs p s t) (h' : Outweighs q s' t') :
    Outweighs (p ∨ q) (s ++ s') (t ++ t') where
  same := fun hnot => by rw [h.same (hnot ∘ Or.inl), h'.same (hnot ∘ Or.inr)]
  heavier := by
    have hle := h.weight_le
    have hle' := h'.weight_le
    rw [weight_append, weight_append]
    rintro (hp | hq)
    · have hlt := h.heavier hp
      omega
    · have hlt := h'.heavier hq
      omega

theorem append_left (s : String) (h : Outweighs p s' t') : Outweighs p (s ++ s') (s ++ t') :=
  ((refl s).append h).congr (iff_of_eq (false_or p))

theorem append_right (h : Outweighs p s t) (s' : String) : Outweighs p (s ++ s') (t ++ s') :=
  (h.append (refl s')).congr (iff_of_eq (or_false p))

/-- **A text outweighs another by any of its pieces.** -/
theorem flatMap {α : Type} {l : List α} {P : α → Prop} {f g : α → List Char}
    (h : ∀ x ∈ l, Outweighs (P x) (String.ofList (f x)) (String.ofList (g x))) :
    Outweighs (∃ x ∈ l, P x) (String.ofList (l.flatMap f)) (String.ofList (l.flatMap g)) := by
  induction l with
  | nil => exact (refl "").congr (by simp)
  | cons x rest ih =>
    have hrest := ih fun y hy => h y (List.mem_cons_of_mem x hy)
    rw [List.flatMap_cons, List.flatMap_cons, String.ofList_append, String.ofList_append]
    refine ((h x List.mem_cons_self).append hrest).congr ?_
    simp only [List.mem_cons, exists_eq_or_imp]

theorem trim (h : Outweighs p s t) : Outweighs p (Text.trim s) (Text.trim t) where
  same := fun hnot => by rw [h.same hnot]
  heavier := by
    rw [weight_trim, weight_trim]
    exact h.heavier

end Outweighs

/-! ### Tags -/

/-- Whether a tag refers to a category by a name that has a slug: with links, it is a link. -/
def Invocation.IsLink (i : Invocation) : Prop :=
  Category.ofReferenceTag? (String.ofList i.name) ≠ none ∧
    Slug.slug (Text.trim (String.ofList i.first)) ≠ ""

/-- A reference is heavier as a link than set off. -/
theorem outweighs_link {emphasis : Emphasis} (he : emphasis ≠ .code) {display : String}
    (hdisplay : Text.isBlank display = false) (category : Category) (slug : String) :
    Outweighs True (documentLink display category slug) (emphasize mode emphasis display) where
  same := fun hnot => absurd trivial hnot
  heavier := by
    intro _
    obtain ⟨marks, hmarks, heq⟩ := exists_emphasize_eq mode he display
    have hlight : ∀ marks ∈ ["", "*", "**", "~~"], weight marks ≤ 2 := by decide
    have hlight := hlight marks hmarks
    have hpos : weight display ≠ 0 := by
      rw [Ne, weight_eq_zero_iff]
      exact Bool.eq_false_iff.1 hdisplay
    have hlink : weight "[" = 1 ∧ weight "](../" = 5 := by decide
    simp only [heq, documentLink, weight_append]
    omega

theorem referenceText_linked {tag target : String} {c : Category}
    (h : Category.ofReferenceTag? tag = some c) (hslug : Slug.slug target ≠ "")
    (emphasis : Emphasis)
    (display : String) : referenceText (.markdown true) emphasis tag target display =
      documentLink display c (Slug.slug target) := by
  simp [referenceText, h, Mode.markdown, hslug]

theorem isBlank_trim_eq_false (h : Text.trim text ≠ "") :
    Text.isBlank (Text.trim text) = false := by
  rw [Text.isBlank, Text.trim, String.toList_ofList]
  refine (Chars.tight_trim text.toList).isBlank_eq_false fun hnil => h ?_
  rw [Text.trim, hnil]

/-- What a reference shows is not blank if its first argument is not. -/
theorem isBlank_argumentOr (args : List String) (n : Nat) (h : Text.isBlank text = false) :
    Text.isBlank (argumentOr args n text) = false := by
  rw [argumentOr]
  cases args[n]? with
  | none => exact h
  | some arg =>
    rw [Option.map_some, Option.bind_some, Text.nonEmpty?]
    split
    · exact h
    · next hne => exact isBlank_trim_eq_false (by simpa using hne)

/-- **A tag is heavier with links exactly if it is one**, and else the same. -/
theorem outweighs_render (i : Invocation) :
    Outweighs i.IsLink
      (render (.markdown true) (String.ofList i.name) (i.args.map String.ofList))
      (render (.markdown false) (String.ofList i.name) (i.args.map String.ofList)) := by
  have hfirst : (i.args.map String.ofList).headD "" = String.ofList i.first := by
    rw [Invocation.first]
    cases i.args <;> rfl
  cases hcategory : Category.ofReferenceTag? (String.ofList i.name) with
  | none =>
    rw [render_markdown_congr hcategory true false]
    exact (Outweighs.refl _).congr (iff_of_false id fun hlink => hlink.1 hcategory)
  | some c =>
    obtain ⟨emphasis, hkind⟩ := ofName_of_referenceTag hcategory
    simp only [render, hkind, hfirst]
    by_cases hslug : Slug.slug (Text.trim (String.ofList i.first)) = ""
    · rw [referenceText_of_slug_eq_empty hslug, referenceText_of_slug_eq_empty hslug]
      exact (Outweighs.refl _).congr (iff_of_false id fun hlink => hlink.2 hslug)
    · have hlink : i.IsLink := ⟨by simp [hcategory], hslug⟩
      have hdisplay : Text.isBlank (Text.trim (String.ofList i.first)) = false :=
        isBlank_trim_eq_false fun hempty => hslug (by rw [hempty]; rfl)
      rw [referenceText_linked hcategory hslug, Mode.markdown, referenceText_unlinked]
      exact (outweighs_link (ne_code_of_ofName hkind)
        (isBlank_argumentOr _ _ hdisplay) c _).congr (iff_of_true trivial hlink)

/-! ### Flat texts -/

theorem mem_tagsMet_one {chars : List Char} {i : Invocation} :
    i ∈ tagsMet 1 chars ↔ ∃ body, .tag body ∈ segments chars ∧ Invocation.parse body = i := by
  rw [tagsMet, List.mem_flatMap]
  constructor
  · rintro ⟨piece, hp, hi⟩
    cases piece with
    | char c => cases hi
    | tag body =>
      rcases List.mem_cons.1 hi with rfl | hi
      · exact ⟨body, hp, rfl⟩
      · obtain ⟨arg, -, hi⟩ := List.mem_flatMap.1 hi
        cases hi
  · rintro ⟨body, hp, rfl⟩
    exact ⟨_, hp, List.mem_cons_self⟩

/-- Whether no tag of a text has a brace in its arguments. -/
def IsFlat (text : String) : Prop :=
  ∀ i ∈ tagsMet 1 text.toList, ∀ arg ∈ i.args, '\x7b' ∉ arg

/-- Whether a tag of a text is a link. -/
def HasLink (text : String) : Prop :=
  ∃ i ∈ tagsMet 1 text.toList, i.IsLink

/-- **A flat text is heavier with links exactly if it has one**, and else the same. -/
theorem outweighs_expand (h : IsFlat text) :
    Outweighs (HasLink text) (expand (.markdown true) text) (expand (.markdown false) text) := by
  have hdepth : maxDepth = maxDepth - 1 + 1 := rfl
  rw [expand, expand, hdepth, expandTo, expandTo]
  refine (Outweighs.flatMap (P := fun piece => ∃ body, piece = .tag body ∧
    (Invocation.parse body).IsLink) fun piece hp => ?_).congr ?_
  · cases piece with
    | char c => exact (Outweighs.refl _).congr (by simp)
    | tag body =>
      have hargs : ∀ mode, (Invocation.parse body).args.map (fun arg =>
          String.ofList (expandTo mode (maxDepth - 1) arg)) =
          (Invocation.parse body).args.map String.ofList := fun mode =>
        List.map_congr_left fun arg harg => congrArg String.ofList
          (expandTo_of_notMem mode (h _ (mem_tagsMet_one.2 ⟨body, hp, rfl⟩) arg harg))
      dsimp only
      rw [hargs, hargs, String.ofList_toList, String.ofList_toList]
      exact (outweighs_render _).congr (by simp)
  · constructor
    · rintro ⟨_, hp, body, rfl, hlink⟩
      exact ⟨_, mem_tagsMet_one.2 ⟨body, hp, rfl⟩, hlink⟩
    · rintro ⟨i, hi, hlink⟩
      obtain ⟨body, hp, rfl⟩ := mem_tagsMet_one.1 hi
      exact ⟨_, hp, body, rfl, hlink⟩

end Compendium.Inline
