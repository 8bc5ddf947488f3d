import Compendium.Inline.Tag
import Compendium.Proofs.Assoc
import Compendium.Proofs.Markdown.Target
import Compendium.Proofs.Trim

/-!
# What tags show

Tags pick arguments, drop, trim and reformat them and set signs around them.  Whatever the kind of
a tag, its text is made of characters of its arguments and of letters, numbers and a few signs
that it brings with it (`render_madeOf`): a link's target is percent-encoded, a slug holds letters
and numbers, and all phrases are fixed.
-/

namespace Compendium.Inline

/-- A letter, a number or one of the signs that tags bring with them. -/
def IsOwn (c : Char) : Prop :=
  Text.isAlphanumeric c = true ∨ c ∈ " *~\x60[]()./:+-%".toList

instance : DecidablePred IsOwn := fun _ =>
  inferInstanceAs (Decidable (_ ∨ _))

/-- Whether a text holds nothing but such characters. -/
def isOwnText (s : String) : Bool :=
  s.toList.all fun c => IsOwn c

/-- A text made of characters of other texts and of those that tags bring with them. -/
def MadeOf (parts : List String) (s : String) : Prop :=
  ∀ c ∈ s.toList, IsOwn c ∨ ∃ part ∈ parts, c ∈ part.toList

variable {parts : List String} {s t : String}

/-! ### Putting texts together -/

theorem madeOf_of_forall (h : ∀ c ∈ s.toList, IsOwn c) : MadeOf parts s :=
  fun c hc => Or.inl (h c hc)

theorem madeOf_own (h : isOwnText s = true) : MadeOf parts s :=
  madeOf_of_forall fun c hc => of_decide_eq_true (List.all_eq_true.1 h c hc)

theorem madeOf_empty : MadeOf parts "" :=
  madeOf_own (by decide)

theorem madeOf_of_mem (h : s ∈ parts) : MadeOf parts s :=
  fun _ hc => Or.inr ⟨s, h, hc⟩

theorem MadeOf.append (hs : MadeOf parts s) (ht : MadeOf parts t) : MadeOf parts (s ++ t) := by
  intro c hc
  rw [String.toList_append, List.mem_append] at hc
  exact hc.elim (hs c) (ht c)

theorem MadeOf.between {front back : String} (hs : MadeOf parts s)
    (hfront : isOwnText front = true) (hback : isOwnText back = true) :
    MadeOf parts (front ++ s ++ back) :=
  ((madeOf_own hfront).append hs).append (madeOf_own hback)

theorem MadeOf.of_subset (hs : MadeOf parts s) (h : ∀ c ∈ t.toList, c ∈ s.toList) :
    MadeOf parts t :=
  fun c hc => hs c (h c hc)

theorem MadeOf.trim (hs : MadeOf parts s) : MadeOf parts (Text.trim s) := by
  refine hs.of_subset fun c hc => ?_
  rw [Text.trim, String.toList_ofList] at hc
  exact Chars.mem_of_mem_trim hc

theorem madeOf_intercalate {pieces : List String} (hs : MadeOf parts s)
    (h : ∀ piece ∈ pieces, MadeOf parts piece) : MadeOf parts (s.intercalate pieces) := by
  intro c hc
  rw [String.toList_intercalate] at hc
  rcases Chars.mem_intercalate hc with hc | ⟨_, hp, hc⟩
  · exact hs c hc
  · obtain ⟨piece, hpiece, rfl⟩ := List.mem_map.1 hp
    exact h piece hpiece c hc

/-! ### Parts of tags -/

theorem madeOf_argumentOr (args : List String) (n : Nat) (hs : MadeOf args s) :
    MadeOf args (argumentOr args n s) := by
  unfold argumentOr
  cases harg : args[n]? with
  | none => exact hs
  | some arg =>
    have htrim : MadeOf args (Text.trim arg) := (madeOf_of_mem (List.mem_of_getElem? harg)).trim
    rw [Option.map_some, Option.bind_some, Text.nonEmpty?]
    split
    · exact hs
    · exact htrim

theorem madeOf_codeSpan (hs : MadeOf parts s) : MadeOf parts (Markdown.codeSpan s) := by
  unfold Markdown.codeSpan
  split
  · exact madeOf_empty
  · have hticks : MadeOf parts (Text.replicate (Markdown.tickCount s) Markdown.tick) := by
      refine madeOf_of_forall fun c hc => ?_
      rw [Text.replicate, String.toList_ofList] at hc
      rw [List.eq_of_mem_replicate hc]
      decide
    have hspace : MadeOf parts " " := madeOf_own (by decide)
    dsimp only
    split
    · exact (((hticks.append hspace).append hs).append hspace).append hticks
    · exact (((hticks.append madeOf_empty).append hs).append madeOf_empty).append hticks

theorem madeOf_emphasize (mode : Mode) (emphasis : Emphasis) (hs : MadeOf parts s) :
    MadeOf parts (emphasize mode emphasis s) := by
  unfold emphasize
  split
  · exact hs
  · cases emphasis with
    | bold => exact hs.between (by decide) (by decide)
    | italic => exact hs.between (by decide) (by decide)
    | strike => exact hs.between (by decide) (by decide)
    | code => exact madeOf_codeSpan hs
    | plain => exact hs

theorem madeOf_slug (target : String) : MadeOf parts (Slug.slug target) := by
  refine madeOf_of_forall fun c hc => ?_
  rcases Slug.isSlugChar_of_mem_slug hc with hc | rfl
  · exact Or.inl hc
  · decide

theorem madeOf_referenceText (mode : Mode) (emphasis : Emphasis) (tag target : String)
    (hs : MadeOf parts s) : MadeOf parts (referenceText mode emphasis tag target s) := by
  unfold referenceText
  cases Category.ofReferenceTag? tag with
  | none => exact madeOf_emphasize mode emphasis hs
  | some category =>
    dsimp only
    split
    · have hdir : MadeOf parts category.dir := madeOf_own (by cases category <;> decide)
      have hslash : MadeOf parts "/" := madeOf_own (by decide)
      have hend : MadeOf parts ".md)" := madeOf_own (by decide)
      exact ((((hs.between (by decide) (by decide)).append hdir).append hslash).append
        (madeOf_slug target)).append hend
    · exact madeOf_emphasize mode emphasis hs

theorem madeOf_signed (n : Int) : MadeOf parts (Phrase.signed n) := by
  have hnat : ∀ m : Nat, MadeOf parts (toString m) := fun m =>
    madeOf_of_forall fun _ hc => Or.inl (Text.isAlphanumeric_of_mem_digits hc)
  have hplus : MadeOf parts "+" := madeOf_own (by decide)
  have hminus : MadeOf parts "-" := madeOf_own (by decide)
  have hint : MadeOf parts (toString n) := by
    cases n with
    | ofNat m => exact hnat m
    | negSucc m => exact hminus.append (hnat (m + 1))
  unfold Phrase.signed
  split
  · exact hint
  · exact hplus.append hint

theorem madeOf_bonusText (hs : MadeOf parts s) : MadeOf parts (bonusText s) := by
  unfold bonusText
  split
  · next n _ => exact madeOf_signed n
  · split
    · exact madeOf_empty
    · split
      · exact hs
      · have hplus : MadeOf parts "+" := madeOf_own (by decide)
        exact hplus.append hs

theorem madeOf_attackPhrase {phrases : List (String × String)} {generic : String}
    (hphrases : ∀ p ∈ phrases, isOwnText p.2 = true) (hgeneric : isOwnText generic = true)
    (text : String) : MadeOf parts (attackPhrase phrases generic text) := by
  have hcolon : MadeOf parts ":" := madeOf_own (by decide)
  refine MadeOf.append ?_ hcolon
  cases hl : phrases.lookup (",".intercalate (attackCodes text)) with
  | none => exact madeOf_own hgeneric
  | some phrase =>
    exact madeOf_own (hphrases _ (Assoc.mem_of_lookup hl))

theorem madeOf_fullName (hs : MadeOf parts s) : MadeOf parts (Ability.fullName s) := by
  unfold Ability.fullName
  split
  · exact madeOf_own (by decide)
  · exact madeOf_own (by decide)
  · exact madeOf_own (by decide)
  · exact madeOf_own (by decide)
  · exact madeOf_own (by decide)
  · exact madeOf_own (by decide)
  · exact hs

theorem madeOf_of_mem_commaParts (hs : MadeOf parts s) (ht : t ∈ commaParts s) :
    MadeOf parts t := by
  obtain ⟨piece, hp, rfl⟩ := List.mem_map.1 (List.mem_filter.1 ht).1
  obtain ⟨chars, hchars, rfl⟩ := List.mem_map.1 hp
  refine (hs.of_subset fun c hc => ?_).trim
  rw [String.toList_ofList] at hc
  exact Chars.mem_of_mem_splitOn hchars hc

theorem madeOf_savePhrase (hs : MadeOf parts s) : MadeOf parts (savePhrase s) := by
  unfold savePhrase
  dsimp only
  split
  · exact madeOf_own (by decide)
  · have hor : MadeOf parts " or " := madeOf_own (by decide)
    have hthrow : MadeOf parts " Saving Throw:" := madeOf_own (by decide)
    refine (madeOf_intercalate hor fun piece hp => ?_).append hthrow
    obtain ⟨part, hpart, rfl⟩ := List.mem_map.1 hp
    exact madeOf_fullName (madeOf_of_mem_commaParts hs hpart)

theorem madeOf_link (hs : MadeOf parts s) (ht : MadeOf parts t) :
    MadeOf parts (Markdown.link s t) := by
  have htarget : MadeOf parts (Markdown.encodeTarget t) := by
    intro c hc
    rcases Markdown.mem_encodeTarget hc with hc | rfl | hc
    · exact ht c hc
    · exact Or.inl (by decide)
    · exact Or.inl (Or.inl (Text.isAlphanumeric_of_isAlphanum hc))
  have hend : MadeOf parts ")" := madeOf_own (by decide)
  exact ((hs.between (by decide) (by decide)).append htarget).append hend

/-- What holds of the kinds in the table and of the four others holds of every tag's kind. -/
theorem Kind.ofName_of_all {P : Kind → Bool} (hnamed : namedKinds.all (fun p => P p.2) = true)
    (hothers : [.reference .italic, .reference .plain, .passThrough, .unknown].all P = true)
    (name : String) : P (Kind.ofName name) = true := by
  have hother : ∀ kind ∈ [.reference .italic, .reference .plain, .passThrough, .unknown],
      P kind = true := List.all_eq_true.1 hothers
  unfold Kind.ofName
  split
  · next kind hl => exact List.all_eq_true.1 hnamed _ (Assoc.mem_of_lookup hl)
  · split_ifs
    all_goals exact hother _ (by simp)

theorem isOwnText_of_ofName {name text : String} (h : Kind.ofName name = .literal text) :
    isOwnText text = true := by
  have hall := Kind.ofName_of_all (P := fun
      | .literal text => isOwnText text
      | _ => true) (by decide) (by decide) name
  rwa [h] at hall

/-! ### Whole tags -/

/-- **A tag shows characters of its arguments and its own.** -/
theorem render_madeOf (mode : Mode) (name : String) (args : List String) :
    MadeOf args (render mode name args) := by
  have hfirst : MadeOf args (Text.trim (args.headD "")) := by
    cases args with
    | nil => exact madeOf_empty.trim
    | cons arg args => exact (madeOf_of_mem List.mem_cons_self).trim
  unfold render
  cases hk : Kind.ofName name with
  | wrap emphasis => exact madeOf_emphasize mode emphasis hfirst
  | reference emphasis =>
    exact madeOf_referenceText mode emphasis name _ (madeOf_argumentOr args _ hfirst)
  | dice => exact madeOf_emphasize mode .code hfirst
  | scaleDice => exact madeOf_emphasize mode .code (madeOf_argumentOr args 2 hfirst)
  | hit => exact madeOf_bonusText hfirst
  | dc =>
    dsimp only
    split
    · exact madeOf_own (by decide)
    · have hdc : MadeOf args "DC " := madeOf_own (by decide)
      exact hdc.append hfirst
  | attack => exact madeOf_emphasize mode .italic (madeOf_attackPhrase (by decide) (by decide) _)
  | attackRoll =>
    exact madeOf_emphasize mode .italic (madeOf_attackPhrase (by decide) (by decide) _)
  | save => exact madeOf_emphasize mode .italic (madeOf_savePhrase hfirst)
  | recharge =>
    dsimp only
    split
    · exact madeOf_own (by decide)
    · exact hfirst.between (by decide) (by decide)
  | chance =>
    dsimp only
    split
    · exact madeOf_empty
    · have hpercent : MadeOf args "%" := madeOf_own (by decide)
      exact hfirst.append hpercent
  | marker m =>
    have hphrase : MadeOf args m.phrase := madeOf_own (by cases m <;> decide)
    have hspace : MadeOf args " " := madeOf_own (by decide)
    exact (madeOf_emphasize mode .italic hphrase).append hspace
  | literal text => exact madeOf_own (isOwnText_of_ofName hk)
  | passThrough => exact hfirst
  | unknown => exact hfirst
  | link =>
    have htarget : MadeOf args (Text.trim (args[1]?.getD "")) := by
      cases ht : args[1]? with
      | none => exact madeOf_empty.trim
      | some arg => exact (madeOf_of_mem (List.mem_of_getElem? ht)).trim
    dsimp only
    split
    · exact hfirst
    · refine madeOf_link ?_ htarget
      split
      · exact htarget
      · exact hfirst

end Compendium.Inline
