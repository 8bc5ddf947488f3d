import Compendium.Proofs.Inline.Composition
import Compendium.Proofs.Inline.PlainText
import Compendium.Proofs.Inline.TagText

/-!
# Emphasis hides nothing

Many tags give the same text in Markdown and in plain text, up to the marks that set it off.  Their
arguments are not the same, though: the marks of inner tags stand in them, and the arguments are
trimmed and looked at for being blank with the marks in place.  This makes no difference as long as
no white space hides between marks at an end of the text, which is what `Shows` says: besides
deleting the marks, trimming either end leads from one text to the other.  Texts without marks show
themselves, texts put together show what was put together (`Shows.append`), trimming both sides
changes nothing (`Shows.trim`), and marks go around trimmed texts only (`Shows.between`).

* `unmarked_expand`: deleting the marks from the Markdown of a text gives its plain text.
-/

namespace Compendium.Inline

open Compendium.Chars

/-! ### Marks -/

/-- The characters that set text off. -/
def isMark (c : Char) : Bool :=
  c = '*' || c = '~'

/-- A text without its marks. -/
def unmarked (s : List Char) : List Char :=
  s.filter fun c => !isMark c

variable {m m' p p' : List Char}

@[simp]
theorem unmarked_append (s t : List Char) : unmarked (s ++ t) = unmarked s ++ unmarked t :=
  List.filter_append s t

@[simp]
theorem unmarked_reverse (s : List Char) : unmarked s.reverse = (unmarked s).reverse :=
  List.filter_reverse

theorem unmarked_eq_self_iff : unmarked m = m ↔ ∀ c ∈ m, isMark c = false := by
  simp [unmarked, List.filter_eq_self]

theorem unmarked_of_isBlank (h : isBlank m = true) : unmarked m = m := by
  rw [isBlank, List.all_eq_true] at h
  rw [unmarked_eq_self_iff]
  intro c hc
  rw [← Bool.not_eq_true, isMark, Bool.or_eq_true, decide_eq_true_eq, decide_eq_true_eq]
  rintro (rfl | rfl) <;> exact absurd (h _ hc) (by decide)

/-! ### Texts that show the same -/

/-- The first text shows the second: it is the second with marks, and no white space stands
behind marks at its ends. -/
structure Shows (m p : List Char) : Prop where
  bare : unmarked m = p
  blank : isBlank p = true → isBlank m = true
  front : unmarked (trimStart m) = trimStart p
  back : unmarked (trimEnd m) = trimEnd p

theorem shows_self (h : ∀ c ∈ m, isMark c = false) : Shows m m where
  bare := unmarked_eq_self_iff.2 h
  blank := id
  front := unmarked_eq_self_iff.2 fun c hc => h c ((List.dropWhile_suffix _).subset hc)
  back := by
    have hfront := dropEndWhile_prefix Text.isSpace m
    exact unmarked_eq_self_iff.2 fun c hc => h c (hfront.subset hc)

namespace Shows

theorem isBlank_eq (h : Shows m p) : isBlank m = isBlank p := by
  rw [Bool.eq_iff_iff]
  refine ⟨fun hm => ?_, h.blank⟩
  rw [← h.bare, unmarked_of_isBlank hm]
  exact hm

/-- Read backwards, the texts show the same. -/
theorem reverse (h : Shows m p) : Shows m.reverse p.reverse where
  bare := by rw [unmarked_reverse, h.bare]
  blank := by
    rw [isBlank_reverse, isBlank_reverse]
    exact h.blank
  front := by
    have hback := congrArg List.reverse h.back
    rwa [← unmarked_reverse, trimEnd_eq_reverse, trimEnd_eq_reverse, List.reverse_reverse,
      List.reverse_reverse] at hback
  back := by
    rw [trimEnd_eq_reverse, trimEnd_eq_reverse, unmarked_reverse, List.reverse_reverse,
      List.reverse_reverse, h.front]

theorem front_append (h : Shows m p) (h' : Shows m' p') :
    unmarked (trimStart (m ++ m')) = trimStart (p ++ p') := by
  have hblank := h.isBlank_eq
  cases hm : isBlank m with
  | true => rw [trimStart_append_of_isBlank hm, trimStart_append_of_isBlank (hblank ▸ hm), h'.front]
  | false =>
    rw [trimStart_append hm, trimStart_append (hblank ▸ hm), unmarked_append, h.front, h'.bare]

/-- **Texts put together show what was put together.** -/
theorem append (h : Shows m p) (h' : Shows m' p') : Shows (m ++ m') (p ++ p') where
  bare := by rw [unmarked_append, h.bare, h'.bare]
  blank := by
    simp only [isBlank, List.all_append, Bool.and_eq_true]
    exact fun hp => ⟨h.blank hp.1, h'.blank hp.2⟩
  front := h.front_append h'
  back := by
    rw [trimEnd_eq_reverse, trimEnd_eq_reverse, List.reverse_append, List.reverse_append,
      unmarked_reverse, h'.reverse.front_append h.reverse]

theorem flatMap {α : Type} {l : List α} {f g : α → List Char} (h : ∀ x ∈ l, Shows (f x) (g x)) :
    Shows (l.flatMap f) (l.flatMap g) := by
  induction l with
  | nil => exact shows_self (by simp)
  | cons x rest ih =>
    rw [List.flatMap_cons, List.flatMap_cons]
    exact (h x List.mem_cons_self).append (ih fun y hy => h y (List.mem_cons_of_mem x hy))

theorem trimStart (h : Shows m p) : Shows (trimStart m) (trimStart p) where
  bare := h.front
  blank := by
    rw [isBlank_trimStart, isBlank_trimStart]
    exact h.blank
  front := by
    rw [trimStart_eq_self (front_trimStart m), trimStart_eq_self (front_trimStart p), h.front]
  back := by
    cases hm : isBlank m with
    | true =>
      rw [trimStart_eq_nil_iff.2 hm, trimStart_eq_nil_iff.2 (h.isBlank_eq ▸ hm)]
      rfl
    | false =>
      -- The white space in front is the same on both sides, and the other end is behind it.
      have hspace : isBlank (m.takeWhile Text.isSpace) = true := by
        rw [isBlank, List.all_eq_true]
        exact fun c hc => List.mem_takeWhile_imp hc
      have hsplit : m = m.takeWhile Text.isSpace ++ Chars.trimStart m :=
        List.takeWhile_append_dropWhile.symm
      have hshown : p = m.takeWhile Text.isSpace ++ Chars.trimStart p := by
        rw [← h.front, ← unmarked_of_isBlank hspace, ← unmarked_append, ← hsplit, h.bare]
      have hmarked : trimEnd m = m.takeWhile Text.isSpace ++ trimEnd (Chars.trimStart m) := by
        rw [← trimEnd_append ((isBlank_trimStart m).trans hm), ← hsplit]
      have hplain : trimEnd p = m.takeWhile Text.isSpace ++ trimEnd (Chars.trimStart p) := by
        rw [← trimEnd_append ((isBlank_trimStart p).trans (h.isBlank_eq ▸ hm)), ← hshown]
      have hback := h.back
      rw [hmarked, hplain, unmarked_append, unmarked_of_isBlank hspace] at hback
      exact List.append_cancel_left hback

theorem trimEnd (h : Shows m p) : Shows (trimEnd m) (trimEnd p) := by
  rw [trimEnd_eq_reverse, trimEnd_eq_reverse]
  exact h.reverse.trimStart.reverse

/-- **Trimmed texts show trimmed texts.** -/
theorem trim (h : Shows m p) : Shows (trim m) (trim p) :=
  h.trimStart.trimEnd

theorem eq_nil_iff (h : Shows m p) (ht : Tight m) : m = [] ↔ p = [] := by
  constructor
  · rintro rfl
    exact h.bare.symm
  · rintro rfl
    by_contra hne
    exact absurd ((ht.isBlank_eq_false hne).symm.trans (h.blank rfl)) (by decide)

/-- **Marks may go around a tight text**, unless it is empty. -/
theorem between (h : Shows m p) (ht : Tight m) (hne : m ≠ []) (n : Nat) {mark : Char}
    (hmark : isMark mark = true) :
    Shows (List.replicate (n + 1) mark ++ m ++ List.replicate (n + 1) mark) p := by
  have hmarks : unmarked (List.replicate (n + 1) mark) = [] := by
    rw [unmarked, List.filter_replicate_of_neg]
    simp [hmark]
  have hbare : unmarked (List.replicate (n + 1) mark ++ m ++ List.replicate (n + 1) mark) = p := by
    rw [unmarked_append, unmarked_append, hmarks, h.bare, List.nil_append, List.append_nil]
  have hspace : Text.isSpace mark = false := by
    have hcases : mark = '*' ∨ mark = '~' := by simpa [isMark] using hmark
    rcases hcases with rfl | rfl <;> decide
  have htight : Tight (List.replicate (n + 1) mark ++ m ++ List.replicate (n + 1) mark) :=
    tight_of_ends (c := mark) (d := mark) (by simp [List.replicate_succ])
      (by simp [List.getLast?_append, List.getLast?_replicate]) hspace hspace
  -- With marks at both ends there is nothing to trim, and the text itself had nothing to trim.
  constructor
  · exact hbare
  · intro hp
    exact absurd ((ht.isBlank_eq_false hne).symm.trans (h.blank hp)) (by decide)
  · rw [trimStart_eq_self htight.front, hbare, ← h.front, trimStart_eq_self ht.front, h.bare]
  · rw [trimEnd_eq_self htight.back, hbare, ← h.back, trimEnd_eq_self ht.back, h.bare]

end Shows

/-! ### Tags -/

/-- The kinds of tags whose Markdown differs from their plain text in nothing but marks. -/
def Kind.emphasizes : Kind → Bool
  | .wrap .bold => true
  | .wrap .italic => true
  | .wrap .strike => true
  | .reference _ => true
  | .dc => true
  | .chance => true
  | .marker _ => true
  | .literal _ => true
  | .passThrough => true
  | .unknown => true
  | _ => false

/-- Whether no mark stands in a text. -/
def isUnmarked (text : String) : Bool :=
  text.toList.all fun c => !isMark c

theorem isUnmarked_of_ofName {name text : String} (h : Kind.ofName name = .literal text) :
    isUnmarked text = true := by
  have hall := Kind.ofName_of_all (P := fun
      | .literal text => isUnmarked text
      | _ => true) (by decide) (by decide) name
  rwa [h] at hall

/-- No reference is set off as code. -/
theorem ne_code_of_ofName {name : String} {emphasis : Emphasis}
    (h : Kind.ofName name = .reference emphasis) : emphasis ≠ .code := by
  have hall := Kind.ofName_of_all (P := fun
      | .reference emphasis => emphasis ≠ .code
      | _ => true) (by decide) (by decide) name
  rw [h] at hall
  simpa using hall

variable {text plain : String}

theorem shows_unmarked (h : isUnmarked text = true) : Shows text.toList text.toList :=
  shows_self (by simpa [isUnmarked] using h)

/-- The first text shows the second and has no white space at its ends. -/
structure ShowsTight (text plain : String) : Prop where
  shows : Shows text.toList plain.toList
  tight : Tight text.toList

namespace ShowsTight

theorem eq_empty_iff (h : ShowsTight text plain) : text = "" ↔ plain = "" := by
  rw [← String.toList_eq_nil_iff, ← String.toList_eq_nil_iff]
  exact h.shows.eq_nil_iff h.tight

theorem emphasized (h : ShowsTight text plain) (links : Bool) {emphasis : Emphasis}
    (he : emphasis ≠ .code) : Shows (emphasize (.markdown links) emphasis text).toList
      (emphasize ⟨links, true⟩ emphasis plain).toList := by
  rw [emphasize_plain]
  unfold emphasize
  split
  · exact h.shows
  · next hne =>
    have hne : text.toList ≠ [] := by
      intro hnil
      simp [String.toList_eq_nil_iff.1 hnil] at hne
    have hstar : isMark '*' = true := rfl
    have htilde : isMark '~' = true := rfl
    cases emphasis with
    | bold => simpa using h.shows.between h.tight hne 1 hstar
    | italic => simpa using h.shows.between h.tight hne 0 hstar
    | strike => simpa using h.shows.between h.tight hne 1 htilde
    | code => exact absurd rfl he
    | plain => exact h.shows

end ShowsTight

theorem showsTight_trim (h : Shows text.toList plain.toList) :
    ShowsTight (Text.trim text) (Text.trim plain) := by
  constructor
  · simpa only [Text.trim, String.toList_ofList] using h.trim
  · simpa only [Text.trim, String.toList_ofList] using tight_trim text.toList

theorem showsTight_phrase (m : Marker) : ShowsTight m.phrase m.phrase where
  shows := shows_unmarked (by cases m <;> decide)
  tight := by cases m <;> exact tight_of_ends rfl rfl (by decide) (by decide)

/-- Without links, a reference is its text set off. -/
theorem referenceText_unlinked (isPlain : Bool) (emphasis : Emphasis)
    (tag target display : String) : referenceText ⟨false, isPlain⟩ emphasis tag target display =
      emphasize ⟨false, isPlain⟩ emphasis display := by
  unfold referenceText
  cases Category.ofReferenceTag? tag with
  | none => rfl
  | some category => simp

section Arguments

variable {α : Type} {args : List α} {f g : α → String}

theorem showsTight_first (h : ∀ arg ∈ args, Shows (f arg).toList (g arg).toList) :
    ShowsTight (Text.trim ((args.map f).headD "")) (Text.trim ((args.map g).headD "")) := by
  cases args with
  | nil => exact showsTight_trim (shows_unmarked rfl)
  | cons arg args => exact showsTight_trim (h arg List.mem_cons_self)

theorem showsTight_argumentOr (h : ∀ arg ∈ args, Shows (f arg).toList (g arg).toList) (n : Nat)
    (hfallback : ShowsTight text plain) :
    ShowsTight (argumentOr (args.map f) n text) (argumentOr (args.map g) n plain) := by
  rw [argumentOr, argumentOr, List.getElem?_map, List.getElem?_map]
  cases harg : args[n]? with
  | none => exact hfallback
  | some arg =>
    -- An argument is left out for being blank on both sides or on none.
    have hshown := showsTight_trim (h arg (List.mem_of_getElem? harg))
    by_cases he : Text.trim (f arg) = ""
    · simpa [Text.nonEmpty?, he, hshown.eq_empty_iff.1 he] using hfallback
    · have he' : Text.trim (g arg) ≠ "" := fun hp => he (hshown.eq_empty_iff.2 hp)
      simpa [Text.nonEmpty?, he, he'] using hshown

/-- **The tag's text shows its plain text**, if the arguments do. -/
theorem shows_render (h : ∀ arg ∈ args, Shows (f arg).toList (g arg).toList) {name : String}
    (hkind : (Kind.ofName name).emphasizes = true) :
    Shows (render (.markdown false) name (args.map f)).toList
      (render ⟨false, true⟩ name (args.map g)).toList := by
  have hfirst := showsTight_first h
  unfold render
  cases hk : Kind.ofName name with
  | wrap emphasis =>
    have hcode : emphasis ≠ .code := by
      rintro rfl
      rw [hk] at hkind
      cases hkind
    exact hfirst.emphasized false hcode
  | reference emphasis =>
    show Shows (referenceText (.markdown false) emphasis name _ _).toList
      (referenceText ⟨false, true⟩ emphasis name _ _).toList
    rw [Mode.markdown, referenceText_unlinked, referenceText_unlinked]
    have hdisplay := showsTight_argumentOr h (displayIndex name) hfirst
    exact hdisplay.emphasized false (ne_code_of_ofName hk)
  | dc =>
    simp only [String.isEmpty_iff, hfirst.eq_empty_iff]
    split
    · exact shows_unmarked (by decide)
    · have hdc : Shows "DC ".toList "DC ".toList := shows_unmarked (by decide)
      rw [String.toList_append, String.toList_append]
      exact hdc.append hfirst.shows
  | chance =>
    simp only [String.isEmpty_iff, hfirst.eq_empty_iff]
    split
    · exact shows_unmarked (by decide)
    · have hpercent : Shows "%".toList "%".toList := shows_unmarked (by decide)
      rw [String.toList_append, String.toList_append]
      exact hfirst.shows.append hpercent
  | marker m =>
    have hspace : Shows " ".toList " ".toList := shows_unmarked (by decide)
    rw [String.toList_append, String.toList_append]
    exact ((showsTight_phrase m).emphasized false (by decide)).append hspace
  | literal text => exact shows_unmarked (isUnmarked_of_ofName hk)
  | passThrough => exact hfirst.shows
  | unknown => exact hfirst.shows
  | _ =>
    rw [hk] at hkind
    cases hkind

end Arguments

/-! ### Whole texts -/

/-- The text that a piece holds. -/
def Segment.content : Segment → List Char
  | .char c => [c]
  | .tag body => body

theorem content_subset {s : List Char} {piece : Segment} (hp : piece ∈ segments s) :
    piece.content ⊆ s := by
  fun_induction segments s with
  | case1 => cases hp
  | case2 rest body after hclose ih =>
    rw [eq_append_of_closing? hclose]
    rcases List.mem_cons.1 hp with rfl | hp
    · intro c hc
      have hc : c ∈ body := hc
      simp [hc]
    · intro c hc
      simp [ih hp hc]
  | case3 rest hclose ih =>
    rcases List.mem_cons.1 hp with rfl | hp
    · simp [Segment.content]
    · rcases List.mem_cons.1 hp with rfl | hp
      · simp [Segment.content]
      · intro c hc
        simp [ih hp hc]
  | case4 c rest htag ih =>
    rcases List.mem_cons.1 hp with rfl | hp
    · simp [Segment.content]
    · exact List.Subset.trans (ih hp) (List.subset_cons_self c rest)

theorem subset_of_mem_cutArguments {depth : Nat} {s arg : List Char}
    (h : arg ∈ cutArguments depth s) : arg ⊆ s := by
  induction s generalizing depth arg with
  | nil =>
    obtain rfl : arg = [] := by simpa [cutArguments] using h
    exact List.nil_subset _
  | cons c rest ih =>
    rw [cutArguments] at h
    split at h
    · rcases List.mem_cons.1 h with rfl | h
      · exact List.nil_subset _
      · exact List.Subset.trans (ih h) (List.subset_cons_self c rest)
    · split at h
      · obtain rfl : arg = [c] := by simpa using h
        simp
      · next first others hcut =>
        rcases List.mem_cons.1 h with rfl | h
        · exact List.cons_subset_cons c (ih (hcut ▸ List.mem_cons_self))
        · have hrest : arg ⊆ rest := ih (hcut ▸ List.mem_cons_of_mem _ h)
          exact List.Subset.trans hrest (List.subset_cons_self c rest)

theorem subset_of_mem_args {body arg : List Char} (h : arg ∈ (Invocation.parse body).args) :
    arg ⊆ body := by
  rw [Invocation.parse] at h
  split at h
  · cases h
  · have hrest : Chars.trimStart ((Chars.trimStart body).dropWhile fun c => !Text.isSpace c) <:+
        body :=
      (List.dropWhile_suffix _).trans ((List.dropWhile_suffix _).trans (List.dropWhile_suffix _))
    exact List.Subset.trans (subset_of_mem_cutArguments h) hrest.subset

/-- **The Markdown of a text shows its plain text**, at every depth. -/
theorem shows_expandTo {depth : Nat} {s : List Char} (hmarks : ∀ c ∈ s, isMark c = false)
    (htags : ∀ i ∈ tagsMet depth s, (Kind.ofName (String.ofList i.name)).emphasizes = true) :
    Shows (expandTo (.markdown false) depth s) (expandTo ⟨false, true⟩ depth s) := by
  -- The arguments of a tag are expanded one level less, and both assumptions pass to them.
  induction depth generalizing s with
  | zero => exact shows_self hmarks
  | succ depth ih =>
    rw [expandTo, expandTo]
    refine Shows.flatMap fun piece hp => ?_
    have hcontent : ∀ c ∈ piece.content, isMark c = false := fun c hc =>
      hmarks c (content_subset hp hc)
    cases piece with
    | char c => exact shows_self hcontent
    | tag body =>
      refine shows_render (fun arg harg => ?_) (htags _ (mem_tagsMet_of_tag hp))
      rw [String.toList_ofList, String.toList_ofList]
      refine ih (fun c hc => hcontent c (subset_of_mem_args harg hc)) fun i hi => ?_
      exact htags i (mem_tagsMet_of_arg hp harg hi)

/-- **Emphasis hides nothing.**  In a text without marks all of whose tags only emphasize, the
Markdown without links and the plain text differ in nothing but marks. -/
theorem unmarked_expand {text : String} (hmarks : '*' ∉ text.toList ∧ '~' ∉ text.toList)
    (htags : ∀ i ∈ tagsMet maxDepth text.toList,
      (Kind.ofName (String.ofList i.name)).emphasizes = true) :
    String.ofList (unmarked (expand (.markdown false) text).toList) = plainText text := by
  have hchars : ∀ c ∈ text.toList, isMark c = false := by
    intro c hc
    simp only [isMark, Bool.or_eq_false_iff, decide_eq_false_iff_not]
    exact ⟨fun h => hmarks.1 (h ▸ hc), fun h => hmarks.2 (h ▸ hc)⟩
  rw [plainText, expand, expand, String.toList_ofList, (shows_expandTo hchars htags).bare]

/-- Bold around a reference whose text to show is blank, a phrase, struck text around a
difficulty, a chance of nothing, an unknown tag around white space, and what only opens. -/
theorem unmarked_expand_dragon :
    let text := "\x7b@b The \x7b@creature  red dragon |mm| \x7b@i \x7d\x7d roars\x7d. \x7b@h\x7d" ++
      "\x7b@s \x7b@dc 15\x7d or \x7b@chance\x7d\x7d \x7b@flag  \x7b@i  now \x7d \x7d\x7b@"
    (('*' ∉ text.toList ∧ '~' ∉ text.toList) ∧ ∀ i ∈ tagsMet maxDepth text.toList,
      (Kind.ofName (String.ofList i.name)).emphasizes = true) ∧
    expand (.markdown false) text =
      "**The **red dragon** roars**. *Hit:* ~~DC 15 or~~ *now*\x7b@" ∧
    String.ofList (unmarked (expand (.markdown false) text).toList) = plainText text := by
  intro text
  have hmarks : '*' ∉ text.toList ∧ '~' ∉ text.toList := by decide +kernel
  have htags : ∀ i ∈ tagsMet maxDepth text.toList,
      (Kind.ofName (String.ofList i.name)).emphasizes = true := by decide +kernel
  exact ⟨⟨hmarks, htags⟩, by decide +kernel, unmarked_expand hmarks htags⟩

end Compendium.Inline
