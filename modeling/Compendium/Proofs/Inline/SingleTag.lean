import Mathlib.Logic.Function.Iterate
import Compendium.Proofs.Inline.Printing

/-!
# Texts that are one tag

A text that is one tag gives way to what the tag makes of its expanded arguments
(`expandTo_tagText`).  Reading takes away the white space in front of the first argument; this does
not count, since tags trim that argument and expansion leaves white space where it is.

Tags nested in each other are such texts, level by level, so what they expand to can be read off
the number of levels.

* `expand_boldTags`: of tags in tags, as many levels as the bound allows are expanded, and what is
  nested deeper stands in the result as it was written.
-/

namespace Compendium.Inline

open Compendium.Chars

/-- A tag in writing. -/
def tagText (name text : String) : String :=
  "\x7b@" ++ name ++ " " ++ text ++ "\x7d"

theorem toList_tagText (name text : String) : (tagText name text).toList =
    '\x7b' :: '@' :: (name.toList ++ ' ' :: text.toList ++ ['\x7d']) := by
  simp [tagText]

/-- A name that ends where the white space behind it begins and has no braces. -/
structure IsTagName (name : String) : Prop where
  ne_empty : name ≠ ""
  solid : ∀ c ∈ name.toList, Text.isSpace c = false
  plain : ∀ c ∈ name.toList, c ≠ '\x7b' ∧ c ≠ '\x7d'

theorem isTagName_of_all {name : String} (hne : name ≠ "")
    (h : (name.toList.all fun c => !Text.isSpace c && c != '\x7b' && c != '\x7d') = true) :
    IsTagName name := by
  simp only [List.all_eq_true, Bool.and_eq_true, Bool.not_eq_true', bne_iff_ne] at h
  exact ⟨hne, fun c hc => (h c hc).1.1, fun c hc => ⟨(h c hc).1.2, (h c hc).2⟩⟩

theorem isTagName_bold : IsTagName "b" :=
  isTagName_of_all (by decide) (by decide)

variable (mode : Mode) {depth : Nat} {s body : List Char}

/-! ### Whole tags -/

theorem segments_tag (h : Completes 0 body) :
    segments ('\x7b' :: '@' :: (body ++ ['\x7d'])) = [.tag body] := by
  rw [segments_of_closing?_eq_some (h.closing? []), segments]

/-- **A text that is one tag** gives way to the text of this tag. -/
theorem expandTo_tag (h : Completes 0 body) :
    expandTo mode (depth + 1) ('\x7b' :: '@' :: (body ++ ['\x7d'])) =
      (render mode (String.ofList (Invocation.parse body).name)
        ((Invocation.parse body).args.map fun arg =>
          String.ofList (expandTo mode depth arg))).toList := by
  rw [expandTo, segments_tag h, List.flatMap_singleton]

theorem expandTo_of_notMem (h : '\x7b' ∉ s) : expandTo mode depth s = s :=
  expandTo_eq_self mode depth fun _ hs => h (hs.subset List.mem_cons_self)

/-- Expansion leaves white space in front of a text where it is. -/
theorem expandTo_append_of_isBlank {front : List Char} (h : isBlank front = true) :
    expandTo mode depth (front ++ s) = front ++ expandTo mode depth s := by
  have hopen : '\x7b' ∉ front := fun hm => absurd (List.all_eq_true.1 h _ hm) (by decide)
  have hclose : OpeningsClose front := fun _ hs => absurd (hs.subset List.mem_cons_self) hopen
  have hcut : ¬ CutsOpening front s := fun hc => hopen (List.mem_of_getLast? hc.1)
  rw [expandTo_append mode depth hclose hcut, expandTo_of_notMem mode hopen]

theorem trim_expandTo_trimStart (s : List Char) :
    trim (expandTo mode depth (trimStart s)) = trim (expandTo mode depth s) := by
  obtain ⟨front, hfront, hs⟩ := exists_front s
  calc trim (expandTo mode depth (trimStart s))
      = trim (front ++ expandTo mode depth (trimStart s)) := (trim_append_left hfront).symm
    _ = trim (expandTo mode depth (front ++ trimStart s)) := by
        rw [expandTo_append_of_isBlank mode hfront]
    _ = trim (expandTo mode depth s) := by rw [hs]

/-! ### Arguments -/

theorem one_le_displayIndex (tag : String) : 1 ≤ displayIndex tag := by
  unfold displayIndex
  split <;> decide

/-- A reference tag that names something without a slug is no link. -/
theorem referenceText_of_slug_eq_empty {name : String} (h : Slug.slug name = "")
    (mode : Mode) (emphasis : Emphasis) (tag display : String) :
    referenceText mode emphasis tag name display = emphasize mode emphasis display := by
  unfold referenceText
  cases Category.ofReferenceTag? tag with
  | none => rfl
  | some c => simp [h]

/-- A tag sees its first argument trimmed. -/
theorem render_congr_trim (name : String) {args args' : List String}
    (hfirst : Text.trim (args.headD "") = Text.trim (args'.headD ""))
    (hothers : ∀ n, 1 ≤ n → args[n]? = args'[n]?) :
    render mode name args = render mode name args' := by
  have hargument : ∀ n, 1 ≤ n → ∀ fallback,
      argumentOr args n fallback = argumentOr args' n fallback := by
    intro n hn fallback
    rw [argumentOr, hothers n hn, argumentOr]
  simp only [render, hfirst, hothers 1 (Nat.le_refl 1), hargument 2 (Nat.le_succ 1),
    hargument _ (one_le_displayIndex name)]

/-- White space in front of an argument can be taken off. -/
theorem IsArgument.trimStart (h : IsArgument s) : IsArgument (Chars.trimStart s) := by
  induction s with
  | nil => exact h
  | cons c rest ih =>
    rw [Chars.trimStart, List.dropWhile_cons]
    split
    · next hc =>
      have hopen : c ≠ '\x7b' := by
        rintro rfl
        exact absurd hc (by decide)
      have hclose : c ≠ '\x7d' := by
        rintro rfl
        exact absurd hc (by decide)
      have hrest : Completes 0 rest := by
        cases balanced_iff.1 h.balanced with
        | opening => exact absurd rfl hopen
        | char _ _ hrest => exact hrest
      have hpipes := (pipesInside_cons.1 h.pipes).2
      rw [depthAfter_of_ne hopen hclose] at hpipes
      exact ih ⟨balanced_iff.2 hrest, hpipes⟩
    · exact h

theorem trimStart_intercalate (arg : List Char) (rest : List (List Char)) :
    trimStart (['|'].intercalate (arg :: rest)) = ['|'].intercalate (trimStart arg :: rest) := by
  cases rest with
  | nil => rw [List.intercalate_singleton, List.intercalate_singleton]
  | cons next rest =>
    rw [List.intercalate_cons_cons, List.intercalate_cons_cons, List.append_assoc,
      List.append_assoc]
    cases hblank : isBlank arg with
    | true =>
      rw [trimStart_append_of_isBlank hblank, trimStart_eq_nil_iff.2 hblank]
      exact trimStart_eq_self fun c hc => Option.some.inj hc ▸ by decide
    | false => exact trimStart_append hblank

/-- What is read of written arguments: white space in front of the first one is gone, the others are
as they were. -/
theorem exists_parse_written {name : List Char} (hne : name ≠ [])
    (hname : ∀ c ∈ name, Text.isSpace c = false) {args : List (List Char)}
    (hargs : ∀ arg ∈ args, IsArgument arg) : ∃ read,
    Invocation.parse (name ++ ' ' :: ['|'].intercalate args) = ⟨name, read⟩ ∧
      read.headD [] = trimStart (args.headD []) ∧ ∀ n, 1 ≤ n → read[n]? = args[n]? := by
  refine ⟨_, parse_spaced hne hname _, ?_⟩
  cases args with
  | nil => exact ⟨rfl, fun _ _ => rfl⟩
  | cons arg rest =>
    obtain ⟨harg, hrest⟩ := List.forall_mem_cons.1 hargs
    rw [trimStart_intercalate]
    split
    · next hnil =>
      -- Nothing is seen behind the name, so there was one argument, a blank one.
      cases rest with
      | nil =>
        rw [List.intercalate_singleton, List.isEmpty_iff] at hnil
        refine ⟨hnil.symm, fun n hn => ?_⟩
        rw [List.getElem?_nil, List.getElem?_eq_none hn]
      | cons next rest => simp [List.intercalate_cons_cons] at hnil
    · rw [cutArguments_intercalate (List.cons_ne_nil _ _)
        (List.forall_mem_cons.2 ⟨harg.trimStart, hrest⟩)]
      refine ⟨rfl, fun n hn => ?_⟩
      obtain ⟨n, rfl⟩ := Nat.exists_eq_add_of_le' hn
      rfl

theorem completes_body {name : String} {args : List String} (hname : IsTagName name)
    (hargs : ∀ arg ∈ args, IsArgument arg.toList) :
    Completes 0 (name.toList ++ ' ' :: ("|".intercalate args).toList) := by
  have hwritten : ∀ arg ∈ args.map String.toList, Completes 0 arg :=
    List.forall_mem_map.2 fun arg ha => balanced_iff.1 (hargs arg ha).balanced
  have hpipe : Completes 0 "|".toList := .char (by decide) (by decide) .nil
  rw [String.toList_intercalate]
  exact (completes_of_forall hname.plain).append (.char (by decide) (by decide)
    (intercalate_of_append .nil (fun _ _ => Completes.append) hpipe hwritten))

/-- A tag in writing may be an argument of another one. -/
theorem isArgument_tagText {name : String} {args : List String} (hname : IsTagName name)
    (hargs : ∀ arg ∈ args, IsArgument arg.toList) :
    IsArgument (tagText name ("|".intercalate args)).toList := by
  have hbody := completes_body hname hargs
  rw [toList_tagText]
  constructor
  · have hend : Completes 1 ['\x7d'] := .closing .nil
    exact balanced_iff.2 (.opening (.char (by decide) (by decide) (hbody.append hend)))
  · have hat : depthAfter 1 '@' = 1 := rfl
    have hend : PipesInside 1 ['\x7d'] := pipesInside_of_notMem (by decide)
    rw [pipesInside_cons, depthAfter_open, pipesInside_cons, hat]
    refine ⟨by decide, by decide, pipesInside_append hbody.pipesInside ?_⟩
    rwa [hbody.foldl_depthAfter 1]

/-- **A tag gives way to what it makes of its arguments, expanded.** -/
theorem expandTo_tagText {name : String} {args : List String} (hname : IsTagName name)
    (hargs : ∀ arg ∈ args, IsArgument arg.toList) :
    expandTo mode (depth + 1) (tagText name ("|".intercalate args)).toList =
      (render mode name
        (args.map fun arg => String.ofList (expandTo mode depth arg.toList))).toList := by
  have hne : name.toList ≠ [] := fun hnil => hname.ne_empty (String.toList_eq_nil_iff.1 hnil)
  have hwritten : ∀ arg ∈ args.map String.toList, IsArgument arg := List.forall_mem_map.2 hargs
  have hbody := completes_body hname hargs
  obtain ⟨read, hread, hfirst, hothers⟩ := exists_parse_written hne hname.solid hwritten
  have hhead : ∀ texts : List (List Char),
      (texts.map fun text => String.ofList (expandTo mode depth text)).headD "" =
        String.ofList (expandTo mode depth (texts.headD [])) := by
    rintro (_ | ⟨text, texts⟩)
    · rw [List.map_nil, List.headD_nil, List.headD_nil, expandTo_of_notMem mode List.not_mem_nil]
    · rfl
  have hmap : (args.map fun arg => String.ofList (expandTo mode depth arg.toList)) =
      (args.map String.toList).map fun text => String.ofList (expandTo mode depth text) := by
    rw [List.map_map]
    rfl
  have hpipe : "|".toList = ['|'] := rfl
  rw [toList_tagText, expandTo_tag mode hbody, String.toList_intercalate, hpipe, hread,
    String.ofList_toList, hmap]
  refine congrArg String.toList (render_congr_trim mode name ?_ fun n hn => ?_)
  · rw [hhead, hhead, hfirst, Text.trim, Text.trim, String.toList_ofList, String.toList_ofList,
      trim_expandTo_trimStart]
  · rw [List.getElem?_map, hothers n hn, ← List.getElem?_map]

/-- An argument of a text that is one tag, as the tag sees it: expanded, but for white space. -/
def argumentText (text : String) : String :=
  String.ofList (expandTo mode (maxDepth - 1) text.toList)

theorem argumentText_of_notMem {text : String} (h : '\x7b' ∉ text.toList) :
    argumentText mode text = text := by
  rw [argumentText, expandTo_of_notMem mode h, String.ofList_toList]

theorem expand_tagText {name : String} {args : List String} (hname : IsTagName name)
    (hargs : ∀ arg ∈ args, IsArgument arg.toList) :
    expand mode (tagText name ("|".intercalate args)) =
      render mode name (args.map (argumentText mode)) := by
  have hdepth : maxDepth = maxDepth - 1 + 1 := rfl
  rw [expand, hdepth, expandTo_tagText mode hname hargs, String.ofList_toList]
  rfl

/-! ### Tags in tags -/

/-- A text in tags that set it in bold, `n` deep. -/
def boldTags (text : String) : Nat → String
  | 0 => text
  | n + 1 => tagText "b" (boldTags text n)

section BoldTags

variable {text : String}

theorem tight_boldTags (htight : Tight text.toList) (n : Nat) :
    Tight (boldTags text n).toList := by
  cases n with
  | zero => exact htight
  | succ n =>
    rw [boldTags, toList_tagText]
    exact tight_of_ends (d := '\x7d') rfl (by simp [List.getLast?_cons]) (by decide) (by decide)

theorem isArgument_boldTags (h : IsArgument text.toList) (n : Nat) :
    IsArgument (boldTags text n).toList := by
  induction n with
  | zero => exact h
  | succ n ih =>
    have harg : ∀ arg ∈ [boldTags text n], IsArgument arg.toList := List.forall_mem_singleton.2 ih
    have htag := isArgument_tagText isTagName_bold harg
    rwa [String.intercalate_singleton] at htag

/-- Marks on both sides set a text off, unless it is code. -/
theorem exists_emphasize_eq {emphasis : Emphasis} (he : emphasis ≠ .code) (text : String) :
    ∃ marks ∈ ["", "*", "**", "~~"], emphasize mode emphasis text = marks ++ text ++ marks := by
  unfold emphasize
  split
  · exact ⟨"", by decide, by simp⟩
  · cases emphasis with
    | code => exact absurd rfl he
    | plain => exact ⟨"", by decide, by simp⟩
    | bold | italic | strike => exact ⟨_, by decide, rfl⟩

theorem tight_emphasize {emphasis : Emphasis} (he : emphasis ≠ .code) (htight : Tight text.toList) :
    Tight (emphasize mode emphasis text).toList := by
  obtain ⟨marks, hmarks, heq⟩ := exists_emphasize_eq mode he text
  have htights : ∀ marks ∈ ["", "*", "**", "~~"], Tight marks.toList := by
    simp only [List.forall_mem_cons]
    exact ⟨tight_nil, tight_of_ends rfl rfl (by decide) (by decide),
      tight_of_ends rfl rfl (by decide) (by decide), tight_of_ends rfl rfl (by decide) (by decide),
      by simp⟩
  rw [heq, String.toList_append, String.toList_append]
  exact ((htights marks hmarks).append htight).append (htights marks hmarks)

/-- What is expanded is set in bold, what is nested too deep stays, and both make a tight text. -/
theorem expandTo_boldTags
    (hplain : '\x7b' ∉ text.toList ∧ '\x7d' ∉ text.toList ∧ '|' ∉ text.toList)
    (htight : Tight text.toList) (depth k : Nat) :
    expandTo mode depth (boldTags text k).toList =
        ((emphasize mode .bold)^[min k depth] (boldTags text (k - depth))).toList ∧
      Tight ((emphasize mode .bold)^[min k depth] (boldTags text (k - depth))).toList := by
  induction depth generalizing k with
  | zero =>
    rw [Nat.min_zero, Nat.sub_zero]
    exact ⟨rfl, tight_boldTags htight k⟩
  | succ depth ih =>
    cases k with
    | zero =>
      rw [Nat.zero_min, Nat.zero_sub]
      exact ⟨expandTo_of_notMem mode hplain.1, htight⟩
    | succ k =>
      obtain ⟨hshown, htight⟩ := ih k
      have harg : ∀ arg ∈ [boldTags text k], IsArgument arg.toList :=
        List.forall_mem_singleton.2 (isArgument_boldTags
          (isArgument_of_notMem hplain.1 hplain.2.1 hplain.2.2) k)
      have htag :
          expandTo mode (depth + 1) (tagText "b" ("|".intercalate [boldTags text k])).toList = _ :=
        expandTo_tagText mode isTagName_bold harg
      rw [String.intercalate_singleton, List.map_singleton, hshown, String.ofList_toList] at htag
      have hbold : ∀ s : String, Tight s.toList → render mode "b" [s] = emphasize mode .bold s := by
        intro s hs
        have htrim : Text.trim s = s := by rw [Text.trim, hs.trim_eq, String.ofList_toList]
        have hkind : Kind.ofName "b" = .wrap .bold := by decide
        rw [render, hkind, List.headD_cons]
        exact congrArg (emphasize mode .bold) htrim
      rw [Nat.succ_min_succ, Nat.succ_sub_succ, Function.iterate_succ_apply', boldTags, htag,
        hbold _ htight]
      exact ⟨rfl, tight_emphasize mode (by decide) htight⟩

theorem iterate_emphasize_markdown (links : Bool) (hne : text ≠ "") (n : Nat) :
    (emphasize (.markdown links) .bold)^[n] text =
      Text.replicate (2 * n) '*' ++ text ++ Text.replicate (2 * n) '*' := by
  induction n with
  | zero => simp [Text.replicate]
  | succ n ih =>
    have hfront : Text.replicate (2 * (n + 1)) '*' = "**" ++ Text.replicate (2 * n) '*' := by
      simp [Text.replicate, ← String.toList_inj, Nat.mul_succ, List.replicate_succ]
    have hback : Text.replicate (2 * (n + 1)) '*' = Text.replicate (2 * n) '*' ++ "**" := by
      simp [Text.replicate, Nat.mul_succ, List.replicate_succ']
    have hsome : (Text.replicate (2 * n) '*' ++ text ++
        Text.replicate (2 * n) '*').isEmpty = false := by
      simp [hne]
    rw [Function.iterate_succ_apply', ih, emphasize, hsome]
    calc "**" ++ (Text.replicate (2 * n) '*' ++ text ++ Text.replicate (2 * n) '*') ++ "**"
        = ("**" ++ Text.replicate (2 * n) '*') ++ text ++ (Text.replicate (2 * n) '*' ++ "**") := by
          simp only [String.append_assoc]
      _ = _ := by rw [← hfront, ← hback]

theorem iterate_emphasize_plain (links : Bool) (n : Nat) :
    (emphasize ⟨links, true⟩ .bold)^[n] text = text :=
  Function.iterate_fixed (by simp [emphasize]) n

theorem boldTags_ne_empty (hne : text ≠ "") (n : Nat) : boldTags text n ≠ "" := by
  cases n with
  | zero => exact hne
  | succ n => simp [boldTags, tagText]

end BoldTags

/-- **Tags are expanded down to the bound and no further.**  A text without braces and pipes, tight
and not empty, in any number of bold tags is set in bold as often as tags are nested, but no more
often than the bound on nesting allows, and tags that are nested deeper stand there as they were
written; in plain text too, where nothing is set off. -/
theorem expand_boldTags {text : String} (hne : text ≠ "")
    (hplain : '\x7b' ∉ text.toList ∧ '\x7d' ∉ text.toList ∧ '|' ∉ text.toList)
    (htight : Tight text.toList) (k : Nat) (links : Bool) :
    expand (.markdown links) (boldTags text k) =
      Text.replicate (2 * min k maxDepth) '*' ++ boldTags text (k - maxDepth) ++
        Text.replicate (2 * min k maxDepth) '*' ∧
    expand ⟨links, true⟩ (boldTags text k) = boldTags text (k - maxDepth) := by
  have hexpand : ∀ mode, expand mode (boldTags text k) =
      (emphasize mode .bold)^[min k maxDepth] (boldTags text (k - maxDepth)) := by
    intro mode
    rw [expand, (expandTo_boldTags mode hplain htight maxDepth k).1, String.ofList_toList]
  constructor
  · rw [hexpand, iterate_emphasize_markdown links (boldTags_ne_empty hne _)]
  · rw [hexpand, iterate_emphasize_plain]

/-- A text with an at sign and white space of its own in two tags more than are expanded. -/
theorem expand_boldTags_dragon :
    let text := "a red @\ndragon"
    (text ≠ "" ∧ ('\x7b' ∉ text.toList ∧ '\x7d' ∉ text.toList ∧ '|' ∉ text.toList) ∧
      Tight text.toList) ∧
    expand (.markdown true) (boldTags text 12) =
      "********************\x7b@b \x7b@b a red @\ndragon\x7d\x7d********************" ∧
    expand ⟨true, true⟩ (boldTags text 12) = "\x7b@b \x7b@b a red @\ndragon\x7d\x7d" := by
  intro text
  have hne : text ≠ "" := by decide
  have hplain : '\x7b' ∉ text.toList ∧ '\x7d' ∉ text.toList ∧ '|' ∉ text.toList := by decide
  have htight : Tight text.toList :=
    tight_of_ends (c := 'a') (d := 'n') (by decide) (by decide) (by decide) (by decide)
  obtain ⟨hmarkdown, hplainText⟩ := expand_boldTags hne hplain htight 12 true
  exact ⟨⟨hne, hplain, htight⟩, hmarkdown.trans (by decide), hplainText.trans (by decide)⟩

end Compendium.Inline
