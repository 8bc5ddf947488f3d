import Compendium.Document.Vehicle
import Compendium.Proofs.Slug

/-!
# The count of a vehicle's feature

A feature that a vehicle has several times is shown with its count.  The count is put in front of
the first period that three asterisks follow (`periodEnd`), wherever that stands in the finished
paragraph.  A label closes like that unless its name brings a mark of its own (`HasOwnMark`), for
then no period is added.  So the count is in the label unless the name ends in such a mark and holds
no period with three asterisks either; in that case the search goes on in the body.

A count inside the label is no matter of the characters alone: they could come out the same with the
count elsewhere.  They do not, because a text that can be moved past the count has no character that
the count lacks (`mem_of_append_comm`).

* `feature_count_in_label_iff`: what is shown for a feature with a count.
-/

namespace Compendium

namespace Markdown

/-! ### Labels -/

/-- Names that end in a mark of their own: an exclamation mark, a question mark or a colon. -/
def HasOwnMark (name : String) : Prop :=
  ∃ c, (Text.trim name).toList.getLast? = some c ∧ (c = '!' ∨ c = '?' ∨ c = ':')

/-- What a label sets off: the name, with a period unless it ends in a mark. -/
def labelText (name : String) : String :=
  match (Text.trim name).toList.getLast? with
  | some c => if c = '.' || c = '!' || c = '?' || c = ':' then Text.trim name
    else Text.trim name ++ "."
  | none => Text.trim name ++ "."

theorem nameLabel_boldItalic (name : String) :
    nameLabel .boldItalic name = "***" ++ labelText name ++ "***" := by
  cases hlast : (Text.trim name).toList.getLast? with
  | none => simp only [nameLabel, labelText, hlast]
  | some c => simp only [nameLabel, labelText, hlast]

variable {name : String}

theorem labelText_of_hasOwnMark (h : HasOwnMark name) : labelText name = Text.trim name := by
  obtain ⟨c, hlast, hc⟩ := h
  rw [labelText, hlast]
  rcases hc with rfl | rfl | rfl <;> rfl

/-- Any other name ends in a period, its own or one that is added. -/
theorem exists_stem_of_not_hasOwnMark (h : ¬ HasOwnMark name) :
    ∃ stem, labelText name = stem ++ "." := by
  rw [labelText]
  split
  · next c hlast =>
    split
    · next hc =>
      have hperiod : c = '.' := by
        by_contra hne
        refine h ⟨c, hlast, ?_⟩
        simpa only [Bool.or_eq_true, decide_eq_true_eq, hne, false_or, or_assoc] using hc
      obtain ⟨stem, hstem⟩ := List.getLast?_eq_some_iff.1 (hperiod ▸ hlast)
      refine ⟨String.ofList stem, ?_⟩
      rw [← String.toList_inj, hstem, String.toList_append, String.toList_ofList]
      rfl
    · exact ⟨_, rfl⟩
  · exact ⟨_, rfl⟩

/-- A body as it stands behind a label. -/
def behindLabel (body : String) : String :=
  if body.isEmpty then "" else " " ++ body

theorem namedParagraph_eq (style : NameStyle) (name body : String) :
    namedParagraph style name body = nameLabel style name ++ behindLabel body := by
  rw [namedParagraph, behindLabel]
  split
  · rw [String.append_empty]
  · rw [String.append_assoc]

theorem head?_behindLabel (body : String) : (behindLabel body).toList.head? ≠ some '*' := by
  rw [behindLabel]
  split
  · exact Option.some_ne_none _ ∘ Eq.symm
  · rw [String.toList_append]
    intro h
    cases h

end Markdown

namespace Document.Vehicle

open Compendium.Render (Style)
open Markdown (HasOwnMark labelText behindLabel)

/-! ### Where a count is put -/

/-- What a count is put in front of: a period, and the end of a label in bold italics. -/
def periodEnd : List Char := ['.', '*', '*', '*']

/-- The end of a label alone. -/
def stars : List Char := ['*', '*', '*']

/-- What is put there. -/
def countMark (count : Int) : List Char := (" (" ++ toString count ++ ")").toList

variable {count : Int} {s t : List Char}

theorem countMark_ne_nil : countMark count ≠ [] := by
  simp [countMark]

/-- A count has no asterisk. -/
theorem star_not_mem_countMark (hcount : 1 < count) : '*' ∉ countMark count := by
  obtain ⟨n, rfl⟩ := Int.eq_ofNat_of_zero_le (by omega : 0 ≤ count)
  intro h
  have hdigits : toString (n : Int) = toString n := rfl
  simp only [countMark, hdigits, String.toList_append, List.mem_append] at h
  rcases h with (h | h) | h
  · exact absurd h (by decide)
  · exact absurd (Text.isAlphanum_of_mem_digits h) (by decide)
  · exact absurd h (by decide)

theorem withCount_front (h : periodEnd <+: s) : withCount count s = countMark count ++ s := by
  cases s with
  | nil => exact absurd h.length_le (by decide)
  | cons c rest =>
    rw [withCount]
    exact if_pos (List.isPrefixOf_iff_prefix.2 h)

theorem withCount_cons (c : Char) (h : ¬ periodEnd <+: c :: s) :
    withCount count (c :: s) = c :: withCount count s := by
  rw [withCount]
  exact if_neg fun hp => h (List.isPrefixOf_iff_prefix.1 hp)

theorem withCount_stars_append : withCount count (stars ++ s) = stars ++ withCount count s := by
  have hstar : ∀ rest : List Char, ¬ periodEnd <+: '*' :: rest := by
    intro rest h
    exact absurd (List.cons_prefix_cons.1 h).1 (by decide)
  simp only [stars, List.cons_append, List.nil_append, withCount_cons _ (hstar _)]

/-- An end of a label does not reach into what stands behind, unless that goes on with asterisks. -/
theorem periodEnd_prefix_of_append (hs : s ≠ []) (ht : t.head? ≠ some '*')
    (h : periodEnd <+: s ++ t) : periodEnd <+: s := by
  cases t with
  | nil => rwa [List.append_nil] at h
  | cons d t =>
    cases s with
    | nil => exact absurd rfl hs
    | cons c s =>
      have hd : d ∉ stars := by
        intro hmem
        obtain rfl : d = '*' := List.eq_of_mem_replicate (n := 3) hmem
        exact ht rfl
      obtain ⟨hc, hrest⟩ := List.cons_prefix_cons.1 h
      exact List.cons_prefix_cons.2 ⟨hc, Chars.prefix_of_prefix_append_cons hd hrest⟩

/-- A text that has a place for the count takes it, whatever stands behind the text. -/
theorem exists_withCount_append (count : Int) (h : periodEnd <:+: s) : ∃ front back,
    s = front ++ periodEnd ++ back ∧ ∀ t, withCount count (s ++ t) =
      front ++ countMark count ++ periodEnd ++ back ++ t := by
  induction s with
  | nil => exact absurd h.length_le (by decide)
  | cons c s ih =>
    by_cases hfront : periodEnd <+: c :: s
    · obtain ⟨back, hback⟩ := hfront
      refine ⟨[], back, hback.symm, fun t => ?_⟩
      have hlonger : periodEnd <+: c :: s ++ t := ⟨back ++ t, by rw [← hback, List.append_assoc]⟩
      rw [withCount_front hlonger, ← hback]
      simp only [List.nil_append, List.append_assoc]
    · have hs : periodEnd <:+: s := (List.infix_cons_iff.1 h).resolve_left hfront
      obtain ⟨front, back, heq, hall⟩ := ih hs
      refine ⟨c :: front, back, by rw [heq]; rfl, fun t => ?_⟩
      -- The text is long enough to hold its own start.
      have hlonger : ¬ periodEnd <+: c :: (s ++ t) := by
        intro hp
        refine hfront (List.prefix_of_prefix_length_le hp ⟨t, rfl⟩ ?_)
        exact Nat.le_succ_of_le hs.length_le
      rw [List.cons_append, withCount_cons c hlonger, hall t]
      rfl

/-- A text without such a place is left as it is, and the search goes on behind it. -/
theorem withCount_append (h : ¬ periodEnd <:+: s) (ht : t.head? ≠ some '*') :
    withCount count (s ++ t) = s ++ withCount count t := by
  induction s with
  | nil => rfl
  | cons c s ih =>
    obtain ⟨hfront, hrest⟩ := not_or.1 (mt List.infix_cons_iff.2 h)
    have hlonger : ¬ periodEnd <+: c :: (s ++ t) := fun hp =>
      hfront (periodEnd_prefix_of_append (List.cons_ne_nil c s) ht hp)
    rw [List.cons_append, withCount_cons c hlonger, ih hrest]
    rfl

theorem withCount_eq_self (h : ¬ periodEnd <:+: s) : withCount count s = s := by
  have hnil : withCount count (s ++ []) = s ++ withCount count [] := withCount_append h (by decide)
  rwa [withCount, List.append_nil] at hnil

/-- A text is never the same with its count moved behind a label. -/
theorem append_withCount_ne {rest : List Char} (hcount : 1 < count) (hstar : '*' ∈ s) :
    s ++ withCount count rest ≠ countMark count ++ s ++ rest := by
  intro h
  by_cases hrest : periodEnd <:+: rest
  · obtain ⟨front, back, heq, hall⟩ := exists_withCount_append count hrest
    have hnil := hall []
    rw [List.append_nil, List.append_nil] at hnil
    rw [hnil, heq] at h
    have hcomm : (s ++ front) ++ countMark count = countMark count ++ (s ++ front) := by
      refine (List.append_cancel_right_eq _ (periodEnd ++ back) _).mp ?_
      simpa only [List.append_assoc] using h
    refine star_not_mem_countMark hcount (Chars.mem_of_append_comm hcomm countMark_ne_nil ?_)
    exact List.mem_append_left front hstar
  · rw [withCount_eq_self hrest, List.append_cancel_right_eq] at h
    exact countMark_ne_nil (List.append_left_eq_self.1 h.symm)

/-! ### Counted labels -/

/-- Whether a text is a label in bold italics with a count inside, and with the rest as it was. -/
def CountedIn (label : String) (count : Int) (rest text : String) : Prop :=
  ∃ front back, label = front ++ back ∧
    text = "***" ++ front ++ " (" ++ toString count ++ ")" ++ back ++ "***" ++ rest

variable {label rest : String}

theorem toList_labelled (label rest : String) : ("***" ++ label ++ "***" ++ rest).toList =
    stars ++ (label.toList ++ stars ++ rest.toList) := by
  simp only [String.toList_append, List.append_assoc]
  rfl

theorem toList_counted (front back rest : String) :
    ("***" ++ front ++ " (" ++ toString count ++ ")" ++ back ++ "***" ++ rest).toList =
      stars ++ (front.toList ++ countMark count ++ back.toList ++ stars ++ rest.toList) := by
  simp only [countMark, String.toList_append, List.append_assoc]
  rfl

/-- The count is in the label exactly if the label has a place for it. -/
theorem countedIn_withCount_iff (hcount : 1 < count) (hrest : rest.toList.head? ≠ some '*') :
    CountedIn label count rest
      (String.ofList (withCount count ("***" ++ label ++ "***" ++ rest).toList)) ↔
    periodEnd <:+: label.toList ++ stars := by
  rw [toList_labelled, withCount_stars_append]
  constructor
  · rintro ⟨front, back, rfl, htext⟩
    by_contra hnone
    rw [withCount_append hnone hrest, ← String.toList_inj, String.toList_ofList, toList_counted,
      List.append_cancel_left_eq, String.toList_append] at htext
    have hmoved : (back.toList ++ stars) ++ withCount count rest.toList =
        countMark count ++ (back.toList ++ stars) ++ rest.toList := by
      refine (List.append_cancel_left_eq front.toList _ _).mp ?_
      simpa only [List.append_assoc] using htext
    exact append_withCount_ne hcount (List.mem_append_right _ List.mem_cons_self) hmoved
  · intro hplace
    obtain ⟨front, back, heq, hall⟩ := exists_withCount_append count hplace
    have hlength := congrArg List.length heq
    simp only [List.length_append, periodEnd, stars, List.length_cons, List.length_nil] at hlength
    -- The period is in the label, so the asterisks behind the label are behind the period too.
    obtain ⟨inner, hinner⟩ : front <+: label.toList := by
      refine List.prefix_of_prefix_length_le ⟨periodEnd ++ back, ?_⟩ (List.prefix_append _ stars) ?_
      · rw [heq, List.append_assoc]
      · omega
    rw [← hinner, List.append_assoc, List.append_assoc, List.append_cancel_left_eq] at heq
    refine ⟨String.ofList front, String.ofList inner, ?_, ?_⟩
    · rw [← String.toList_inj, String.toList_append, String.toList_ofList, String.toList_ofList,
        hinner]
    · rw [hall, ← String.toList_inj, String.toList_ofList, toList_counted, String.toList_ofList,
        String.toList_ofList]
      simp only [List.append_assoc, heq]

/-- A label closes with a period, or has one with asterisks behind it inside the name. -/
theorem periodEnd_infix_label_iff {name : String} :
    periodEnd <:+: (labelText name).toList ++ stars ↔
      ¬ HasOwnMark name ∨ periodEnd <:+: (labelText name).toList := by
  by_cases hmark : HasOwnMark name
  · have ⟨c, hlast, hc⟩ := hmark
    rw [← Markdown.labelText_of_hasOwnMark hmark] at hlast
    obtain ⟨stem, hstem⟩ := List.getLast?_eq_some_iff.1 hlast
    have hmem : c ∉ periodEnd := by rcases hc with rfl | rfl | rfl <;> decide
    constructor
    · intro h
      rw [hstem, List.append_assoc] at h
      rcases Chars.infix_append_cons hmem h with hfront | hback
      · rw [hstem]
        exact Or.inr (hfront.trans (List.prefix_append stem [c]).isInfix)
      · exact absurd hback.length_le (by decide)
    · rintro (hnot | h)
      · exact absurd hmark hnot
      · exact h.trans (List.prefix_append _ stars).isInfix
  · obtain ⟨stem, hstem⟩ := Markdown.exists_stem_of_not_hasOwnMark hmark
    refine iff_of_true ⟨stem.toList, [], ?_⟩ (Or.inl hmark)
    rw [hstem, String.toList_append, List.append_nil, List.append_assoc]
    rfl

variable {v : Json} {r : Record} {name : String}

theorem record?_of_named (hv : v.record? = some r) (hname : r.name? = some name) :
    (v.record?.filter fun r => r.name?.isSome) = some r := by
  rw [hv]
  refine Option.filter_some_pos ?_
  rw [hname, Option.isSome_some]

theorem featureText_of_named (s : Style) (hv : v.record? = some r) (hname : r.name? = some name) :
    featureText s v =
      "***" ++ labelText (s.expand name) ++ "***" ++ behindLabel (Render.children s r 2) := by
  have hdepth : (1 + 1 : UInt64) = 2 := rfl
  rw [featureText, record?_of_named hv hname]
  dsimp only
  rw [Render.namedEntry, Render.ledByName, hname, hdepth]
  dsimp only
  rw [Markdown.namedParagraph_eq, Markdown.nameLabel_boldItalic]

theorem feature_of_counted (s : Style) (hv : v.record? = some r) (hname : r.name? = some name)
    (hint : r.int? "count" = some count) (hcount : 1 < count) :
    feature s v = String.ofList (withCount count ("***" ++ labelText (s.expand name) ++ "***" ++
      behindLabel (Render.children s r 2)).toList) := by
  rw [← featureText_of_named s hv hname, feature, record?_of_named hv hname, Option.bind_some, hint]
  exact if_pos hcount

theorem countedIn_feature_iff (s : Style) (hv : v.record? = some r) (hname : r.name? = some name)
    (hint : r.int? "count" = some count) (hcount : 1 < count) :
    CountedIn (labelText (s.expand name)) count (behindLabel (Render.children s r 2))
        (feature s v) ↔
      ¬ HasOwnMark (s.expand name) ∨ periodEnd <:+: (labelText (s.expand name)).toList := by
  rw [feature_of_counted s hv hname hint hcount,
    countedIn_withCount_iff hcount (Markdown.head?_behindLabel _), periodEnd_infix_label_iff]

/-- **The count of a feature.**  An element with a name is shown as a label in bold italics and its
body.  A count greater than one stands inside the label, with the body as it was, exactly if the
name brings no mark of its own or holds a period that three asterisks follow.  It stands right in
front of the final period of a name that holds no such period.  Otherwise the label is left without
the count, and the body gets it, or nothing does if the body has no place for it. -/
theorem feature_count_in_label_iff (s : Style) (v : Json) (r : Record) (name : String) (count : Int)
    (hv : v.record? = some r) (hname : r.name? = some name)
    (hint : r.int? "count" = some count) (hcount : 1 < count) :
    let label := labelText (s.expand name)
    let rest := behindLabel (Render.children s r 2)
    featureText s v = "***" ++ label ++ "***" ++ rest ∧
    (CountedIn label count rest (feature s v) ↔
      ¬ HasOwnMark (s.expand name) ∨ periodEnd <:+: label.toList) ∧
    (∀ stem, label = stem ++ "." → ¬ periodEnd <:+: stem.toList →
      feature s v = "***" ++ stem ++ " (" ++ toString count ++ ").***" ++ rest) ∧
    (HasOwnMark (s.expand name) → ¬ periodEnd <:+: label.toList →
      feature s v = "***" ++ label ++ "***" ++ String.ofList (withCount count rest.toList) ∧
      (¬ periodEnd <:+: rest.toList → feature s v = featureText s v)) := by
  intro label rest
  have htext : featureText s v = "***" ++ label ++ "***" ++ rest := featureText_of_named s hv hname
  have hfeature : feature s v =
      String.ofList (withCount count ("***" ++ label ++ "***" ++ rest).toList) :=
    feature_of_counted s hv hname hint hcount
  refine ⟨htext, countedIn_feature_iff s hv hname hint hcount, ?_, ?_⟩
  · intro stem hstem hnone
    have hend : (stem ++ ".").toList ++ stars ++ rest.toList =
        stem.toList ++ (periodEnd ++ rest.toList) := by
      simp only [String.toList_append, List.append_assoc]
      rfl
    have hplace : withCount count (periodEnd ++ rest.toList) =
        countMark count ++ (periodEnd ++ rest.toList) :=
      withCount_front (List.prefix_append _ _)
    have hdot : (periodEnd ++ rest.toList).head? ≠ some '*' := by
      intro h
      cases h
    rw [hfeature, hstem, toList_labelled, withCount_stars_append, hend,
      withCount_append hnone hdot, hplace, ← String.toList_inj, String.toList_ofList]
    simp only [countMark, String.toList_append, List.append_assoc]
    rfl
  · intro hmark hnone
    have hlabel : ¬ periodEnd <:+: label.toList ++ stars := by
      rw [periodEnd_infix_label_iff]
      exact not_or.2 ⟨not_not.2 hmark, hnone⟩
    have hleft : feature s v =
        "***" ++ label ++ "***" ++ String.ofList (withCount count rest.toList) := by
      rw [hfeature, toList_labelled, withCount_stars_append,
        withCount_append hlabel (Markdown.head?_behindLabel _), ← String.toList_inj,
        String.toList_ofList, toList_labelled, String.toList_ofList]
    refine ⟨hleft, fun hbody => ?_⟩
    rw [hleft, withCount_eq_self hbody, String.ofList_toList, htext]

/-- Four elements of one name, with one entry. -/
def fourOf (name entry : String) : Record :=
  ⟨[("name", .str name), ("count", .num (.int 4)), ("entries", .arr [.str entry])]⟩

theorem children_fourOf (s : Style) (name entry : String) (depth : UInt64) :
    Render.children s (fourOf name entry) depth = Markdown.joinBlocks [s.expand entry] := by
  rw [Render.children_of_some (v := .arr [.str entry]) rfl]
  simp only [Render.value, List.attach_cons, List.attach_nil, List.map_cons, List.map_nil]

/-- Four ballistas: the count stands in front of the period. -/
theorem feature_count_in_label_iff_ballista :
    let s := Style.make true 2
    let r := fourOf "Ballista" "Each hits on a 12."
    let v : Json := .obj r.fields
    v.record? = some r ∧ r.name? = some "Ballista" ∧ r.int? "count" = some 4 ∧ (1 : Int) < 4 ∧
      feature s v = "***Ballista (4).*** Each hits on a 12." := by
  intro s r v
  have hlabel : labelText (s.expand "Ballista") = "Ballista" ++ "." := by decide +kernel
  obtain ⟨-, -, hstem, -⟩ := feature_count_in_label_iff s v r "Ballista" 4 rfl rfl rfl (by decide)
  refine ⟨rfl, rfl, rfl, by decide, ?_⟩
  rw [hstem "Ballista" hlabel (by decide +kernel), children_fourOf]
  decide +kernel

/-- **A name that ends in an exclamation mark** is left without its count: the count is lost, or
goes to a name inside the body. -/
theorem feature_count_misses_label :
    let s := Style.make true 2
    let lost : Json := .obj (fourOf "Fire!" "Each hits on a 12.").fields
    let moved : Json := .obj (fourOf "Fire!" "\x7b@b \x7b@i Now.\x7d\x7d").fields
    feature s lost = "***Fire!*** Each hits on a 12." ∧
    ¬ CountedIn "Fire!" 4 " Each hits on a 12." (feature s lost) ∧
    feature s moved = "***Fire!*** ***Now (4).***" ∧
    ¬ CountedIn "Fire!" 4 " ***Now.***" (feature s moved) := by
  intro s lost moved
  have hlabel : labelText (s.expand "Fire!") = "Fire!" := by decide +kernel
  have hmark : HasOwnMark (s.expand "Fire!") := ⟨'!', by decide +kernel, Or.inl rfl⟩
  have hnone : ¬ (¬ HasOwnMark (s.expand "Fire!") ∨ periodEnd <:+: "Fire!".toList) :=
    not_or.2 ⟨not_not.2 hmark, by decide +kernel⟩
  have hlost : behindLabel (Render.children s (fourOf "Fire!" "Each hits on a 12.") 2) =
      " Each hits on a 12." := by
    rw [children_fourOf]
    decide +kernel
  have hmoved : behindLabel (Render.children s (fourOf "Fire!" "\x7b@b \x7b@i Now.\x7d\x7d") 2) =
      " ***Now.***" := by
    rw [children_fourOf]
    decide +kernel
  refine ⟨?_, ?_, ?_, ?_⟩
  · rw [feature_of_counted s (v := lost) rfl rfl rfl (by decide), hlabel, hlost]
    decide +kernel
  · have hiff := countedIn_feature_iff s (v := lost) rfl rfl rfl (by decide : (1 : Int) < 4)
    rw [hlabel, hlost] at hiff
    exact mt hiff.1 hnone
  · rw [feature_of_counted s (v := moved) rfl rfl rfl (by decide), hlabel, hmoved]
    decide +kernel
  · have hiff := countedIn_feature_iff s (v := moved) rfl rfl rfl (by decide : (1 : Int) < 4)
    rw [hlabel, hmoved] at hiff
    exact mt hiff.1 hnone

end Document.Vehicle

end Compendium
