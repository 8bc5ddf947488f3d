import Mathlib.Data.List.Infix
import Compendium.Inline.Expansion

/-!
# Expanding a text part by part

Expansion cuts a text into characters and tags and expands each by itself, so it is
compositional as soon as the cut is.  A cut between two parts goes wrong only where a tag
reaches over it: if an opening in the first part finds its closing brace in the second, or
if the cut itself divides an opening.  Otherwise the pieces of both parts are the pieces of
the whole (`segments_append`), because a closing brace that was found stays where it is when
text is added behind it (`closing?_append`).

* `expand_compositional`: expansion of a text with such a cut, of a text behind an opening
  that never closes, and of a text without openings.
-/

namespace Compendium.Inline

/-! ### Closing braces -/

theorem eq_append_of_closing? {depth : Nat} {s body after : List Char}
    (h : closing? depth s = some (body, after)) : s = body ++ '\x7d' :: after := by
  induction s generalizing depth body with
  | nil => cases h
  | cons c rest ih =>
    rw [closing?] at h
    by_cases hend : (c = '\x7d' && depth ≤ 1) = true
    · rw [if_pos hend] at h
      cases h
      rw [Bool.and_eq_true, decide_eq_true_eq] at hend
      rw [hend.1, List.nil_append]
    · rw [if_neg hend] at h
      obtain ⟨⟨inner, tail⟩, hrest, he⟩ := Option.map_eq_some_iff.1 h
      cases he
      rw [ih hrest, List.cons_append]

/-- **Text behind the closing brace does not move it.** -/
theorem closing?_append {depth : Nat} {s body after : List Char}
    (h : closing? depth s = some (body, after)) (t : List Char) :
    closing? depth (s ++ t) = some (body, after ++ t) := by
  induction s generalizing depth body with
  | nil => cases h
  | cons c rest ih =>
    rw [closing?] at h
    rw [List.cons_append, closing?]
    by_cases hend : (c = '\x7d' && depth ≤ 1) = true
    · rw [if_pos hend] at h ⊢
      cases h
      rfl
    · rw [if_neg hend] at h ⊢
      obtain ⟨⟨inner, tail⟩, hrest, he⟩ := Option.map_eq_some_iff.1 h
      cases he
      rw [ih hrest]
      rfl

/-- Whether every opening in a text finds its closing brace there. -/
def OpeningsClose (a : List Char) : Prop :=
  ∀ rest, '\x7b' :: '@' :: rest <:+ a → (closing? 1 rest).isSome = true

theorem OpeningsClose.of_suffix {a b : List Char} (ha : OpeningsClose a) (h : b <:+ a) :
    OpeningsClose b :=
  fun rest hr => ha rest (hr.trans h)

instance : DecidablePred OpeningsClose := fun a =>
  decidable_of_iff
    (∀ t ∈ a.tails, ['\x7b', '@'] <+: t → (closing? 1 (t.drop 2)).isSome = true) <| by
    constructor
    · intro h rest hr
      exact h ('\x7b' :: '@' :: rest) ((List.mem_tails _ _).2 hr) ⟨rest, rfl⟩
    · rintro h t ht ⟨rest, rfl⟩
      exact h rest ((List.mem_tails _ _).1 ht)

/-! ### Pieces -/

theorem segments_of_closing?_eq_some {rest body after : List Char}
    (h : closing? 1 rest = some (body, after)) :
    segments ('\x7b' :: '@' :: rest) = .tag body :: segments after := by
  rw [segments]
  split
  · next b a hs =>
    rw [h] at hs
    cases hs
    rfl
  · next hs =>
    rw [h] at hs
    cases hs

theorem segments_of_closing?_eq_none {rest : List Char} (h : closing? 1 rest = none) :
    segments ('\x7b' :: '@' :: rest) = .char '\x7b' :: .char '@' :: segments rest := by
  rw [segments]
  split
  · next b a hs =>
    rw [h] at hs
    cases hs
  · rfl

theorem segments_cons {c : Char} {rest : List Char}
    (h : ¬ (c = '\x7b' ∧ rest.head? = some '@')) :
    segments (c :: rest) = .char c :: segments rest := by
  rw [segments]
  rintro inner rfl rfl
  exact h ⟨rfl, rfl⟩

/-- Whether the cut between two texts divides an opening. -/
def CutsOpening (a b : List Char) : Prop :=
  a.getLast? = some '\x7b' ∧ b.head? = some '@'

instance (a b : List Char) : Decidable (CutsOpening a b) :=
  inferInstanceAs (Decidable (_ ∧ _))

theorem CutsOpening.of_suffix {a b c : List Char} (h : c <:+ a) (hcut : CutsOpening c b) :
    CutsOpening a b := by
  obtain ⟨front, rfl⟩ := h
  refine ⟨?_, hcut.2⟩
  rw [List.getLast?_append, hcut.1]
  rfl

/-- **Parts are cut into their own pieces**, if no tag reaches over the cut between them. -/
theorem segments_append (a b : List Char) (ha : OpeningsClose a) (hcut : ¬ CutsOpening a b) :
    segments (a ++ b) = segments a ++ segments b := by
  -- The cut of the first text goes on behind a tag or a character, at an end of that text, and
  -- both assumptions pass to the ends.
  fun_induction segments a with
  | case1 => rfl
  | case2 rest body after hclose ih =>
    have hrest := eq_append_of_closing? hclose
    have hsuffix : after <:+ '\x7b' :: '@' :: rest :=
      ⟨'\x7b' :: '@' :: (body ++ ['\x7d']), by rw [hrest]; simp⟩
    have hafter := ih (ha.of_suffix hsuffix) fun hc => hcut (hc.of_suffix hsuffix)
    rw [List.cons_append, List.cons_append,
      segments_of_closing?_eq_some (closing?_append hclose b), hafter, List.cons_append]
  | case3 rest hclose ih =>
    have hsome := ha rest (List.suffix_refl _)
    rw [hclose] at hsome
    cases hsome
  | case4 c rest hopen ih =>
    have hsuffix : rest <:+ c :: rest := List.suffix_cons c rest
    have hrest := ih (ha.of_suffix hsuffix) fun hc => hcut (hc.of_suffix hsuffix)
    -- The second text could make an opening only with the last character of the first.
    have hfirst : ¬ (c = '\x7b' ∧ (rest ++ b).head? = some '@') := by
      rintro ⟨hc, hhead⟩
      cases rest with
      | nil => exact hcut ⟨by rw [hc]; rfl, hhead⟩
      | cons d inner =>
        obtain rfl : d = '@' := Option.some.inj hhead
        exact hopen inner hc rfl
    rw [List.cons_append, segments_cons hfirst, hrest, List.cons_append]

theorem segments_eq_map {a : List Char} (ha : ∀ rest, ¬ '\x7b' :: '@' :: rest <:+ a) :
    segments a = a.map .char := by
  induction a with
  | nil => rw [segments]; rfl
  | cons c rest ih =>
    have hfirst : ¬ (c = '\x7b' ∧ rest.head? = some '@') := by
      rintro ⟨rfl, hhead⟩
      cases rest with
      | nil => cases hhead
      | cons d inner =>
        obtain rfl : d = '@' := Option.some.inj hhead
        exact ha inner (List.suffix_refl _)
    have hrest := ih fun inner hi => ha inner (hi.trans (List.suffix_cons c rest))
    rw [segments_cons hfirst, hrest, List.map_cons]

/-! ### Expansion -/

section Expansion

variable (mode : Mode)

theorem expandTo_append (depth : Nat) {a b : List Char} (ha : OpeningsClose a)
    (hcut : ¬ CutsOpening a b) :
    expandTo mode depth (a ++ b) = expandTo mode depth a ++ expandTo mode depth b := by
  cases depth with
  | zero => rfl
  | succ depth =>
    rw [expandTo, expandTo, expandTo, segments_append a b ha hcut, List.flatMap_append]

theorem expandTo_of_closing?_eq_none (depth : Nat) {b : List Char} (hb : closing? 1 b = none) :
    expandTo mode depth ('\x7b' :: '@' :: b) = '\x7b' :: '@' :: expandTo mode depth b := by
  cases depth with
  | zero => rfl
  | succ depth =>
    rw [expandTo, expandTo, segments_of_closing?_eq_none hb]
    rfl

theorem expandTo_eq_self (depth : Nat) {a : List Char}
    (ha : ∀ rest, ¬ '\x7b' :: '@' :: rest <:+ a) : expandTo mode depth a = a := by
  cases depth with
  | zero => rfl
  | succ depth =>
    rw [expandTo, segments_eq_map ha, List.flatMap_map]
    exact List.flatMap_singleton' a

/-- **Expansion is compositional**, to Markdown with links or without and to plain text.  Parts
are expanded by themselves if every opening in the first is closed there and the cut divides
no opening; an opening that never closes stays as it is and leaves what follows alone; and text
without openings stays as it is. -/
theorem expand_compositional :
    (∀ a b : String, OpeningsClose a.toList → ¬ CutsOpening a.toList b.toList →
      expand mode (a ++ b) = expand mode a ++ expand mode b) ∧
    (∀ b : String, closing? 1 b.toList = none →
      expand mode ("\x7b@" ++ b) = "\x7b@" ++ expand mode b) ∧
    ∀ text : String, (∀ rest, ¬ '\x7b' :: '@' :: rest <:+ text.toList) →
      expand mode text = text := by
  refine ⟨?_, ?_, ?_⟩
  · intro a b ha hcut
    rw [expand, String.toList_append, expandTo_append mode maxDepth ha hcut, String.ofList_append]
    rfl
  · intro b hb
    have hchars : ("\x7b@" ++ b).toList = '\x7b' :: '@' :: b.toList := String.toList_append
    have hrest : (expand mode b).toList = expandTo mode maxDepth b.toList := String.toList_ofList
    apply String.toList_injective
    rw [expand, hchars, expandTo_of_closing?_eq_none mode maxDepth hb, String.toList_ofList,
      String.toList_append, hrest]
    rfl
  · intro text ht
    rw [expand, expandTo_eq_self mode maxDepth ht, String.ofList_toList]

/-- A sentence with a tag inside a tag and a stray brace, cut in front of a tag; an opening that
never closes in front of a tag that does; and text with braces of its own. -/
theorem expand_compositional_fire :
    let a := "Deals \x7b@b \x7b@damage 2d6\x7d or more\x7d fire\x7d \x7b"
    let b := " \x7b@i now"
    let text := "\x7bplain\x7d @"
    (OpeningsClose a.toList ∧ ¬ CutsOpening a.toList b.toList ∧ closing? 1 b.toList = none ∧
      ∀ rest, ¬ '\x7b' :: '@' :: rest <:+ text.toList) ∧
    expand (.markdown true) (a ++ b) = expand (.markdown true) a ++ expand (.markdown true) b ∧
    expand (.markdown true) ("\x7b@" ++ b) = "\x7b@" ++ expand (.markdown true) b ∧
    expand (.markdown true) text = text := by
  intro a b text
  have ha : OpeningsClose a.toList := by decide
  have hcut : ¬ CutsOpening a.toList b.toList := by decide
  have hb : closing? 1 b.toList = none := by decide
  have htext : ∀ rest, ¬ '\x7b' :: '@' :: rest <:+ text.toList := by
    intro rest hr
    have hm : '\x7b' :: '@' :: rest ∈ text.toList.tails := (List.mem_tails _ _).2 hr
    have hnone : ∀ t ∈ text.toList.tails, ¬ ['\x7b', '@'] <+: t := by decide
    exact hnone _ hm ⟨rest, rfl⟩
  obtain ⟨happend, hopen, hverbatim⟩ := expand_compositional (.markdown true)
  exact ⟨⟨ha, hcut, hb, htext⟩, happend a b ha hcut, hopen b hb, hverbatim text htext⟩

end Expansion

end Compendium.Inline
