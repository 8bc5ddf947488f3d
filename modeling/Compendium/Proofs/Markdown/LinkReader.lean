import Mathlib.Data.List.Basic
import Compendium.Proofs.Chars
import Compendium.Proofs.Markdown.Target

/-!
# Reading the links of a page

A reader goes through a page one character at a time.  A bracket opens a text and the next closing
one ends it; if a target in parentheses follows at once, it is a link, and brackets that were open
before belong to no other one.  Nothing of this goes on behind the end of a line.

Behind a link that is written the reader is where it was at the start of the line, whatever the text
of the link is (`after_link`).  So a page has the links of its lines (`linkTargets_join`), and a
line that begins with a link those of the link and those of the rest (`linkTargets_link_append`).
-/

namespace Compendium.Markdown

/-- Where a reader is: in text under so many open brackets, right behind a closing bracket, or in a
target. -/
inductive Reading where
  | text (opened : Nat)
  | closed (opened : Nat)
  | target (front : List Char)

/-- A character of text. -/
def readText (opened : Nat) (c : Char) : Reading :=
  if c = '[' then .text (opened + 1)
  else if c = ']' ∧ opened ≠ 0 then .closed (opened - 1)
  else .text opened

/-- One character: where the reader is behind it, and the target that it ends. -/
def readNext (r : Reading) (c : Char) : Reading × Option String :=
  if c = '\n' then (.text 0, none)
  else
    match r with
    | .text opened => (readText opened c, none)
    | .closed opened => (if c = '(' then .target [] else readText opened c, none)
    | .target front =>
      if c = ')' then (.text 0, some (String.ofList front)) else (.target (front ++ [c]), none)

/-- The targets that end in a text. -/
def targetsFrom (r : Reading) : List Char → List String
  | [] => []
  | c :: rest => (readNext r c).2.toList ++ targetsFrom (readNext r c).1 rest

/-- Where the reader is behind a text. -/
def after (r : Reading) (s : List Char) : Reading :=
  s.foldl (fun r c => (readNext r c).1) r

/-- The targets of the links in a text. -/
def linkTargets (s : String) : List String :=
  targetsFrom (.text 0) s.toList

variable {r : Reading} {s t : List Char} {text target : String}

theorem targetsFrom_append (r : Reading) (s t : List Char) :
    targetsFrom r (s ++ t) = targetsFrom r s ++ targetsFrom (after r s) t := by
  induction s generalizing r with
  | nil => rfl
  | cons c rest ih =>
    rw [List.cons_append, targetsFrom, targetsFrom, ih, List.append_assoc]
    rfl

theorem after_append (r : Reading) (s t : List Char) : after r (s ++ t) = after (after r s) t :=
  List.foldl_append

theorem after_lineFeed (r : Reading) (s : List Char) : after r (s ++ ['\n']) = .text 0 := by
  rw [after_append]
  rfl

theorem targetsFrom_lineFeed (r : Reading) (s : List Char) :
    targetsFrom r (s ++ ['\n']) = targetsFrom r s := by
  rw [targetsFrom_append]
  exact List.append_nil _

/-! ### Text and targets -/

/-- Text without brackets leaves the reader where it is. -/
theorem read_text (h : ∀ c ∈ s, c ≠ '[' ∧ c ≠ ']' ∧ c ≠ '\n') (opened : Nat) :
    after (.text opened) s = .text opened ∧ targetsFrom (.text opened) s = [] := by
  induction s with
  | nil => exact ⟨rfl, rfl⟩
  | cons c rest ih =>
    obtain ⟨⟨hopen, hclose, hline⟩, hrest⟩ := List.forall_mem_cons.1 h
    have hnext : readNext (.text opened) c = (.text opened, none) := by
      simp [readNext, readText, hopen, hclose, hline]
    rw [targetsFrom, after, List.foldl_cons, hnext]
    exact ih hrest

/-- A target is read up to its closing parenthesis. -/
theorem read_target (h : ∀ c ∈ s, c ≠ ')' ∧ c ≠ '\n') (front : List Char) :
    after (.target front) s = .target (front ++ s) ∧ targetsFrom (.target front) s = [] := by
  induction s generalizing front with
  | nil => exact ⟨congrArg Reading.target (List.append_nil front).symm, rfl⟩
  | cons c rest ih =>
    obtain ⟨⟨hclose, hline⟩, hrest⟩ := List.forall_mem_cons.1 h
    have hnext : readNext (.target front) c = (.target (front ++ [c]), none) := by
      simp [readNext, hclose, hline]
    have hfront : front ++ c :: rest = front ++ [c] ++ rest := by simp
    rw [targetsFrom, after, List.foldl_cons, hnext, hfront]
    exact ih hrest (front ++ [c])

theorem targetsFrom_eq_nil (s : List Char) (opened : Nat) :
    (¬ [']', '('] <:+: s → targetsFrom (.text opened) s = []) ∧
      (¬ [']', '('] <:+: ']' :: s → targetsFrom (.closed opened) s = []) := by
  induction s generalizing opened with
  | nil => exact ⟨fun _ => rfl, fun _ => rfl⟩
  | cons c rest ih =>
    have htext : ¬ [']', '('] <:+: c :: rest → targetsFrom (readText opened c) rest = [] := by
      intro h
      have hrest : ¬ [']', '('] <:+: rest :=
        fun hi => h (hi.trans (List.suffix_cons c rest).isInfix)
      unfold readText
      split
      · exact (ih _).1 hrest
      · split
        · next hclose => exact (ih _).2 (hclose.1 ▸ h)
        · exact (ih _).1 hrest
    have hline : ¬ [']', '('] <:+: c :: rest → targetsFrom (.text 0) rest = [] :=
      fun h => (ih 0).1 fun hi => h (hi.trans (List.suffix_cons c rest).isInfix)
    constructor
    · intro h
      rw [targetsFrom, readNext]
      split
      · exact hline h
      · exact htext h
    · intro h
      have hc : c ≠ '(' := by
        rintro rfl
        exact h (List.prefix_append [']', '('] rest).isInfix
      have hcons : ¬ [']', '('] <:+: c :: rest :=
        fun hi => h (hi.trans (List.suffix_cons ']' (c :: rest)).isInfix)
      have hnext : readNext (.closed opened) c = readNext (.text opened) c := by
        simp only [readNext, if_neg hc]
      rw [targetsFrom, hnext, readNext]
      split
      · exact hline hcons
      · exact htext hcons

/-- **A text where no parenthesis opens right behind a closing bracket has no links.** -/
theorem linkTargets_eq_nil (h : ¬ [']', '('] <:+: text.toList) : linkTargets text = [] :=
  (targetsFrom_eq_nil text.toList 0).1 h

/-! ### Links -/

/-- What a target holds if nothing in it ends it or is a bracket. -/
def IsPlainTarget (target : String) : Prop :=
  ∀ c ∈ target.toList, c ≠ '[' ∧ c ≠ ']' ∧ c ≠ ')' ∧ c ≠ '\n'

theorem after_brackets (r : Reading) :
    after r [']', '('] = .text 0 ∨ ∃ front, after r [']', '('] = .target front := by
  have hclosed : ∀ opened, after (readText opened ']') ['('] = .text 0 ∨
      after (readText opened ']') ['('] = .target [] := by
    intro opened
    cases opened with
    | zero => exact Or.inl rfl
    | succ opened => exact Or.inr rfl
  cases r with
  | text opened => exact (hclosed opened).imp_right fun h => ⟨_, h⟩
  | closed opened => exact (hclosed opened).imp_right fun h => ⟨_, h⟩
  | target front => exact Or.inr ⟨_, rfl⟩

/-- **Behind the target of a link** the reader is where it was at the start of the line. -/
theorem after_link (h : IsPlainTarget target) (r : Reading) :
    after r ("](" ++ target ++ ")").toList = .text 0 := by
  have hchars : ("](" ++ target ++ ")").toList = [']', '('] ++ (target.toList ++ [')']) := by
    simp
  rw [hchars, after_append, after_append]
  rcases after_brackets r with hr | ⟨front, hr⟩
  · rw [hr, (read_text (fun c hc => ⟨(h c hc).1, (h c hc).2.1, (h c hc).2.2.2⟩) 0).1]
    rfl
  · rw [hr, (read_target (fun c hc => (h c hc).2.2) front).1]
    rfl

/-- What a link and a text behind it have. -/
theorem linkTargets_link_append (h : IsPlainTarget target) (text rest : String) :
    linkTargets ("[" ++ text ++ "](" ++ target ++ ")" ++ rest) =
      linkTargets ("[" ++ text ++ "](" ++ target ++ ")") ++ linkTargets rest := by
  have hlink : "[" ++ text ++ "](" ++ target ++ ")" =
      "[" ++ text ++ ("](" ++ target ++ ")") := by
    simp only [String.append_assoc]
  have hafter : after (.text 0) ("[" ++ text ++ ("](" ++ target ++ ")")).toList = .text 0 := by
    rw [String.toList_append, after_append, after_link h]
  rw [hlink, linkTargets, String.toList_append, targetsFrom_append, hafter]
  rfl

/-- **A link whose text has no brackets** has its target. -/
theorem linkTargets_link (h : IsPlainTarget target)
    (htext : ∀ c ∈ text.toList, c ≠ '[' ∧ c ≠ ']' ∧ c ≠ '\n') :
    linkTargets ("[" ++ text ++ "](" ++ target ++ ")") = [target] := by
  have hchars : ("[" ++ text ++ "](" ++ target ++ ")").toList =
      '[' :: (text.toList ++ ([']', '('] ++ (target.toList ++ [')']))) := by
    simp
  have hbrackets : after (.text 1) [']', '('] = .target [] ∧
      targetsFrom (.text 1) [']', '('] = [] := ⟨rfl, rfl⟩
  obtain ⟨hafter, hnone⟩ := read_text htext 1
  obtain ⟨hafterTarget, hnoneTarget⟩ := read_target (fun c hc => (h c hc).2.2) []
  have hopen : readNext (.text 0) '[' = (.text 1, none) := rfl
  rw [linkTargets, hchars, targetsFrom, hopen]
  simp only [targetsFrom_append, hafter, hnone, hbrackets, hafterTarget, hnoneTarget]
  simp [targetsFrom, readNext]

/-- The dash in front of an item holds no link. -/
theorem linkTargets_dash_append (s : String) : linkTargets ("- " ++ s) = linkTargets s := by
  rw [linkTargets, String.toList_append, targetsFrom_append]
  rfl

/-- **A page has the links of its lines.** -/
theorem linkTargets_join (lines : List String) :
    linkTargets (String.join (lines.map fun line => line ++ "\n")) =
      lines.flatMap linkTargets := by
  have hnil : linkTargets "" = [] := rfl
  induction lines with
  | nil => exact hnil
  | cons line rest ih =>
    have hjoin : (String.join ((line :: rest).map fun line => line ++ "\n")).toList =
        (line.toList ++ ['\n']) ++ (String.join (rest.map fun line => line ++ "\n")).toList := by
      simp
    rw [linkTargets, hjoin, targetsFrom_append, targetsFrom_lineFeed, after_lineFeed,
      List.flatMap_cons, ← ih]
    rfl

end Compendium.Markdown
