import Compendium.Proofs.Inline.Nesting

/-!
# Tags are read as they are written

A tag is written as its name, a space and its arguments with pipes between them.  Reading it counts
the braces that are open: a text with balanced braces leaves the counter as it was, so braces that
were open in front of it stay open (`Completes`), the closing brace of a tag is the one behind its
body, and only the pipes between the arguments cut (`cutArguments_intercalate`).  Whatever the text
of a tag, the cut loses nothing and leaves no argument that could be cut again
(`exists_cutArguments_eq`).

* `parse_inverts_print`: what was written is read, and what is read makes up the text.
-/

namespace Compendium.Inline

open Compendium.Chars

/-! ### Balanced braces -/

/-- A text whose braces are balanced: nowhere have more been closed than opened, and all are closed
in the end. -/
structure Balanced (s : List Char) : Prop where
  front : ∀ front, front <+: s → front.count '\x7d' ≤ front.count '\x7b'
  whole : s.count '\x7b' = s.count '\x7d'

instance : DecidablePred Balanced := fun s =>
  decidable_of_iff ((∀ front ∈ s.inits, front.count '\x7d' ≤ front.count '\x7b') ∧
    s.count '\x7b' = s.count '\x7d') <| by
    constructor
    · rintro ⟨hfront, hwhole⟩
      exact ⟨fun front hf => hfront front ((List.mem_inits _ _).2 hf), hwhole⟩
    · rintro ⟨hfront, hwhole⟩
      exact ⟨fun front hf => hfront front ((List.mem_inits _ _).1 hf), hwhole⟩

/-- The rest of a text with balanced braces in whose front `depth` braces are open. -/
inductive Completes : Nat → List Char → Prop
  | nil : Completes 0 []
  | opening {depth : Nat} {rest : List Char} (h : Completes (depth + 1) rest) :
      Completes depth ('\x7b' :: rest)
  | closing {depth : Nat} {rest : List Char} (h : Completes depth rest) :
      Completes (depth + 1) ('\x7d' :: rest)
  | char {depth : Nat} {c : Char} {rest : List Char} (hopen : c ≠ '\x7b') (hclose : c ≠ '\x7d')
      (h : Completes depth rest) : Completes depth (c :: rest)

variable {depth : Nat} {s t : List Char}

theorem completes_of_count
    (hfront : ∀ front, front <+: s → front.count '\x7d' ≤ depth + front.count '\x7b')
    (hwhole : depth + s.count '\x7b' = s.count '\x7d') : Completes depth s := by
  induction s generalizing depth with
  | nil =>
    obtain rfl : depth = 0 := hwhole
    exact .nil
  | cons c rest ih =>
    -- A front of the rest, with this character, is a front of the text.
    have hcons : ∀ front, front <+: rest →
        (c :: front).count '\x7d' ≤ depth + (c :: front).count '\x7b' := by
      rintro front ⟨back, rfl⟩
      exact hfront (c :: front) ⟨back, rfl⟩
    by_cases hopen : c = '\x7b'
    · subst hopen
      refine .opening (ih (fun front hf => ?_) ?_)
      · have h := hcons front hf
        simp at h
        omega
      · simp at hwhole
        omega
    · by_cases hclose : c = '\x7d'
      · subst hclose
        obtain ⟨depth, rfl⟩ : ∃ less, depth = less + 1 := by
          have h := hcons [] List.nil_prefix
          simp at h
          exact Nat.exists_eq_add_of_le' h
        refine .closing (ih (fun front hf => ?_) ?_)
        · have h := hcons front hf
          simp at h
          omega
        · simp at hwhole
          omega
      · refine .char hopen hclose (ih (fun front hf => ?_) ?_)
        · simpa [hopen, hclose] using hcons front hf
        · simpa [hopen, hclose] using hwhole

theorem Completes.count (h : Completes depth s) :
    (∀ front, front <+: s → front.count '\x7d' ≤ depth + front.count '\x7b') ∧
      depth + s.count '\x7b' = s.count '\x7d' := by
  induction h with
  | nil => simp
  | opening _ ih =>
    refine ⟨fun front hf => ?_, ?_⟩
    · rcases List.prefix_cons_iff.1 hf with rfl | ⟨inner, rfl, hinner⟩
      · simp
      · have h := ih.1 inner hinner
        simp
        omega
    · have h := ih.2
      simp
      omega
  | closing _ ih =>
    refine ⟨fun front hf => ?_, ?_⟩
    · rcases List.prefix_cons_iff.1 hf with rfl | ⟨inner, rfl, hinner⟩
      · simp
      · have h := ih.1 inner hinner
        simp
        omega
    · have h := ih.2
      simp
      omega
  | char hopen hclose _ ih =>
    refine ⟨fun front hf => ?_, ?_⟩
    · rcases List.prefix_cons_iff.1 hf with rfl | ⟨inner, rfl, hinner⟩
      · simp
      · simpa [hopen, hclose] using ih.1 inner hinner
    · simpa [hopen, hclose] using ih.2

/-- **A balanced text is one that completes no braces but its own.** -/
theorem balanced_iff : Balanced s ↔ Completes 0 s := by
  constructor
  · rintro ⟨hfront, hwhole⟩
    exact completes_of_count (by simpa using hfront) (by simpa using hwhole)
  · intro h
    obtain ⟨hfront, hwhole⟩ := h.count
    exact ⟨by simpa using hfront, by simpa using hwhole⟩

theorem completes_of_forall (h : ∀ c ∈ s, c ≠ '\x7b' ∧ c ≠ '\x7d') : Completes 0 s := by
  induction s with
  | nil => exact .nil
  | cons c rest ih =>
    obtain ⟨hopen, hclose⟩ := h c List.mem_cons_self
    exact .char hopen hclose (ih fun d hd => h d (List.mem_cons_of_mem c hd))

namespace Completes

/-- Texts one after another complete what either of them completes. -/
theorem append {more : Nat} (hs : Completes depth s) (ht : Completes more t) :
    Completes (depth + more) (s ++ t) := by
  induction hs with
  | nil => rwa [Nat.zero_add]
  | opening _ ih => exact .opening (Nat.add_right_comm _ 1 more ▸ ih)
  | closing _ ih => exact Nat.add_right_comm _ more 1 ▸ .closing ih
  | char hopen hclose _ ih => exact .char hopen hclose ih

/-- The counter is what it was before the braces that the text completes. -/
theorem foldl_depthAfter (h : Completes depth s) (before : Nat) :
    s.foldl depthAfter (before + depth) = before := by
  induction h with
  | nil => rfl
  | opening _ ih => exact ih
  | closing _ ih => exact ih
  | char hopen hclose _ ih =>
    rw [List.foldl_cons, depthAfter_of_ne hopen hclose]
    exact ih

/-- **A tag ends with the brace behind its body**, whatever follows. -/
theorem closing? (h : Completes depth s) (after : List Char) :
    Inline.closing? (depth + 1) (s ++ '\x7d' :: after) = some (s, after) := by
  induction h with
  | nil => rfl
  | opening _ ih =>
    rw [List.cons_append, closing?_cons (fun h => absurd h (by decide)), depthAfter_open, ih]
    rfl
  | closing _ ih =>
    rw [List.cons_append, closing?_cons (fun _ => Nat.succ_lt_succ (Nat.succ_pos _)),
      depthAfter_close, Nat.succ_sub_one, ih]
    rfl
  | char hopen hclose _ ih =>
    rw [List.cons_append, closing?_cons (fun h => absurd h hclose), depthAfter_of_ne hopen hclose,
      ih]
    rfl

end Completes

/-! ### Arguments -/

/-- Every pipe of a text stands where braces are open, if `depth` are open in front of it. -/
def PipesInside (depth : Nat) (s : List Char) : Prop :=
  ∀ i, s[i]? = some '|' → (s.take i).foldl depthAfter depth ≠ 0

instance (depth : Nat) (s : List Char) : Decidable (PipesInside depth s) :=
  decidable_of_iff (∀ i < s.length, s[i]? = some '|' → (s.take i).foldl depthAfter depth ≠ 0)
    ⟨fun h i hi => h i (List.getElem?_eq_some_iff.1 hi).1 hi, fun h i _ => h i⟩

theorem pipesInside_nil (depth : Nat) : PipesInside depth [] := by
  intro i hi
  cases hi

theorem pipesInside_cons {c : Char} : PipesInside depth (c :: s) ↔
    ¬ (c = '|' ∧ depth = 0) ∧ PipesInside (depthAfter depth c) s := by
  constructor
  · intro h
    refine ⟨?_, fun i => h (i + 1)⟩
    rintro ⟨rfl, rfl⟩
    exact h 0 rfl rfl
  · rintro ⟨hc, h⟩ i hi
    cases i with
    | zero => exact fun hdepth => hc ⟨Option.some.inj hi, hdepth⟩
    | succ i => exact h i hi

theorem pipesInside_of_notMem (h : '|' ∉ s) : PipesInside depth s :=
  fun _ hi => absurd (List.mem_of_getElem? hi) h

theorem pipesInside_append (hs : PipesInside depth s)
    (ht : PipesInside (s.foldl depthAfter depth) t) : PipesInside depth (s ++ t) := by
  induction s generalizing depth with
  | nil => exact ht
  | cons c rest ih =>
    obtain ⟨hc, hrest⟩ := pipesInside_cons.1 hs
    exact pipesInside_cons.2 ⟨hc, ih hrest ht⟩

/-- In braces every pipe of a balanced text is inside. -/
theorem Completes.pipesInside (h : Completes depth s) : PipesInside (depth + 1) s := by
  induction h with
  | nil => exact pipesInside_nil _
  | opening _ ih =>
    exact pipesInside_cons.2 ⟨by simp, by rwa [depthAfter_open]⟩
  | closing _ ih =>
    exact pipesInside_cons.2 ⟨by simp, by rwa [depthAfter_close]⟩
  | char hopen hclose _ ih =>
    exact pipesInside_cons.2 ⟨by simp, by rwa [depthAfter_of_ne hopen hclose]⟩

/-- What may stand between the pipes of a tag: a text whose braces are balanced and all of whose
pipes are inside braces. -/
structure IsArgument (arg : List Char) : Prop where
  balanced : Balanced arg
  pipes : PipesInside 0 arg

instance : DecidablePred IsArgument := fun arg =>
  decidable_of_iff (Balanced arg ∧ PipesInside 0 arg)
    ⟨fun h => ⟨h.1, h.2⟩, fun h => ⟨h.balanced, h.pipes⟩⟩

theorem isArgument_of_notMem (hopen : '\x7b' ∉ s) (hclose : '\x7d' ∉ s) (hpipe : '|' ∉ s) :
    IsArgument s where
  balanced := by
    refine balanced_iff.2 (completes_of_forall fun c hc => ⟨?_, ?_⟩)
    · rintro rfl
      exact hopen hc
    · rintro rfl
      exact hclose hc
  pipes := pipesInside_of_notMem hpipe

theorem cutArguments_append {first : List Char} {others : List (List Char)}
    (h : PipesInside depth s) (hcut : cutArguments (s.foldl depthAfter depth) t = first :: others) :
    cutArguments depth (s ++ t) = (s ++ first) :: others := by
  induction s generalizing depth with
  | nil => exact hcut
  | cons c rest ih =>
    obtain ⟨hc, hrest⟩ := pipesInside_cons.1 h
    exact cutArguments_cons hc (ih hrest hcut)

namespace IsArgument

theorem foldl_depthAfter (h : IsArgument s) : s.foldl depthAfter 0 = 0 :=
  (balanced_iff.1 h.balanced).foldl_depthAfter 0

theorem cutArguments_eq (h : IsArgument s) : cutArguments 0 s = [s] := by
  have hnil : cutArguments (s.foldl depthAfter 0) [] = [[]] := rfl
  have hcut := cutArguments_append h.pipes hnil
  rwa [List.append_nil] at hcut

/-- A pipe behind an argument cuts. -/
theorem cutArguments_append_pipe (h : IsArgument s) (rest : List Char) :
    cutArguments 0 (s ++ '|' :: rest) = s :: cutArguments 0 rest := by
  have hpipe : cutArguments (s.foldl depthAfter 0) ('|' :: rest) = [] :: cutArguments 0 rest := by
    rw [h.foldl_depthAfter, cutArguments]
    rfl
  have hcut := cutArguments_append h.pipes hpipe
  rwa [List.append_nil] at hcut

end IsArgument

/-- **Arguments with pipes between them are cut into these arguments.** -/
theorem cutArguments_intercalate {args : List (List Char)} (hne : args ≠ [])
    (h : ∀ arg ∈ args, IsArgument arg) : cutArguments 0 (['|'].intercalate args) = args := by
  induction args with
  | nil => exact absurd rfl hne
  | cons arg rest ih =>
    have harg : IsArgument arg := h arg List.mem_cons_self
    cases rest with
    | nil => rw [List.intercalate_singleton, harg.cutArguments_eq]
    | cons next rest =>
      rw [List.intercalate_cons_cons, List.append_assoc, List.singleton_append,
        harg.cutArguments_append_pipe, ih (by simp) fun a ha => h a (List.mem_cons_of_mem arg ha)]

/-- **The cut loses nothing**, and in none of its pieces is a pipe that would be cut at. -/
theorem exists_cutArguments_eq (depth : Nat) (s : List Char) : ∃ first others,
    cutArguments depth s = first :: others ∧ ['|'].intercalate (first :: others) = s ∧
      PipesInside depth first ∧ ∀ arg ∈ others, PipesInside 0 arg := by
  induction s generalizing depth with
  | nil => exact ⟨[], [], rfl, rfl, pipesInside_nil depth, by simp⟩
  | cons c rest ih =>
    by_cases hpipe : c = '|' ∧ depth = 0
    · obtain ⟨rfl, rfl⟩ := hpipe
      obtain ⟨first, others, hcut, hwhole, hfirst, hothers⟩ := ih 0
      refine ⟨[], first :: others, ?_, ?_, pipesInside_nil 0, ?_⟩
      · rw [cutArguments, if_pos (by decide), hcut]
      · rw [List.intercalate_cons_cons, hwhole]
        rfl
      · exact List.forall_mem_cons.2 ⟨hfirst, hothers⟩
    · obtain ⟨first, others, hcut, hwhole, hfirst, hothers⟩ := ih (depthAfter depth c)
      refine ⟨c :: first, others, cutArguments_cons hpipe hcut, ?_,
        pipesInside_cons.2 ⟨hpipe, hfirst⟩, hothers⟩
      rw [Chars.intercalate_cons_front, hwhole]

/-! ### Whole tags -/

/-- A tag in writing, without its braces. -/
def Invocation.print (i : Invocation) : List Char :=
  i.name ++ ' ' :: ['|'].intercalate i.args

/-- A space ends the name of a tag, and white space behind it belongs to no argument. -/
theorem parse_spaced {name : List Char} (hne : name ≠ [])
    (hname : ∀ c ∈ name, Text.isSpace c = false) (text : List Char) :
    Invocation.parse (name ++ ' ' :: text) =
      ⟨name, if (trimStart text).isEmpty then [] else cutArguments 0 (trimStart text)⟩ := by
  have hfront : trimStart (name ++ ' ' :: text) = name ++ ' ' :: text := by
    refine trimStart_eq_self fun c hc => hname c ?_
    obtain ⟨first, rest, rfl⟩ := List.exists_cons_of_ne_nil hne
    obtain rfl : first = c := Option.some.inj hc
    exact List.mem_cons_self
  have hsolid : ∀ c ∈ name, (!Text.isSpace c) = true := fun c hc => by rw [hname c hc]; rfl
  have hend : ∀ c ∈ (' ' :: text).head?, (!Text.isSpace c) = false := by
    intro c hc
    obtain rfl : ' ' = c := Option.some.inj hc
    decide
  have htake := Chars.takeWhile_append_of_boundary hsolid hend
  have hdrop := Chars.dropWhile_append_of_boundary hsolid hend
  have hspace : trimStart (' ' :: text) = trimStart text := List.dropWhile_cons_of_pos (by decide)
  simp only [Invocation.parse, hfront, htake, hdrop, hspace]

/-- What is read of a tag and the white space between make up its text. -/
theorem exists_parse_eq (body : List Char) : ∃ space, isBlank space = true ∧
    trimStart body = (Invocation.parse body).name ++ space ++
      ['|'].intercalate (Invocation.parse body).args ∧
    ((Invocation.parse body).args ≠ [] → space ≠ []) ∧
    ∀ arg ∈ (Invocation.parse body).args, PipesInside 0 arg := by
  generalize hrest : (trimStart body).dropWhile (fun c => !Text.isSpace c) = rest
  have hbody : trimStart body =
      (trimStart body).takeWhile (fun c => !Text.isSpace c) ++ rest := by
    rw [← hrest, List.takeWhile_append_dropWhile]
  obtain ⟨space, hblank, hsplit⟩ := exists_front rest
  simp only [Invocation.parse, hrest]
  refine ⟨space, hblank, ?_⟩
  by_cases hnil : trimStart rest = []
  · rw [hnil, List.append_nil] at hsplit
    rw [hnil, if_pos List.isEmpty_nil, hsplit, List.intercalate_nil, List.append_nil]
    exact ⟨hbody, fun h => absurd rfl h, by simp⟩
  · obtain ⟨first, others, hcut, hwhole, hfirst, hothers⟩ :=
      exists_cutArguments_eq 0 (trimStart rest)
    rw [if_neg (by simpa using hnil), hcut, hwhole, List.append_assoc, hsplit]
    refine ⟨hbody, fun _ => ?_, List.forall_mem_cons.2 ⟨hfirst, hothers⟩⟩
    rintro rfl
    rw [List.nil_append] at hsplit
    -- What is left behind the name begins with the white space that ended it.
    cases rest with
    | nil => exact hnil rfl
    | cons c rest =>
      have hc := List.head?_dropWhile_not (fun c => !Text.isSpace c) (trimStart body)
      rw [hrest] at hc
      have hspace : Text.isSpace c = true := by simpa using hc
      have hsolid := front_trimStart (c :: rest) c (by rw [hsplit]; rfl)
      exact absurd (hspace.symm.trans hsolid) (by decide)

/-- **Reading and writing a tag are inverse.**  A tag whose name is solid, whose arguments have
balanced braces and pipes inside them only, and whose list of arguments can be seen behind the
space, is read as it was written, empty arguments included.  And whatever the text of a tag,
leading white space apart it is the name that is read, white space, and the arguments that are read
with pipes between them; in no argument a pipe stands where no brace is open. -/
theorem parse_inverts_print :
    (∀ i : Invocation, i.name ≠ [] → (∀ c ∈ i.name, Text.isSpace c = false) →
      (∀ arg ∈ i.args, IsArgument arg) → ['|'].intercalate i.args ≠ [] →
      (∀ c ∈ (['|'].intercalate i.args).head?, Text.isSpace c = false) →
      Invocation.parse i.print = i) ∧
    ∀ body, ∃ space, isBlank space = true ∧
      trimStart body = (Invocation.parse body).name ++ space ++
        ['|'].intercalate (Invocation.parse body).args ∧
      ((Invocation.parse body).args ≠ [] → space ≠ []) ∧
      ∀ arg ∈ (Invocation.parse body).args, PipesInside 0 arg := by
  refine ⟨fun i hname hsolid hargs hne hfront => ?_, exists_parse_eq⟩
  have hsome : i.args ≠ [] := by
    intro hnil
    rw [hnil] at hne
    exact hne rfl
  rw [Invocation.print, parse_spaced hname hsolid, trimStart_eq_self hfront,
    if_neg (by simpa using hne), cutArguments_intercalate hsome hargs]

/-- A tag with a tag in its first argument, an argument in braces and two empty ones; and a text
with a brace in its name and braces that nothing balances. -/
theorem parse_inverts_print_rage :
    let i : Invocation := ⟨"classFeature".toList,
      ["\x7b@b Rage|\x7bx|y\x7d\x7d now".toList, [], "\x7b|\x7d".toList, []]⟩
    let body := "  x\x7b\x7d a\x7d| b\x7bc|d".toList
    (i.name ≠ [] ∧ (∀ c ∈ i.name, Text.isSpace c = false) ∧ (∀ arg ∈ i.args, IsArgument arg) ∧
      ['|'].intercalate i.args ≠ [] ∧
      ∀ c ∈ (['|'].intercalate i.args).head?, Text.isSpace c = false) ∧
    i.print = "classFeature \x7b@b Rage|\x7bx|y\x7d\x7d now||\x7b|\x7d|".toList ∧
    Invocation.parse i.print = i ∧
    Invocation.parse body = ⟨"x\x7b\x7d".toList, ["a\x7d".toList, " b\x7bc|d".toList]⟩ := by
  intro i body
  have hall : (i.name.all fun c => Text.isSpace c == false) = true := by decide
  have hsolid : ∀ c ∈ i.name, Text.isSpace c = false := fun c hc =>
    eq_of_beq (List.all_eq_true.1 hall c hc)
  have hargs : ∀ arg ∈ i.args, IsArgument arg := by decide
  have hne : ['|'].intercalate i.args ≠ [] := by decide
  have hfront : ∀ c ∈ (['|'].intercalate i.args).head?, Text.isSpace c = false := by
    intro c hc
    obtain rfl : '\x7b' = c := Option.some.inj hc
    decide
  exact ⟨⟨by decide, hsolid, hargs, hne, hfront⟩, by decide,
    parse_inverts_print.1 i (by decide) hsolid hargs hne hfront, by decide⟩

end Compendium.Inline
