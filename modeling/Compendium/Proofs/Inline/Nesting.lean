import Compendium.Proofs.Inline.Composition
import Compendium.Proofs.Inline.TagText

/-!
# Nested tags

A text in which every brace that opens belongs to a tag, every tag is closed and no more than
`limit` braces are open at a time (`TagsNest`) can be read from any place on: some braces are open
there and the rest closes them (`Closes`).  Such a text stays one when part of it is taken out the
way a tag is read.  The body of a tag lies one level deeper (`Closes.exists_closing?`), the name in
front of the arguments may end anywhere, even inside a tag (`Closes.dropWhile`), and every argument
is a text of its own (`Closes.of_mem_args`), because braces that were open before a cut can only be
missing behind it, and a closing brace too many does no harm.

* `expand_resolves`: within the bound on nesting, expansion leaves nothing of the syntax of tags.
-/

namespace Compendium.Inline

/-- The number of braces that are open at the end of a text. -/
def bracesOpen (s : List Char) : Nat :=
  s.foldl depthAfter 0

/-- A text in which braces open tags and nothing else, every tag is closed, and tags are nested
at most `limit` deep. -/
structure TagsNest (limit : Nat) (s : List Char) : Prop where
  /-- An opening brace stands directly in front of an at sign. -/
  brace : ∀ i, s[i]? = some '\x7b' → s[i + 1]? = some '@'
  /-- An at sign stands directly behind an opening brace. -/
  sign : ∀ i, s[i]? = some '@' → 0 < i ∧ s[i - 1]? = some '\x7b'
  /-- Every opening finds its closing brace. -/
  close : OpeningsClose s
  /-- Nowhere are more than `limit` braces open. -/
  depth : ∀ front, front <+: s → bracesOpen front ≤ limit

instance (limit : Nat) (s : List Char) : Decidable (TagsNest limit s) :=
  decidable_of_iff
    ((∀ i < s.length, s[i]? = some '\x7b' → s[i + 1]? = some '@') ∧
      (∀ i < s.length, s[i]? = some '@' → 0 < i ∧ s[i - 1]? = some '\x7b') ∧
      OpeningsClose s ∧ ∀ front ∈ s.inits, bracesOpen front ≤ limit) <| by
    constructor
    · rintro ⟨hbrace, hsign, hclose, hdepth⟩
      exact ⟨fun i hi => hbrace i (List.getElem?_eq_some_iff.1 hi).1 hi,
        fun i hi => hsign i (List.getElem?_eq_some_iff.1 hi).1 hi, hclose,
        fun front hf => hdepth front ((List.mem_inits _ _).2 hf)⟩
    · intro h
      exact ⟨fun i _ => h.brace i, fun i _ => h.sign i, h.close,
        fun front hf => h.depth front ((List.mem_inits _ _).1 hf)⟩

/-- The rest of a text in whose front `depth` braces are open: it closes them, and all that it
opens itself, and never has more than `limit` open. -/
inductive Closes (limit : Nat) : Nat → List Char → Prop
  | nil : Closes limit 0 []
  | opening {depth : Nat} {rest : List Char} (hdepth : depth < limit)
      (h : Closes limit (depth + 1) rest) : Closes limit depth ('\x7b' :: '@' :: rest)
  | brace {depth : Nat} {rest : List Char} (h : Closes limit (depth - 1) rest) :
      Closes limit depth ('\x7d' :: rest)
  | char {depth : Nat} {c : Char} {rest : List Char} (hopen : c ≠ '\x7b') (hsign : c ≠ '@')
      (hclose : c ≠ '\x7d') (h : Closes limit depth rest) : Closes limit depth (c :: rest)

variable {limit depth : Nat} {s : List Char}

/-! ### Counting braces -/

theorem depthAfter_open (depth : Nat) : depthAfter depth '\x7b' = depth + 1 :=
  rfl

theorem depthAfter_close (depth : Nat) : depthAfter depth '\x7d' = depth - 1 :=
  rfl

theorem depthAfter_of_ne {c : Char} (hopen : c ≠ '\x7b') (hclose : c ≠ '\x7d') :
    depthAfter depth c = depth := by
  rw [depthAfter, if_neg hopen, if_neg hclose]

theorem closing?_cons {c : Char} (h : c = '\x7d' → 1 < depth) (rest : List Char) :
    closing? depth (c :: rest) =
      (closing? (depthAfter depth c) rest).map fun (body, after) => (c :: body, after) := by
  rw [closing?, if_neg]
  rw [Bool.and_eq_true, decide_eq_true_eq, decide_eq_true_eq]
  rintro ⟨hc, hle⟩
  exact Nat.not_lt.2 hle (h hc)

theorem closing?_opening (depth : Nat) (rest : List Char) :
    closing? depth ('\x7b' :: '@' :: rest) =
      (closing? (depth + 1) rest).map fun (body, after) => ('\x7b' :: '@' :: body, after) := by
  have hsign : depthAfter (depth + 1) '@' = depth + 1 := depthAfter_of_ne (by decide) (by decide)
  rw [closing?_cons (fun h => absurd h (by decide)), depthAfter_open,
    closing?_cons (fun h => absurd h (by decide)), hsign, Option.map_map]
  rfl

theorem cutArguments_cons {c : Char} {rest first : List Char} {others : List (List Char)}
    (h : ¬ (c = '|' ∧ depth = 0))
    (hcut : cutArguments (depthAfter depth c) rest = first :: others) :
    cutArguments depth (c :: rest) = (c :: first) :: others := by
  rw [cutArguments, if_neg (by simpa using h), hcut]

/-! ### From a text to its rests -/

/-- What `TagsNest` says about the rest of a text in whose front `depth` braces are open. -/
structure Pending (limit depth : Nat) (s : List Char) : Prop where
  brace : ∀ i, s[i]? = some '\x7b' → s[i + 1]? = some '@'
  sign : ∀ i, s[i]? = some '@' → 0 < i ∧ s[i - 1]? = some '\x7b'
  close : OpeningsClose s
  opened : depth = 0 ∨ (closing? depth s).isSome = true
  depth : ∀ front, front <+: s → front.foldl depthAfter depth ≤ limit

namespace Pending

variable {c : Char} {rest : List Char}

/-- A brace that opens is followed by an at sign, and what is behind both is one level down. -/
theorem of_brace (h : Pending limit depth ('\x7b' :: rest)) :
    ∃ inner, rest = '@' :: inner ∧ depth < limit ∧ Pending limit (depth + 1) inner := by
  obtain ⟨inner, rfl⟩ : ∃ inner, rest = '@' :: inner := by
    have hhead := h.brace 0 rfl
    rw [List.getElem?_cons_succ, ← List.head?_eq_getElem?] at hhead
    exact ⟨_, List.eq_cons_of_mem_head? hhead⟩
  have hsuffix : inner <:+ '\x7b' :: '@' :: inner := ⟨['\x7b', '@'], rfl⟩
  refine ⟨inner, rfl, h.depth ['\x7b'] ⟨'@' :: inner, rfl⟩, fun i => h.brace (i + 2), ?_,
    h.close.of_suffix hsuffix, Or.inr ?_, ?_⟩
  · intro i hi
    have hbefore := (h.sign (i + 2) hi).2
    cases i with
    | zero => cases hbefore
    | succ i => exact ⟨Nat.succ_pos i, hbefore⟩
  · rcases h.opened with rfl | hopened
    · exact h.close inner (List.suffix_refl _)
    · rwa [closing?_opening, Option.isSome_map] at hopened
  · rintro front ⟨back, rfl⟩
    exact h.depth ('\x7b' :: '@' :: front) ⟨back, rfl⟩

theorem of_cons (h : Pending limit depth (c :: rest)) (hc : c ≠ '\x7b') :
    c ≠ '@' ∧ Pending limit (depthAfter depth c) rest := by
  have hsign : c ≠ '@' := by
    rintro rfl
    exact Nat.lt_irrefl 0 (h.sign 0 rfl).1
  refine ⟨hsign, fun i => h.brace (i + 1), ?_, h.close.of_suffix (List.suffix_cons c rest), ?_, ?_⟩
  · intro i hi
    have hbefore := (h.sign (i + 1) hi).2
    cases i with
    | zero => exact absurd (Option.some.inj hbefore) hc
    | succ i => exact ⟨Nat.succ_pos i, hbefore⟩
  · by_cases hlast : c = '\x7d' ∧ depth ≤ 1
    · obtain ⟨rfl, hle⟩ := hlast
      exact Or.inl (Nat.sub_eq_zero_of_le hle)
    · have hmore : c = '\x7d' → 1 < depth := fun he => Nat.not_le.1 fun hle => hlast ⟨he, hle⟩
      rcases h.opened with rfl | hopened
      · have hend : c ≠ '\x7d' := fun he => hlast ⟨he, Nat.zero_le 1⟩
        exact Or.inl (depthAfter_of_ne hc hend)
      · rw [closing?_cons hmore, Option.isSome_map] at hopened
        exact Or.inr hopened
  · rintro front ⟨back, rfl⟩
    exact h.depth (c :: front) ⟨back, rfl⟩

theorem closes (h : Pending limit depth s) : Closes limit depth s := by
  -- A tag is entered by its two characters at once, so the induction is on the length.
  induction hn : s.length using Nat.strong_induction_on generalizing s depth with
  | h n ih =>
    subst hn
    match s with
    | [] =>
      rcases h.opened with rfl | hopened
      · exact .nil
      · cases hopened
    | c :: rest =>
      by_cases hc : c = '\x7b'
      · subst hc
        obtain ⟨inner, rfl, hdepth, hinner⟩ := h.of_brace
        exact .opening hdepth (ih inner.length (Nat.lt_add_of_pos_right Nat.two_pos) hinner rfl)
      · obtain ⟨hsign, hpending⟩ := h.of_cons hc
        have hrest := ih rest.length (Nat.lt_succ_self _) hpending rfl
        by_cases hend : c = '\x7d'
        · subst hend
          exact .brace hrest
        · rw [depthAfter_of_ne hc hend] at hrest
          exact .char hc hsign hend hrest

end Pending

/-- **Every tag of the text is closed in what follows.** -/
theorem TagsNest.closes (h : TagsNest limit s) : Closes limit 0 s :=
  Pending.closes ⟨h.brace, h.sign, h.close, Or.inl rfl, h.depth⟩

namespace Closes

theorem mono (h : Closes limit depth s) {fewer : Nat} (hle : fewer ≤ depth) :
    Closes limit fewer s := by
  induction h generalizing fewer with
  | nil =>
    obtain rfl : fewer = 0 := Nat.le_zero.1 hle
    exact .nil
  | opening hdepth _ ih =>
    exact .opening (Nat.lt_of_le_of_lt hle hdepth) (ih (Nat.succ_le_succ hle))
  | brace _ ih => exact .brace (ih (Nat.sub_le_sub_right hle 1))
  | char hopen hsign hclose _ ih => exact .char hopen hsign hclose (ih hle)

/-- **A tag is closed, and its body is a text one level down.** -/
theorem exists_closing? (h : Closes (limit + 1) (depth + 1) s) : ∃ body after,
    closing? (depth + 1) s = some (body, after) ∧
      Closes limit depth body ∧ Closes (limit + 1) 0 after := by
  generalize hd : depth + 1 = d at h
  induction h generalizing depth with
  | nil => cases hd
  | @opening d rest hdepth _ ih =>
    subst hd
    obtain ⟨body, after, hrest, hbody, hafter⟩ := ih rfl
    refine ⟨'\x7b' :: '@' :: body, after, ?_, ?_, hafter⟩
    · rw [closing?_opening, hrest]
      rfl
    · exact .opening (Nat.lt_of_succ_lt_succ hdepth) hbody
  | @brace d rest h ih =>
    subst hd
    cases depth with
    | zero => exact ⟨[], rest, rfl, .nil, h⟩
    | succ depth =>
      obtain ⟨body, after, hrest, hbody, hafter⟩ := ih rfl
      refine ⟨'\x7d' :: body, after, ?_, .brace hbody, hafter⟩
      rw [closing?_cons (fun _ => Nat.succ_lt_succ (Nat.succ_pos depth)), depthAfter_close, hrest]
      rfl
  | @char d c rest hopen hsign hclose _ ih =>
    subst hd
    obtain ⟨body, after, hrest, hbody, hafter⟩ := ih rfl
    refine ⟨c :: body, after, ?_, .char hopen hsign hclose hbody, hafter⟩
    rw [closing?_cons (fun h => absurd h hclose), depthAfter_of_ne hopen hclose, hrest]
    rfl

/-- What is left behind a front that divides no opening closes all its tags. -/
theorem dropWhile {p : Char → Bool} (hp : p '\x7b' = p '@') (h : Closes limit depth s) :
    Closes limit 0 (s.dropWhile p) := by
  induction h with
  | nil => exact .nil
  | @opening d rest hdepth h ih =>
    cases ho : p '\x7b' with
    | true =>
      rw [List.dropWhile_cons_of_pos ho, List.dropWhile_cons_of_pos (hp ▸ ho)]
      exact ih
    | false =>
      rw [List.dropWhile_cons_of_neg (by simp [ho])]
      exact (Closes.opening hdepth h).mono (Nat.zero_le _)
  | @brace d rest h ih =>
    rw [List.dropWhile_cons]
    split
    · exact ih
    · exact (Closes.brace h).mono (Nat.zero_le _)
  | @char d c rest hopen hsign hclose h ih =>
    rw [List.dropWhile_cons]
    split
    · exact ih
    · exact (Closes.char hopen hsign hclose h).mono (Nat.zero_le _)

theorem exists_cutArguments (h : Closes limit depth s) : ∃ first others,
    cutArguments depth s = first :: others ∧
      Closes limit depth first ∧ ∀ arg ∈ others, Closes limit 0 arg := by
  induction h with
  | nil =>
    refine ⟨[], [], rfl, .nil, ?_⟩
    simp
  | @opening d rest hdepth _ ih =>
    obtain ⟨first, others, hcut, hfirst, hothers⟩ := ih
    refine ⟨'\x7b' :: '@' :: first, others, ?_, .opening hdepth hfirst, hothers⟩
    have hsign : depthAfter (d + 1) '@' = d + 1 := depthAfter_of_ne (by decide) (by decide)
    exact cutArguments_cons (by simp) (cutArguments_cons (by simp) (hsign ▸ hcut))
  | @brace d rest _ ih =>
    obtain ⟨first, others, hcut, hfirst, hothers⟩ := ih
    exact ⟨'\x7d' :: first, others, cutArguments_cons (by simp) hcut, .brace hfirst, hothers⟩
  | @char d c rest hopen hsign hclose _ ih =>
    obtain ⟨first, others, hcut, hfirst, hothers⟩ := ih
    by_cases hpipe : c = '|' ∧ d = 0
    · obtain ⟨rfl, rfl⟩ := hpipe
      refine ⟨[], first :: others, ?_, .nil, ?_⟩
      · rw [cutArguments, if_pos (by decide), hcut]
      · intro arg ha
        rcases List.mem_cons.1 ha with rfl | ha
        · exact hfirst
        · exact hothers arg ha
    · refine ⟨c :: first, others, cutArguments_cons hpipe ?_, .char hopen hsign hclose hfirst,
        hothers⟩
      rwa [depthAfter_of_ne hopen hclose]

/-- **Every argument of a tag is a text of its own**, wherever the name in front of them ends. -/
theorem of_mem_args {body arg : List Char} (h : Closes limit 0 body)
    (ha : arg ∈ (Invocation.parse body).args) : Closes limit 0 arg := by
  have hrest : Closes limit 0 (Chars.trimStart
      ((Chars.trimStart body).dropWhile fun c => !Text.isSpace c)) :=
    ((h.dropWhile (by decide)).dropWhile (by decide)).dropWhile (by decide)
  rw [Invocation.parse] at ha
  split at ha
  · cases ha
  · obtain ⟨first, others, hcut, hfirst, hothers⟩ := hrest.exists_cutArguments
    rw [hcut] at ha
    rcases List.mem_cons.1 ha with rfl | ha
    · exact hfirst
    · exact hothers arg ha

/-! ### Pieces -/

/-- **The tags of a text are texts one level down**, and its other characters are neither braces
that open nor at signs. -/
theorem of_mem_segments (h : Closes (limit + 1) 0 s) {piece : Segment} (hp : piece ∈ segments s) :
    (∃ c, piece = .char c ∧ c ≠ '\x7b' ∧ c ≠ '@') ∨
      ∃ body, piece = .tag body ∧ Closes limit 0 body := by
  fun_induction segments s with
  | case1 => cases hp
  | case2 rest body after hclose ih =>
    cases h with
    | opening _ hrest =>
      obtain ⟨_, _, hclose', hbody, hafter⟩ := hrest.exists_closing?
      obtain ⟨rfl, rfl⟩ := Prod.mk.inj (Option.some.inj (hclose'.symm.trans hclose))
      rcases List.mem_cons.1 hp with rfl | hp
      · exact Or.inr ⟨_, rfl, hbody⟩
      · exact ih hafter hp
    | char hopen => exact absurd rfl hopen
  | case3 rest hclose ih =>
    cases h with
    | opening _ hrest =>
      obtain ⟨_, _, hclose', -, -⟩ := hrest.exists_closing?
      cases hclose'.symm.trans hclose
    | char hopen => exact absurd rfl hopen
  | case4 c rest htag ih =>
    cases h with
    | opening => exact absurd rfl (htag _ rfl)
    | brace hrest =>
      rcases List.mem_cons.1 hp with rfl | hp
      · exact Or.inl ⟨_, rfl, by decide, by decide⟩
      · exact ih hrest hp
    | char hopen hsign _ hrest =>
      rcases List.mem_cons.1 hp with rfl | hp
      · exact Or.inl ⟨c, rfl, hopen, hsign⟩
      · exact ih hrest hp

theorem notMem_of_zero (h : Closes 0 depth s) : '\x7b' ∉ s ∧ '@' ∉ s := by
  induction h with
  | nil => exact ⟨List.not_mem_nil, List.not_mem_nil⟩
  | opening hdepth _ _ => cases hdepth
  | brace _ ih => simpa using ih
  | char hopen hsign _ _ ih => simpa [hopen.symm, hsign.symm] using ih

/-- **As many levels as a text has are enough** to leave no brace that opens and no at sign. -/
theorem notMem_expandTo (mode : Mode) (h : Closes limit 0 s) :
    '\x7b' ∉ expandTo mode limit s ∧ '@' ∉ expandTo mode limit s := by
  induction limit generalizing s with
  | zero => exact h.notMem_of_zero
  | succ limit ih =>
    have hmem : ∀ d, d = '\x7b' ∨ d = '@' → d ∉ expandTo mode (limit + 1) s := by
      intro d hd hin
      have hown : ¬ IsOwn d := by
        rcases hd with rfl | rfl <;> decide
      rw [expandTo, List.mem_flatMap] at hin
      obtain ⟨piece, hp, hin⟩ := hin
      rcases h.of_mem_segments hp with ⟨c, rfl, hopen, hsign⟩ | ⟨body, rfl, hbody⟩
      · obtain rfl := List.mem_singleton.1 hin
        exact hd.elim hopen hsign
      · -- A character that the tag does not bring with it comes from an argument.
        rcases render_madeOf mode _ _ d hin with hin | ⟨arg, harg, hin⟩
        · exact hown hin
        · obtain ⟨raw, hraw, rfl⟩ := List.mem_map.1 harg
          rw [String.toList_ofList] at hin
          obtain ⟨hbrace, hsign⟩ := ih (hbody.of_mem_args hraw)
          rcases hd with rfl | rfl
          · exact hbrace hin
          · exact hsign hin
    exact ⟨hmem _ (Or.inl rfl), hmem _ (Or.inr rfl)⟩

end Closes

/-- **Within the bound all tags are resolved.**  If braces open tags and nothing else, every tag is
closed and tags are nested at most `maxDepth` deep, then expansion to Markdown, with links or
without, and to plain text leaves no brace that opens and no at sign, whatever the names and the
arguments of the tags are. -/
theorem expand_resolves (mode : Mode) {text : String} (h : TagsNest maxDepth text.toList) :
    '\x7b' ∉ (expand mode text).toList ∧ '@' ∉ (expand mode text).toList := by
  rw [expand, String.toList_ofList]
  exact h.closes.notMem_expandTo mode

/-- A stray closing brace, a tag in the name of a tag, and tags ten levels deep. -/
theorem expand_resolves_ten_levels :
    let text := "\x7d \x7b@\x7b@b x|y\x7d z\x7d \x7b@i \x7b@b \x7b@dc \x7b@u " ++
      "\x7b@h\x7d \x7b@link \x7b@hit \x7b@s \x7b@item \x7b@code \x7b@x 1" ++
      "\x7d\x7d\x7d\x7d\x7d\x7d\x7d\x7d\x7d\x7d"
    (TagsNest maxDepth text.toList ∧ ¬ TagsNest 9 text.toList) ∧ ∀ mode,
      '\x7b' ∉ (expand mode text).toList ∧ '@' ∉ (expand mode text).toList := by
  intro text
  have h : TagsNest maxDepth text.toList := by decide +kernel
  exact ⟨⟨h, by decide +kernel⟩, fun mode => expand_resolves mode h⟩

set_option maxRecDepth 4000 in
/-- One level more, and the innermost tag stays as it is. -/
example : expand (.markdown false)
    ("\x7b@u \x7b@u \x7b@u \x7b@u \x7b@u \x7b@u \x7b@u \x7b@u \x7b@u \x7b@u \x7b@u x" ++
      "\x7d\x7d\x7d\x7d\x7d\x7d\x7d\x7d\x7d\x7d\x7d") = "\x7b@u x\x7d" := by
  cbv

end Compendium.Inline
