import Compendium.Proofs.Inline.PlainText
import Compendium.Proofs.Inline.Printing

/-!
# Braces that open in an argument are closed in it

Three counters run over the text of a tag.  The one that finds its end starts at the opening brace
and never falls below zero, so the part of the text that it runs over is enclosed by its first and
its last character (`close?_eq_some_iff`), and what is between them is balanced.  The one that cuts
the arguments starts at zero behind the name, where braces of the name may still be open, and stays
at zero where these are closed.  The one that finds the end of a brace inside an argument starts
at that brace, also at zero, so it is never ahead of the second.  Hence no argument is cut while the
third one counts (`isSome_closing?_of_cutArguments`), and a brace that is closed in the body of a
tag is closed in its argument.

* `braces_of_arguments_close`: what the end of a brace is, that all braces of arguments have one,
  and that a tag which is left as it is for want of its end stands in no argument.
-/

namespace Compendium.Inline

open Compendium.Chars

/-- The place behind the brace that closes the one at `start`. -/
def close? (text : List Char) (start : Nat) : Option Nat :=
  (closing? 0 (text.drop start)).map fun (inside, _) => start + inside.length + 1

/-- A part of a text that its first and its last character enclose: it closes as many braces as it
opens, but every front of it opens more than it closes, unless it is empty or the whole part. -/
structure Enclosed (part : List Char) : Prop where
  front : ∀ front, front <+: part → front ≠ [] → front ≠ part →
    front.count '\x7d' < front.count '\x7b'
  whole : part.count '\x7b' = part.count '\x7d'

/-- Whether every brace that opens in a text is closed there. -/
def BracesClose (s : List Char) : Prop :=
  ∀ rest, '\x7b' :: rest <:+ s → (closing? 1 rest).isSome = true

/-- Whether a tag of a text stays as it is for want of its end: the two characters that open it are
pieces of their own. -/
def KeepsOpening (s : List Char) : Prop :=
  [.char '\x7b', .char '@'] <:+: segments s

variable {depth : Nat} {s t : List Char}

/-! ### The end of a tag -/

theorem completes_of_closing? {body after : List Char}
    (h : closing? (depth + 1) s = some (body, after)) : Completes depth body := by
  induction s generalizing depth body with
  | nil => cases h
  | cons c rest ih =>
    by_cases hend : c = '\x7d' ∧ depth = 0
    · obtain ⟨rfl, rfl⟩ := hend
      cases h
      exact .nil
    · have hmore : c = '\x7d' → 1 < depth + 1 := fun hc =>
        Nat.succ_lt_succ (Nat.pos_of_ne_zero fun hzero => hend ⟨hc, hzero⟩)
      rw [closing?_cons hmore] at h
      obtain ⟨⟨inner, tail⟩, hrest, he⟩ := Option.map_eq_some_iff.1 h
      cases he
      by_cases hopen : c = '\x7b'
      · subst hopen
        exact .opening (ih hrest)
      · by_cases hclose : c = '\x7d'
        · subst hclose
          obtain ⟨less, rfl⟩ := Nat.exists_eq_add_of_lt (Nat.lt_of_succ_lt_succ (hmore rfl))
          rw [Nat.zero_add] at hrest ⊢
          exact .closing (ih hrest)
        · rw [depthAfter_of_ne hopen hclose] at hrest
          exact .char hopen hclose (ih hrest)

/-- **The closing brace is the one behind a balanced text.** -/
theorem closing?_eq_some_iff {body after : List Char} :
    closing? (depth + 1) s = some (body, after) ↔
      s = body ++ '\x7d' :: after ∧ Completes depth body := by
  constructor
  · intro h
    exact ⟨eq_append_of_closing? h, completes_of_closing? h⟩
  · rintro ⟨rfl, h⟩
    exact h.closing? after

theorem enclosed_cons_iff :
    Enclosed ('\x7b' :: s) ↔ ∃ body, s = body ++ ['\x7d'] ∧ Balanced body := by
  constructor
  · rintro ⟨hfront, hwhole⟩
    rcases List.eq_nil_or_concat s with rfl | ⟨body, c, rfl⟩
    · cases hwhole
    · rw [List.concat_eq_append] at hfront hwhole ⊢
      have hinner : ∀ front, front <+: body → front.count '\x7d' ≤ front.count '\x7b' := by
        intro front hf
        have hlt := hfront ('\x7b' :: front) ?_ (by simp) ?_
        · simp at hlt
          omega
        · exact (List.prefix_cons_inj _).2 (hf.trans (List.prefix_append _ _))
        · intro he
          have hlen := hf.length_le
          rw [(List.cons.inj he).2, List.length_append] at hlen
          exact Nat.not_succ_le_self _ hlen
      -- More braces are opened than closed in front of the last character, so it closes one.
      have hlast : c = '\x7d' := by
        by_contra hne
        have hle := hinner body List.prefix_rfl
        simp [List.count_singleton, hne] at hwhole
        omega
      subst hlast
      refine ⟨body, rfl, hinner, ?_⟩
      simpa using hwhole
  · rintro ⟨body, rfl, hbody⟩
    refine ⟨fun front hf hne hwhole => ?_, ?_⟩
    · rcases List.prefix_cons_iff.1 hf with rfl | ⟨inner, rfl, hinner⟩
      · exact absurd rfl hne
      · rcases List.prefix_concat_iff.1 hinner with rfl | hinner
        · exact absurd rfl hwhole
        · have hle := hbody.front inner hinner
          simp
          omega
    · simp [hbody.whole]

theorem drop_of_getElem? {c : Char} {i : Nat} (h : s[i]? = some c) :
    s.drop i = c :: s.drop (i + 1) := by
  obtain ⟨hi, rfl⟩ := List.getElem?_eq_some_iff.1 h
  exact List.drop_eq_getElem_cons hi

theorem close?_of_getElem? {start : Nat} (h : s[start]? = some '\x7b') :
    close? s start =
      (closing? 1 (s.drop (start + 1))).map fun (body, _) => start + body.length + 2 := by
  rw [close?, drop_of_getElem? h, closing?_cons (fun h => absurd h (by decide)), depthAfter_open,
    Option.map_map]
  rfl

theorem isSome_close? {start : Nat} (h : s[start]? = some '\x7b') :
    (close? s start).isSome = (closing? 1 (s.drop (start + 1))).isSome := by
  rw [close?_of_getElem? h, Option.isSome_map]

theorem close?_eq_some {start stop : Nat} (h : s[start]? = some '\x7b') :
    close? s start = some stop ↔ ∃ body after, s.drop start = '\x7b' :: (body ++ '\x7d' :: after) ∧
      Balanced body ∧ stop = start + body.length + 2 := by
  rw [close?_of_getElem? h, drop_of_getElem? h, Option.map_eq_some_iff]
  constructor
  · rintro ⟨⟨body, after⟩, hclose, rfl⟩
    obtain ⟨hrest, hbody⟩ := closing?_eq_some_iff.1 hclose
    exact ⟨body, after, by rw [hrest], balanced_iff.2 hbody, rfl⟩
  · rintro ⟨body, after, hrest, hbody, rfl⟩
    have hclose := closing?_eq_some_iff.2 ⟨(List.cons.inj hrest).2, balanced_iff.1 hbody⟩
    exact ⟨(body, after), hclose, rfl⟩

/-- **A brace is closed where the part of the text in between is enclosed.** -/
theorem close?_eq_some_iff {start stop : Nat} (h : s[start]? = some '\x7b') :
    close? s start = some stop ↔
      start < stop ∧ stop ≤ s.length ∧ Enclosed (s.extract start stop) := by
  have hlt := (List.getElem?_eq_some_iff.1 h).1
  rw [close?_eq_some h, List.extract_eq_take_drop]
  constructor
  · rintro ⟨body, after, hdrop, hbody, rfl⟩
    have hlength := congrArg List.length hdrop
    simp at hlength
    have hpart : s.drop start = ('\x7b' :: (body ++ ['\x7d'])) ++ after := by
      rw [hdrop]
      simp
    have htake : (s.drop start).take (start + body.length + 2 - start) =
        '\x7b' :: (body ++ ['\x7d']) := by
      rw [hpart]
      exact List.take_left' (by simp; omega)
    rw [htake]
    exact ⟨by omega, by omega, enclosed_cons_iff.2 ⟨body, rfl, hbody⟩⟩
  · rintro ⟨hstart, hstop, hpart⟩
    -- The part begins with the brace.
    obtain ⟨length, rfl⟩ := Nat.exists_eq_add_of_lt hstart
    rw [drop_of_getElem? h, Nat.add_assoc, Nat.add_sub_cancel_left, List.take_succ_cons] at hpart
    obtain ⟨body, hbody, hbalanced⟩ := enclosed_cons_iff.1 hpart
    have hlength := congrArg List.length hbody
    simp at hlength
    refine ⟨body, (s.drop (start + 1)).drop length, ?_, hbalanced, by omega⟩
    calc s.drop start = '\x7b' :: s.drop (start + 1) := drop_of_getElem? h
      _ = '\x7b' :: ((body ++ ['\x7d']) ++ (s.drop (start + 1)).drop length) := by
        rw [← hbody, List.take_append_drop]
      _ = '\x7b' :: (body ++ '\x7d' :: (s.drop (start + 1)).drop length) := by
        rw [List.append_assoc, List.singleton_append]

/-- **The body of a tag is balanced.** -/
theorem balanced_extract_of_close? {start stop : Nat} (hopen : s[start]? = some '\x7b')
    (hsign : s[start + 1]? = some '@') (hclose : close? s start = some stop) :
    Balanced (s.extract (start + 2) (stop - 1)) := by
  obtain ⟨body, after, hdrop, hbody, rfl⟩ := (close?_eq_some hopen).1 hclose
  rw [drop_of_getElem? hopen, drop_of_getElem? hsign] at hdrop
  cases body with
  | nil => cases hdrop
  | cons c inner =>
    rw [List.cons_append] at hdrop
    obtain ⟨rfl, hrest⟩ := List.cons.inj (List.cons.inj hdrop).2
    have hlength : start + (inner.length + 1) + 2 - 1 - (start + 2) = inner.length := by omega
    rw [List.extract_eq_take_drop, hrest, List.length_cons, hlength, List.take_left]
    cases balanced_iff.1 hbody with
    | char _ _ h => exact balanced_iff.2 h

/-! ### Braces of a body -/

theorem Completes.isSome_closing? (h : Completes depth s) {fewer : Nat} (hpos : 0 < fewer)
    (hle : fewer ≤ depth) : (Inline.closing? fewer s).isSome = true := by
  induction h generalizing fewer with
  | nil => exact absurd (Nat.lt_of_lt_of_le hpos hle) (Nat.lt_irrefl 0)
  | opening _ ih =>
    rw [closing?_cons (fun h => absurd h (by decide)), Option.isSome_map]
    exact ih (Nat.succ_pos fewer) (Nat.succ_le_succ hle)
  | @closing depth rest _ ih =>
    by_cases hlast : fewer = 1
    · subst hlast
      rfl
    · rw [closing?_cons (fun _ => by omega), Option.isSome_map]
      exact ih (Nat.sub_pos_of_lt (by omega)) (Nat.sub_le_of_le_add hle)
  | char hopen hclose _ ih =>
    rw [closing?_cons (fun h => absurd h hclose), Option.isSome_map,
      depthAfter_of_ne hopen hclose]
    exact ih hpos hle

theorem BracesClose.of_suffix (h : BracesClose s) (ht : t <:+ s) : BracesClose t :=
  fun rest hr => h rest (hr.trans ht)

theorem bracesClose_cons {c : Char} :
    BracesClose (c :: s) ↔ (c = '\x7b' → (closing? 1 s).isSome = true) ∧ BracesClose s := by
  constructor
  · intro h
    refine ⟨?_, h.of_suffix (List.suffix_cons c s)⟩
    rintro rfl
    exact h s List.suffix_rfl
  · rintro ⟨hhead, htail⟩ rest hr
    rcases List.suffix_cons_iff.1 hr with he | hr
    · obtain ⟨rfl, rfl⟩ := List.cons.inj he
      exact hhead rfl
    · exact htail rest hr

theorem bracesClose_nil : BracesClose [] := by
  intro rest hr
  cases List.suffix_nil.1 hr

theorem BracesClose.isSome_close? (h : BracesClose s) {i : Nat} (hi : s[i]? = some '\x7b') :
    (close? s i).isSome = true := by
  rw [Inline.isSome_close? hi]
  exact h _ (drop_of_getElem? hi ▸ List.drop_suffix i s)

/-- **In a text that closes the braces in front of it, every brace is closed.** -/
theorem Completes.bracesClose (h : Completes depth s) : BracesClose s := by
  induction h with
  | nil => exact bracesClose_nil
  | opening h ih =>
    exact bracesClose_cons.2 ⟨fun _ => h.isSome_closing? Nat.one_pos (Nat.le_add_left 1 _), ih⟩
  | closing _ ih => exact bracesClose_cons.2 ⟨fun h => absurd h (by decide), ih⟩
  | char hopen _ _ ih => exact bracesClose_cons.2 ⟨fun h => absurd h hopen, ih⟩

/-! ### Braces of an argument -/

theorem depthAfter_mono {fewer : Nat} (h : fewer ≤ depth) (c : Char) :
    depthAfter fewer c ≤ depthAfter depth c := by
  unfold depthAfter
  split
  · exact Nat.succ_le_succ h
  · split
    · exact Nat.sub_le_sub_right h 1
    · exact h

theorem depthAfter_pos {c : Char} (hpos : 0 < depth) (hmore : c = '\x7d' → 1 < depth) :
    0 < depthAfter depth c := by
  unfold depthAfter
  split
  · exact Nat.succ_pos depth
  · split
    · next hc => exact Nat.sub_pos_of_lt (hmore hc)
    · exact hpos

/-- **No argument is cut while a brace is open**: what closes some of the open braces stands in the
first of the arguments. -/
theorem isSome_closing?_of_cutArguments {first : List Char} {others : List (List Char)}
    {fewer : Nat} (hcut : cutArguments depth s = first :: others) (hpos : 0 < fewer)
    (hle : fewer ≤ depth) (hsome : (closing? fewer s).isSome = true) :
    (closing? fewer first).isSome = true := by
  induction s generalizing depth fewer first others with
  | nil => cases hsome
  | cons c rest ih =>
    have hpipe : ¬ (c = '|' ∧ depth = 0) := fun h =>
      absurd (Nat.lt_of_lt_of_le hpos hle) (Nat.not_lt.2 (Nat.le_of_eq h.2))
    obtain ⟨front, behind, hrest, -⟩ := exists_cutArguments_eq (depthAfter depth c) rest
    rw [cutArguments_cons hpipe hrest] at hcut
    cases hcut
    by_cases hlast : c = '\x7d' ∧ fewer ≤ 1
    · obtain ⟨rfl, hone⟩ := hlast
      obtain rfl : fewer = 1 := Nat.le_antisymm hone hpos
      rfl
    · have hmore : c = '\x7d' → 1 < fewer := fun hc => Nat.not_le.1 fun h => hlast ⟨hc, h⟩
      rw [closing?_cons hmore, Option.isSome_map] at hsome ⊢
      exact ih hrest (depthAfter_pos hpos hmore) (depthAfter_mono hle c) hsome

theorem BracesClose.of_mem_cutArguments {arg : List Char} (h : BracesClose s)
    (ha : arg ∈ cutArguments depth s) : BracesClose arg := by
  induction s generalizing depth arg with
  | nil =>
    obtain rfl := List.mem_singleton.1 ha
    exact bracesClose_nil
  | cons c rest ih =>
    obtain ⟨hhead, htail⟩ := bracesClose_cons.1 h
    by_cases hpipe : c = '|' ∧ depth = 0
    · rw [cutArguments, if_pos (by simpa using hpipe)] at ha
      rcases List.mem_cons.1 ha with rfl | ha
      · exact bracesClose_nil
      · exact ih htail ha
    · obtain ⟨first, others, hrest, -⟩ := exists_cutArguments_eq (depthAfter depth c) rest
      rw [cutArguments_cons hpipe hrest] at ha
      rcases List.mem_cons.1 ha with rfl | ha
      · refine bracesClose_cons.2 ⟨?_, ih htail (hrest ▸ List.mem_cons_self)⟩
        rintro rfl
        exact isSome_closing?_of_cutArguments hrest Nat.one_pos (Nat.le_add_left 1 depth)
          (hhead rfl)
      · exact ih htail (hrest ▸ List.mem_cons_of_mem first ha)

/-- **What is closed in the body of a tag is closed in its arguments**, wherever the name ends. -/
theorem BracesClose.of_mem_args {body arg : List Char} (h : BracesClose body)
    (ha : arg ∈ (Invocation.parse body).args) : BracesClose arg := by
  have hrest : BracesClose (trimStart ((trimStart body).dropWhile fun c => !Text.isSpace c)) :=
    h.of_suffix ((List.dropWhile_suffix _).trans
      ((List.dropWhile_suffix _).trans (List.dropWhile_suffix _)))
  rw [Invocation.parse] at ha
  split at ha
  · cases ha
  · exact hrest.of_mem_cutArguments ha

/-! ### Tags that are met -/

theorem closing?_of_mem_segments {body : List Char} (h : .tag body ∈ segments s) :
    ∃ rest after, closing? 1 rest = some (body, after) := by
  fun_induction segments s with
  | case1 => cases h
  | case2 rest inner after hclose ih =>
    rcases List.mem_cons.1 h with he | h
    · cases he
      exact ⟨rest, after, hclose⟩
    · exact ih h
  | case3 rest hclose ih => exact ih (by simpa using h)
  | case4 c rest htag ih => exact ih (by simpa using h)

theorem exists_body_of_mem_tagsMet {i : Invocation} (h : i ∈ tagsMet depth s) :
    ∃ body, i = Invocation.parse body ∧ Balanced body := by
  induction depth generalizing s with
  | zero => cases h
  | succ depth ih =>
    rw [tagsMet, List.mem_flatMap] at h
    obtain ⟨piece, hp, hi⟩ := h
    cases piece with
    | char c => cases hi
    | tag body =>
      rcases List.mem_cons.1 hi with rfl | hi
      · obtain ⟨rest, after, hclose⟩ := closing?_of_mem_segments hp
        exact ⟨body, rfl, balanced_iff.2 (completes_of_closing? hclose)⟩
      · obtain ⟨arg, -, hi⟩ := List.mem_flatMap.1 hi
        exact ih hi

/-! ### Openings that are kept -/

theorem openingsClose_cons {c : Char} : OpeningsClose (c :: s) ↔
    (∀ rest, c = '\x7b' → s = '@' :: rest → (closing? 1 rest).isSome = true) ∧ OpeningsClose s := by
  constructor
  · intro h
    refine ⟨?_, h.of_suffix (List.suffix_cons c s)⟩
    rintro rest rfl rfl
    exact h rest List.suffix_rfl
  · rintro ⟨hhead, htail⟩ rest hr
    rcases List.suffix_cons_iff.1 hr with he | hr
    · obtain ⟨rfl, rfl⟩ := List.cons.inj he
      exact hhead rest rfl rfl
    · exact htail rest hr

theorem isSome_closing?_at {rest : List Char} :
    (closing? depth ('@' :: rest)).isSome = (closing? depth rest).isSome := by
  rw [closing?_cons (fun h => absurd h (by decide)), Option.isSome_map]
  rfl

theorem BracesClose.openingsClose (h : BracesClose s) : OpeningsClose s :=
  fun _ hr => isSome_closing?_at ▸ h _ hr

/-- Behind a body and its end openings are closed as they are without them. -/
theorem Completes.openingsClose (h : Completes depth s) (ht : OpeningsClose t) :
    OpeningsClose (s ++ '\x7d' :: t) := by
  induction h with
  | nil => exact openingsClose_cons.2 ⟨fun _ h => absurd h (by decide), ht⟩
  | @opening depth inner h ih =>
    rw [List.cons_append, openingsClose_cons]
    refine ⟨fun rest _ hrest => ?_, ih⟩
    have hsome := h.isSome_closing? Nat.one_pos (Nat.le_add_left 1 depth)
    obtain ⟨⟨body, after⟩, hclose⟩ := Option.isSome_iff_exists.1 hsome
    rw [← isSome_closing?_at, ← hrest, closing?_append hclose]
    rfl
  | closing _ ih => exact openingsClose_cons.2 ⟨fun _ h => absurd h (by decide), ih⟩
  | char hopen _ _ ih => exact openingsClose_cons.2 ⟨fun _ h => absurd h hopen, ih⟩

theorem head?_of_segments {c : Char} {pieces : List Segment}
    (h : segments s = .char c :: pieces) : s.head? = some c := by
  fun_induction segments s with
  | case1 => cases h
  | case2 => cases h
  | case3 rest hclose ih =>
    cases h
    rfl
  | case4 d rest htag ih =>
    cases h
    rfl

theorem keepsOpening_cons {c : Char} (h : ¬ (c = '\x7b' ∧ s.head? = some '@')) :
    KeepsOpening (c :: s) ↔ KeepsOpening s := by
  rw [KeepsOpening, segments_cons h, List.infix_cons_iff, or_iff_right]
  · rfl
  · intro hfront
    obtain ⟨hc, pieces, hpieces⟩ := List.cons_prefix_cons.1 hfront
    exact h ⟨(Segment.char.inj hc).symm, head?_of_segments hpieces.symm⟩

theorem keepsOpening_iff_not_openingsClose : KeepsOpening s ↔ ¬ OpeningsClose s := by
  fun_induction segments s with
  | case1 =>
    rw [KeepsOpening, segments]
    simp [OpeningsClose]
  | case2 rest body after hclose ih =>
    obtain ⟨hrest, hbody⟩ := closing?_eq_some_iff.1 hclose
    have hkeeps : KeepsOpening ('\x7b' :: '@' :: rest) ↔ KeepsOpening after := by
      rw [KeepsOpening, segments_of_closing?_eq_some hclose, List.infix_cons_iff, KeepsOpening]
      simp
    have hinner : OpeningsClose ('@' :: rest) ↔ OpeningsClose after := by
      rw [hrest]
      refine ⟨fun h => h.of_suffix ⟨'@' :: (body ++ ['\x7d']), by simp⟩, fun h => ?_⟩
      exact openingsClose_cons.2 ⟨fun _ h => absurd h (by decide), hbody.openingsClose h⟩
    rw [hkeeps, ih, openingsClose_cons, hinner, and_iff_right]
    rintro inner - he
    rw [← (List.cons.inj he).2, hclose]
    rfl
  | case3 rest hclose ih =>
    refine iff_of_true ?_ fun h => ?_
    · rw [KeepsOpening, segments_of_closing?_eq_none hclose]
      exact List.IsPrefix.isInfix ⟨segments rest, rfl⟩
    · have hsome := h rest List.suffix_rfl
      rw [hclose] at hsome
      cases hsome
  | case4 c rest htag ih =>
    have hfirst : ¬ (c = '\x7b' ∧ rest.head? = some '@') := by
      rintro ⟨hc, hhead⟩
      exact htag _ hc (List.eq_cons_of_mem_head? hhead)
    rw [keepsOpening_cons hfirst, ih, openingsClose_cons, and_iff_right]
    intro inner hc hrest
    exact absurd hrest (htag inner hc)

theorem openingsClose_iff : OpeningsClose s ↔
    ∀ i, s[i]? = some '\x7b' → s[i + 1]? = some '@' → (close? s i).isSome = true := by
  constructor
  · intro h i hopen hsign
    have hdrop := drop_of_getElem? hopen
    rw [drop_of_getElem? hsign] at hdrop
    rw [isSome_close? hopen, drop_of_getElem? hsign, isSome_closing?_at]
    exact h _ (hdrop ▸ List.drop_suffix i s)
  · rintro h rest ⟨front, hs⟩
    have hopen : s[front.length]? = some '\x7b' := by
      rw [← hs]
      simp
    have hsign : s[front.length + 1]? = some '@' := by
      rw [← hs]
      simp
    have hclose := h _ hopen hsign
    rw [isSome_close? hopen, ← hs] at hclose
    simpa [isSome_closing?_at] using hclose

/-- **A tag stays as it is exactly if some opening has no end.** -/
theorem keepsOpening_iff : KeepsOpening s ↔
    ∃ i, s[i]? = some '\x7b' ∧ s[i + 1]? = some '@' ∧ close? s i = none := by
  rw [keepsOpening_iff_not_openingsClose, openingsClose_iff]
  simp

/-- **Braces that open in an argument are closed in it.**  The end of a brace is the place up to
which a part of the text is enclosed.  Every brace in an argument that is read from the body of a
tag has its end in this argument, whatever braces stand in the name.  And expansion leaves a tag as
it is exactly if some opening of the text has no end; so it never leaves one in an argument, at
whatever depth. -/
theorem braces_of_arguments_close (text : List Char) :
    (∀ start stop, text[start]? = some '\x7b' →
      (close? text start = some stop ↔
        start < stop ∧ stop ≤ text.length ∧ Enclosed (text.extract start stop))) ∧
    (∀ start stop, text[start]? = some '\x7b' → text[start + 1]? = some '@' →
      close? text start = some stop →
      ∀ arg ∈ (Invocation.parse (text.extract (start + 2) (stop - 1))).args,
        ∀ i, arg[i]? = some '\x7b' → (close? arg i).isSome = true) ∧
    (KeepsOpening text ↔ ∃ i, text[i]? = some '\x7b' ∧ text[i + 1]? = some '@' ∧
      close? text i = none) ∧
    ∀ depth, ∀ tag ∈ tagsMet depth text, ∀ arg ∈ tag.args, ¬ KeepsOpening arg := by
  refine ⟨fun _ _ => close?_eq_some_iff, fun start stop hopen hsign hclose arg ha => ?_,
    keepsOpening_iff, fun depth tag htag arg ha => ?_⟩
  · have hbody := balanced_extract_of_close? hopen hsign hclose
    exact fun i => ((balanced_iff.1 hbody).bracesClose.of_mem_args ha).isSome_close?
  · obtain ⟨body, rfl, hbody⟩ := exists_body_of_mem_tagsMet htag
    have hbraces := (balanced_iff.1 hbody).bracesClose.of_mem_args ha
    rw [keepsOpening_iff_not_openingsClose, not_not]
    exact hbraces.openingsClose

/-- A tag with a brace in its name, whose second argument therefore closes a brace too many, and
behind the tag an opening without an end. -/
theorem braces_of_arguments_close_bold :
    let text := "\x7b@x\x7b@b y|\x7bc\x7d d\x7d e|\x7b@i f\x7d\x7d \x7b@".toList
    let tag := Invocation.parse (text.extract 2 24)
    (text[0]? = some '\x7b' ∧ text[1]? = some '@' ∧ close? text 0 = some 25 ∧
      tag = ⟨"x\x7b@b".toList,
        ["y".toList, "\x7bc\x7d d\x7d e".toList, "\x7b@i f\x7d".toList]⟩ ∧
      tag ∈ tagsMet 1 text) ∧
    Enclosed (text.extract 0 25) ∧
    (close? "\x7bc\x7d d\x7d e".toList 0).isSome = true ∧
    KeepsOpening text ∧ ∀ arg ∈ tag.args, ¬ KeepsOpening arg := by
  intro text tag
  have hopen : text[0]? = some '\x7b' := rfl
  have hclose : close? text 0 = some 25 := by decide
  have htag : tag = ⟨"x\x7b@b".toList,
      ["y".toList, "\x7bc\x7d d\x7d e".toList, "\x7b@i f\x7d".toList]⟩ := by decide
  have hend : closing? 1 (text.drop 2) = some (text.extract 2 24, text.drop 25) := by decide
  have hmet : tag ∈ tagsMet 1 text := by
    refine mem_tagsMet_of_tag ?_
    change .tag (text.extract 2 24) ∈ segments ('\x7b' :: '@' :: text.drop 2)
    rw [segments_of_closing?_eq_some hend]
    exact List.mem_cons_self
  obtain ⟨hpart, hargs, hkeeps, hmetArgs⟩ := braces_of_arguments_close text
  refine ⟨⟨hopen, rfl, hclose, htag, hmet⟩, ((hpart 0 25 hopen).1 hclose).2.2, ?_, ?_,
    hmetArgs 1 tag hmet⟩
  · exact hargs 0 25 hopen rfl hclose _ (by decide) 0 rfl
  · exact hkeeps.2 ⟨26, by decide⟩

end Compendium.Inline
