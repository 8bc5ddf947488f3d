import Compendium.Markdown.Blocks
import Compendium.Proofs.Trim

/-!
# Joined blocks

Joining drops the white space at the end of a block and leaves blank blocks out, so what is
joined ends in a character that shows, and joining it again changes nothing
(`shownBlocks_joinBlocks`).  So blocks may be joined in groups first (`joinBlocks_group`).

A text is cut into its lines at its line feeds.  Texts with a line feed between them have
the lines of both (`Text.splitOn_line`), and a block that is not blank keeps its lines, as
neighbours, among those of the blocks it is joined with (`splitOn_joinBlocks`).
-/

namespace Compendium.Text

/-! ### Lines -/

theorem splitOn_line (s t : String) :
    splitOn '\n' (s ++ "\n" ++ t) = splitOn '\n' s ++ splitOn '\n' t :=
  splitOn_append '\n' s t

/-- A blank line stands between texts with two line feeds between them. -/
theorem splitOn_blankLine (s t : String) :
    splitOn '\n' (s ++ "\n\n" ++ t) = splitOn '\n' s ++ "" :: splitOn '\n' t := by
  have hfeeds : s ++ "\n\n" ++ t = s ++ "\n" ++ ("" ++ "\n" ++ t) := by
    apply String.toList_injective
    simp
  rw [hfeeds, splitOn_line, splitOn_line]
  rfl

/-! ### The end of a text -/

/-- A text that ends in a character other than white space. -/
def EndsVisibly (t : String) : Prop :=
  ∃ c, t.toList.getLast? = some c ∧ isSpace c = false

section Ends

variable {t : String}

theorem EndsVisibly.isBlank_eq_false (h : EndsVisibly t) : isBlank t = false := by
  obtain ⟨c, hlast, hc⟩ := h
  rw [← Bool.not_eq_true, isBlank, Chars.isBlank, List.all_eq_true]
  intro hall
  exact absurd (hall c (List.mem_of_getLast? hlast)) (by simp [hc])

theorem EndsVisibly.trimEnd_eq (h : EndsVisibly t) : trimEnd t = t := by
  obtain ⟨c, hlast, hc⟩ := h
  have hself : Chars.trimEnd t.toList = t.toList := by
    refine Chars.trimEnd_eq_self fun d hd => ?_
    obtain rfl : c = d := Option.some.inj (hlast.symm.trans hd)
    exact hc
  rw [trimEnd, hself, String.ofList_toList]

theorem endsVisibly_trimEnd (h : isBlank t = false) : EndsVisibly (trimEnd t) := by
  -- The last character that is left is the first one that is left of the text read backwards.
  have hne : Chars.trimStart t.toList.reverse ≠ [] := by
    rw [Ne, Chars.trimStart_eq_nil_iff, Chars.isBlank_reverse, Bool.not_eq_true]
    exact h
  obtain ⟨c, rest, hs⟩ := List.exists_cons_of_ne_nil hne
  refine ⟨c, ?_, Chars.front_trimStart t.toList.reverse c (by rw [hs]; rfl)⟩
  rw [trimEnd, String.toList_ofList, Chars.trimEnd_eq_reverse, hs, List.getLast?_reverse]
  rfl

theorem EndsVisibly.append_left (h : EndsVisibly t) (s : String) : EndsVisibly (s ++ t) := by
  obtain ⟨c, hlast, hc⟩ := h
  refine ⟨c, ?_, hc⟩
  rw [String.toList_append, List.getLast?_append, hlast]
  rfl

theorem endsVisibly_intercalate {sep : String} : ∀ {texts : List String}, texts ≠ [] →
    (∀ text ∈ texts, EndsVisibly text) → EndsVisibly (sep.intercalate texts)
  | [], hne, _ => absurd rfl hne
  | [text], _, h => by
    rw [String.intercalate_singleton]
    exact h text List.mem_cons_self
  | text :: next :: rest, _, h => by
    have hrest : EndsVisibly (sep.intercalate (next :: rest)) :=
      endsVisibly_intercalate (by simp) fun other ho => h other (List.mem_cons_of_mem text ho)
    rw [String.intercalate_cons_cons]
    exact hrest.append_left _

/-- A text that is empty or ends in a character other than white space. -/
def Settled (t : String) : Prop :=
  t = "" ∨ EndsVisibly t

theorem settled_trim (t : String) : Settled (trim t) := by
  rw [trim]
  cases hlast : (Chars.trim t.toList).getLast? with
  | none =>
    rw [List.getLast?_eq_none_iff] at hlast
    rw [hlast]
    exact Or.inl rfl
  | some c =>
    refine Or.inr ⟨c, ?_, (Chars.tight_trim t.toList).back c hlast⟩
    rwa [String.toList_ofList]

theorem endsVisibly_trim (h : isBlank t = false) : EndsVisibly (trim t) := by
  refine (settled_trim t).resolve_left fun hempty => ?_
  rw [← isEmpty_trim, hempty] at h
  cases h

end Ends

end Compendium.Text

namespace Compendium.Markdown

/-! ### Joined blocks -/

/-- The blocks that show something, as they stand among joined ones. -/
def shownBlocks (blocks : List String) : List String :=
  (blocks.filter fun b => !Text.isBlank b).map Text.trimEnd

theorem joinBlocks_eq (blocks : List String) :
    joinBlocks blocks = "\n\n".intercalate (shownBlocks blocks) := rfl

@[simp]
theorem shownBlocks_append (front back : List String) :
    shownBlocks (front ++ back) = shownBlocks front ++ shownBlocks back := by
  simp [shownBlocks]

theorem shownBlocks_cons (block : String) (back : List String) :
    shownBlocks (block :: back) =
      if Text.isBlank block then shownBlocks back else Text.trimEnd block :: shownBlocks back := by
  by_cases hb : Text.isBlank block = true
  · simp [shownBlocks, hb]
  · simp [shownBlocks, hb]

theorem endsVisibly_of_mem_shownBlocks {blocks : List String} {block : String}
    (h : block ∈ shownBlocks blocks) : Text.EndsVisibly block := by
  obtain ⟨raw, hraw, rfl⟩ := List.mem_map.1 h
  exact Text.endsVisibly_trimEnd (by simpa using (List.mem_filter.1 hraw).2)

/-- One block that shows something is enough for what is joined to end visibly. -/
theorem endsVisibly_joinBlocks {blocks : List String} {block : String} (h : block ∈ blocks)
    (hb : Text.isBlank block = false) : Text.EndsVisibly (joinBlocks blocks) := by
  have hshown : Text.trimEnd block ∈ shownBlocks blocks :=
    List.mem_map_of_mem (List.mem_filter.2 ⟨h, by simp [hb]⟩)
  exact Text.endsVisibly_intercalate (List.ne_nil_of_mem hshown) fun _ =>
    endsVisibly_of_mem_shownBlocks

theorem infix_joinBlocks {blocks : List String} {block : String} (h : block ∈ blocks)
    (hends : Text.EndsVisibly block) : block.toList <:+: (joinBlocks blocks).toList := by
  have hshown : block ∈ shownBlocks blocks := by
    rw [← hends.trimEnd_eq]
    exact List.mem_map_of_mem (List.mem_filter.2 ⟨h, by simp [hends.isBlank_eq_false]⟩)
  rw [joinBlocks_eq, String.toList_intercalate]
  exact Chars.infix_intercalate (List.mem_map_of_mem hshown)

/-- **Joined blocks are one block**, which stands as it is, or nothing if none of them shows
anything. -/
theorem shownBlocks_joinBlocks (inner : List String) :
    shownBlocks [joinBlocks inner] = if shownBlocks inner = [] then [] else [joinBlocks inner] := by
  by_cases hinner : shownBlocks inner = []
  · rw [if_pos hinner, joinBlocks_eq, hinner]
    rfl
  · have hends : Text.EndsVisibly (joinBlocks inner) :=
      Text.endsVisibly_intercalate hinner fun block hb => endsVisibly_of_mem_shownBlocks hb
    rw [if_neg hinner, shownBlocks_cons, hends.isBlank_eq_false, hends.trimEnd_eq]
    rfl

/-- **Blocks may be joined in groups first.** -/
theorem joinBlocks_group (front inner back : List String) :
    joinBlocks (front ++ [joinBlocks inner] ++ back) = joinBlocks (front ++ inner ++ back) := by
  rw [joinBlocks_eq (front ++ [joinBlocks inner] ++ back), joinBlocks_eq (front ++ inner ++ back)]
  simp only [shownBlocks_append, shownBlocks_joinBlocks]
  generalize shownBlocks front = front
  generalize shownBlocks back = back
  by_cases hinner : shownBlocks inner = []
  · rw [if_pos hinner, hinner]
  · -- What the group shows is put together with the same separator as the blocks around it.
    have hleft : "\n\n".intercalate (front ++ [joinBlocks inner]) =
        "\n\n".intercalate (front ++ shownBlocks inner) := by
      by_cases hfront : front = []
      · rw [hfront, List.nil_append, List.nil_append, String.intercalate_singleton, joinBlocks_eq]
      · rw [String.intercalate_append_of_ne_nil hfront (by simp), String.intercalate_singleton,
          String.intercalate_append_of_ne_nil hfront hinner, joinBlocks_eq]
    rw [if_neg hinner]
    by_cases hback : back = []
    · rw [hback, List.append_nil, List.append_nil, hleft]
    · rw [String.intercalate_append_of_ne_nil (by simp) hback, hleft,
        String.intercalate_append_of_ne_nil (by simp [hinner]) hback]

theorem settled_joinBlocks (blocks : List String) : Text.Settled (joinBlocks blocks) := by
  rw [joinBlocks_eq]
  by_cases h : shownBlocks blocks = []
  · rw [h]
    exact Or.inl rfl
  · exact Or.inr (Text.endsVisibly_intercalate h fun block hb => endsVisibly_of_mem_shownBlocks hb)

theorem shownBlocks_eq_self {blocks : List String} (h : ∀ block ∈ blocks, Text.EndsVisibly block) :
    shownBlocks blocks = blocks := by
  induction blocks with
  | nil => rfl
  | cons block rest ih =>
    have hblock := h block List.mem_cons_self
    rw [shownBlocks_cons, hblock.isBlank_eq_false, hblock.trimEnd_eq,
      ih fun other ho => h other (List.mem_cons_of_mem block ho)]
    rfl

/-- **The blocks in front stay in front** with a line feed behind them, whatever is joined to
them. -/
theorem joinBlocks_front {front : List String} (hne : front ≠ [])
    (h : ∀ block ∈ front, Text.EndsVisibly block) (back : List String) :
    ∃ rest, joinBlocks (front ++ back) ++ "\n" = "\n\n".intercalate front ++ "\n" ++ rest := by
  rw [joinBlocks_eq, shownBlocks_append, shownBlocks_eq_self h]
  by_cases hback : shownBlocks back = []
  · exact ⟨"", by rw [hback, List.append_nil, String.append_empty]⟩
  · refine ⟨"\n" ++ "\n\n".intercalate (shownBlocks back) ++ "\n", ?_⟩
    rw [String.intercalate_append_of_ne_nil hne hback]
    apply String.toList_injective
    simp

/-- Blocks that joining leaves as they are keep their lines, and nothing but blank lines comes
between them. -/
theorem filter_splitOn_joinBlocks {p : String → Bool} (hp : p "" = false) {blocks : List String}
    (h : ∀ block ∈ blocks, Text.Settled block) :
    (Text.splitOn '\n' (joinBlocks blocks)).filter p =
      blocks.flatMap fun block => (Text.splitOn '\n' block).filter p := by
  have hempty : (Text.splitOn '\n' "").filter p = [] := by
    simp [Text.splitOn, hp]
  have hjoined : ∀ texts : List String,
      (Text.splitOn '\n' ("\n\n".intercalate texts)).filter p =
        texts.flatMap fun text => (Text.splitOn '\n' text).filter p := by
    intro texts
    induction texts with
    | nil => exact hempty
    | cons text rest ih =>
      cases rest with
      | nil => simp
      | cons next rest =>
        rw [String.intercalate_cons_cons, Text.splitOn_blankLine, List.filter_append,
          List.filter_cons_of_neg (by simp [hp]), ih]
        rfl
  rw [joinBlocks_eq, hjoined]
  induction blocks with
  | nil => rfl
  | cons block rest ih =>
    have hrest := ih fun other ho => h other (List.mem_cons_of_mem block ho)
    rw [shownBlocks_cons, List.flatMap_cons, ← hrest]
    rcases h block List.mem_cons_self with rfl | hends
    · have hblank : Text.isBlank "" = true := rfl
      rw [if_pos hblank, hempty, List.nil_append]
    · rw [hends.isBlank_eq_false, hends.trimEnd_eq]
      rfl

/-- **A block keeps its lines** among those of the blocks around it. -/
theorem splitOn_joinBlocks (front : List String) {block : String} (back : List String)
    (hb : Text.isBlank block = false) :
    ∃ before after, Text.splitOn '\n' (joinBlocks (front ++ block :: back)) =
      before ++ Text.splitOn '\n' (Text.trimEnd block) ++ after := by
  rw [joinBlocks_eq, shownBlocks_append, shownBlocks_cons, if_neg (by simp [hb])]
  generalize shownBlocks front = front
  generalize shownBlocks back = back
  obtain ⟨after, hafter⟩ : ∃ after,
      Text.splitOn '\n' ("\n\n".intercalate (Text.trimEnd block :: back)) =
        Text.splitOn '\n' (Text.trimEnd block) ++ after := by
    cases back with
    | nil => exact ⟨[], by rw [String.intercalate_singleton, List.append_nil]⟩
    | cons next rest =>
      exact ⟨_, by rw [String.intercalate_cons_cons, Text.splitOn_blankLine]⟩
  by_cases hfront : front = []
  · exact ⟨[], after, by rw [hfront, List.nil_append, hafter, List.nil_append]⟩
  · refine ⟨Text.splitOn '\n' ("\n\n".intercalate front) ++ [""], after, ?_⟩
    rw [String.intercalate_append_of_ne_nil hfront (by simp), Text.splitOn_blankLine, hafter]
    simp

end Compendium.Markdown
