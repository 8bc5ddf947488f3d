import Compendium.Proofs.Decimal
import Compendium.Proofs.Markdown.Blocks
import Compendium.Render.Tree

/-!
# Bullets of spells

The groups of spells in an object come in the order of its keys, and the bullets stand in the order
of what the keys say.  Sorting loses no group and makes none up (`Arranges`), a group makes a bullet
exactly if one of its spells shows, and a bullet holds the spells of its group that show, as they
come (`filterMap_spellBullet?`).  A bullet ends in a spell and so in a character that shows, so the
bullets are a block as they are between the lead and the closing text of a spellcasting block.

* `spellcasting_shows_groups`: what the bullets are, and where they stand.
-/

namespace Compendium.Render

open Markdown (shownBlocks)

/-! ### Groups in order -/

section Arranges

variable {γ : Type}

/-- The same groups in an order; groups that the order allows to stay do not pass each other. -/
structure Arranges (before : γ → γ → Prop) (groups arranged : List γ) : Prop where
  perm : arranged.Perm groups
  ordered : arranged.Pairwise before
  stable : ∀ a b, [a, b].Sublist groups → before a b → [a, b].Sublist arranged

theorem arranges_mergeSort {before : γ → γ → Prop} {le : γ → γ → Bool}
    (hle : ∀ a b, le a b = true ↔ before a b)
    (htrans : ∀ a b c, before a b → before b c → before a c)
    (htotal : ∀ a b, before a b ∨ before b a) (groups : List γ) :
    Arranges before groups (groups.mergeSort le) := by
  have htrans' : ∀ a b c, le a b = true → le b c = true → le a c = true := fun a b c hab hbc =>
    (hle a c).2 (htrans a b c ((hle a b).1 hab) ((hle b c).1 hbc))
  have htotal' : ∀ a b, (le a b || le b a) = true := by
    intro a b
    rw [Bool.or_eq_true, hle, hle]
    exact htotal a b
  refine ⟨List.mergeSort_perm groups le, ?_, fun a b hsub hab => ?_⟩
  · exact (List.pairwise_mergeSort htrans' htotal' groups).imp fun {a b} => (hle a b).1
  · exact List.pair_sublist_mergeSort htrans' htotal' ((hle a b).2 hab) hsub

theorem Arranges.filter {before : γ → γ → Prop} {groups arranged : List γ}
    (h : Arranges before groups arranged) (p : γ → Bool) :
    Arranges before (groups.filter p) (arranged.filter p) where
  perm := h.perm.filter p
  ordered := h.ordered.filter p
  stable := by
    intro a b hsub hab
    have hpass : ∀ g ∈ [a, b], p g = true := fun g hg => (List.mem_filter.1 (hsub.subset hg)).2
    have hsub := (h.stable a b (hsub.trans List.filter_sublist) hab).filter p
    rwa [List.filter_eq_self.2 hpass] at hsub

end Arranges

/-! ### Bullets -/

section Bullets

variable (s : Style)

/-- The spells of a list as they are shown, in order; those that are blank are not shown. -/
def shownSpells (spells : List Json) : List String :=
  ((spells.filterMap Json.str?).map s.expand).filter fun spell => !Text.isBlank spell

/-- A bullet that shows spells. -/
def bulletLine (label : String) (spells : List String) : String :=
  "- " ++ label ++ ": " ++ ", ".intercalate spells

variable {s}

theorem settled_expand (text : String) : Text.Settled (s.expand text) :=
  Text.settled_trim _

theorem endsVisibly_of_mem_shownSpells {spells : List Json} {spell : String}
    (h : spell ∈ shownSpells s spells) : Text.EndsVisibly spell := by
  obtain ⟨hmap, hshown⟩ := List.mem_filter.1 h
  obtain ⟨text, -, rfl⟩ := List.mem_map.1 hmap
  rcases settled_expand text with hempty | hends
  · rw [hempty] at hshown
    exact absurd hshown (by decide)
  · exact hends

/-- Spells show if one of the strings among them expands to a text that is not blank. -/
theorem shownSpells_ne_nil_iff {spells : List Json} : shownSpells s spells ≠ [] ↔
    ∃ text, .str text ∈ spells ∧ Text.isBlank (s.expand text) = false := by
  rw [Ne, shownSpells, List.filter_eq_nil_iff]
  simp [Json.str?_eq_some_iff]

/-- The list of a group holds the spells that show. -/
theorem spellList_eq (spells : List Json) :
    spellList s spells = ", ".intercalate (shownSpells s spells) := by
  have hblank : ∀ text : String, (s.expand text).isEmpty = Text.isBlank (s.expand text) := by
    intro text
    rcases settled_expand (s := s) text with hempty | hends
    · rw [hempty]
      rfl
    · rw [hends.isBlank_eq_false, ← Bool.not_eq_true, String.isEmpty_iff]
      rintro hempty
      rw [hempty] at hends
      obtain ⟨c, hlast, -⟩ := hends
      cases hlast
  rw [spellList, shownSpells]
  congr 1
  refine List.filter_congr fun spell hspell => ?_
  obtain ⟨text, -, rfl⟩ := List.mem_map.1 hspell
  rw [hblank]

theorem endsVisibly_spellList {spells : List Json} (h : shownSpells s spells ≠ []) :
    Text.EndsVisibly (", ".intercalate (shownSpells s spells)) :=
  Text.endsVisibly_intercalate h fun _ => endsVisibly_of_mem_shownSpells

theorem spellBullet?_spellList (label : String) (spells : List Json) :
    spellBullet? label (spellList s spells) =
      if shownSpells s spells = [] then none
      else some (bulletLine label (shownSpells s spells)) := by
  rw [spellBullet?, spellList_eq]
  by_cases h : shownSpells s spells = []
  · rw [if_pos h, h]
    rfl
  · have hne : (", ".intercalate (shownSpells s spells)).isEmpty = false := by
      obtain ⟨c, hlast, -⟩ := endsVisibly_spellList h
      rw [← Bool.not_eq_true, String.isEmpty_iff]
      rintro hempty
      rw [hempty] at hlast
      cases hlast
    rw [if_neg h, hne, bulletLine]
    rfl

/-- **A bullet for each group that shows a spell**, in the order of the groups. -/
theorem filterMap_spellBullet? {γ : Type} (label : γ → String) (spells : γ → List Json)
    (groups : List γ) :
    groups.filterMap (fun g => spellBullet? (label g) (spellList s (spells g))) =
      (groups.filter fun g => shownSpells s (spells g) ≠ []).map fun g =>
        bulletLine (label g) (shownSpells s (spells g)) := by
  induction groups with
  | nil => rfl
  | cons g rest ih =>
    rw [List.filterMap_cons, spellBullet?_spellList, ih]
    by_cases h : shownSpells s (spells g) = []
    · rw [if_pos h, List.filter_cons_of_neg (by simpa using h)]
    · rw [if_neg h, List.filter_cons_of_pos (by simpa using h), List.map_cons]

/-- One bullet for each group with a spell that shows: the groups stand in an order, and each bullet
holds the spells of its group. -/
def ShowsGroups {γ : Type} (s : Style) (label : γ → String) (spells : γ → List Json)
    (before : γ → γ → Prop) (groups : List γ) (bullets : List String) : Prop :=
  ∃ arranged, Arranges before (groups.filter fun g => shownSpells s (spells g) ≠ []) arranged ∧
    bullets = arranged.map fun g => bulletLine (label g) (shownSpells s (spells g))

theorem showsGroups_mergeSort {γ : Type} {before : γ → γ → Prop} {le : γ → γ → Bool}
    (hle : ∀ a b, le a b = true ↔ before a b)
    (htrans : ∀ a b c, before a b → before b c → before a c)
    (htotal : ∀ a b, before a b ∨ before b a) (label : γ → String) (spells : γ → List Json)
    (groups : List γ) :
    ShowsGroups s label spells before groups
      ((groups.mergeSort le).filterMap fun g => spellBullet? (label g) (spellList s (spells g))) :=
  ⟨_, (arranges_mergeSort hle htrans htotal groups).filter _, filterMap_spellBullet? label spells _⟩

end Bullets

/-! ### Uses a period -/

/-- A key that writes a number of uses, with `e`s behind it if each spell has as many, and the
spells of its array. -/
inductive UseGroup.Reads : String × Json → UseGroup → Prop
  | intro {numeral : String} {n : Int} (h : Decimal.parseInt64? numeral.toList = some n)
    (marks : Nat) (v : Json) :
    Reads (numeral ++ Text.replicate marks 'e', v) ⟨n, 0 < marks, v.elements⟩

theorem UseGroup.ofField?_eq_some_iff {f : String × Json} {g : UseGroup} :
    ofField? f = some g ↔ Reads f g := by
  constructor
  · intro h
    obtain ⟨key, v⟩ := f
    obtain ⟨n, hn, rfl⟩ := Option.map_eq_some_iff.1 h
    obtain ⟨marks, hkey, hlast⟩ := Chars.exists_dropEndWhile 'e' key.toList
    have hmarks : key.toList.getLast? = some 'e' ↔ 0 < marks := by
      rw [hkey]
      cases marks with
      | zero => simpa using hlast
      | succ marks => simp [List.replicate_succ']
    generalize Chars.dropEndWhile (· = 'e') key.toList = numeral at hn hkey
    obtain rfl : key = String.ofList numeral ++ Text.replicate marks 'e' := by
      rw [← String.toList_inj, hkey, Text.replicate]
      simp
    have hnumeral : Decimal.parseInt64? (String.ofList numeral).toList = some n := by
      rwa [String.toList_ofList]
    simpa only [hmarks] using Reads.intro hnumeral marks v
  · rintro ⟨h, marks, v⟩
    rename_i numeral n
    have hlast : numeral.toList.getLast? ≠ some 'e' := fun he =>
      absurd (Decimal.isDigit_of_parseInt64? h he) (by decide)
    have hmarks : (numeral.toList ++ List.replicate marks 'e').getLast? = some 'e' ↔ 0 < marks := by
      cases marks with
      | zero => simpa using hlast
      | succ marks => simp [List.replicate_succ']
    have hkey : (numeral ++ Text.replicate marks 'e').toList =
        numeral.toList ++ List.replicate marks 'e' := by
      simp [Text.replicate]
    rw [ofField?, hkey, Chars.dropEndWhile_append_replicate hlast, h]
    simp only [hmarks, Option.map_some]

/-- More uses come first, and of two groups with as many the one with `e`s. -/
def UseGroup.Before (a b : UseGroup) : Prop :=
  b.uses ≤ a.uses ∧ (a.uses = b.uses → b.each = true → a.each = true)

theorem UseGroup.precedes_iff (a b : UseGroup) : precedes a b = true ↔ Before a b := by
  rw [precedes, Before]
  cases a.each <;> cases b.each <;> simp <;> omega

theorem UseGroup.Before.trans {a b c : UseGroup} (hab : Before a b) (hbc : Before b c) :
    Before a c := by
  obtain ⟨hab, heach⟩ := hab
  obtain ⟨hbc, heach'⟩ := hbc
  refine ⟨by omega, fun heq hc => ?_⟩
  exact heach (by omega) (heach' (by omega) hc)

theorem UseGroup.before_total (a b : UseGroup) : Before a b ∨ Before b a := by
  rw [Before, Before]
  cases a.each <;> cases b.each <;> simp <;> omega

/-- The label of a number of uses a period. -/
def useLabel (period : String) (g : UseGroup) : String :=
  toString g.uses ++ "/" ++ period ++ (if g.each then " each" else "")

/-- The fields of an object in a record. -/
def objectFields (r : Record) (key : String) : List (String × Json) :=
  ((r.object? key).map Record.fields).getD []

/-! ### Spellcasting blocks -/

/-- The bullets of a spellcasting block, by what they are for. -/
structure SpellBullets where
  atWill : List String
  daily : List String
  rest : List String
  weekly : List String
  levels : List String
  rituals : List String

/-- All bullets, in the order in which they stand. -/
def SpellBullets.all (b : SpellBullets) : List String :=
  b.atWill ++ b.daily ++ b.rest ++ b.weekly ++ b.levels ++ b.rituals

/-- A single bullet for a list of spells, if any of them shows. -/
def ShowsList (s : Style) (label : String) (spells : List Json) (bullets : List String) : Prop :=
  bullets = if shownSpells s spells = [] then [] else [bulletLine label (shownSpells s spells)]

/-- The bullets of the groups in an object whose keys are numbers of uses. -/
def ShowsUses (s : Style) (r : Record) (key period : String) (bullets : List String) : Prop :=
  ShowsGroups s (useLabel period) UseGroup.spells UseGroup.Before
    ((objectFields r key).filterMap UseGroup.ofField?) bullets

/-- The bullets of the groups in an object whose keys are levels. -/
def ShowsLevels (s : Style) (r : Record) (bullets : List String) : Prop :=
  ShowsGroups s (fun g => levelLabel g.1 g.2) (fun g => g.2.array "spells") (fun a b => a.1 ≤ b.1)
    ((objectFields r "spells").filterMap levelGroup?) bullets

/-- The bullets show the spells of a record, group by group. -/
structure SpellBullets.Show (s : Style) (r : Record) (b : SpellBullets) : Prop where
  atWill : ShowsList s "At will" (r.array "will") b.atWill
  daily : ShowsUses s r "daily" "day" b.daily
  rest : ShowsUses s r "rest" "rest" b.rest
  weekly : ShowsUses s r "weekly" "week" b.weekly
  levels : ShowsLevels s r b.levels
  rituals : ShowsList s "Rituals" (r.array "ritual") b.rituals

section Spellcasting

variable (s : Style) (r : Record)

theorem showsList (label : String) (spells : List Json) :
    ShowsList s label spells (spellBullet? label (spellList s spells)).toList := by
  rw [ShowsList, spellBullet?_spellList]
  split <;> rfl

theorem showsUses (key period : String) : ShowsUses s r key period (useBullets s r key period) :=
  showsGroups_mergeSort UseGroup.precedes_iff (fun _ _ _ => UseGroup.Before.trans)
    UseGroup.before_total (useLabel period) UseGroup.spells _

theorem showsLevels : ShowsLevels s r (levelBullets s r) :=
  have hle : ∀ a b : Int × Record, decide (a.1 ≤ b.1) = true ↔ a.1 ≤ b.1 := fun _ _ =>
    decide_eq_true_iff
  showsGroups_mergeSort hle (fun _ _ _ => Int.le_trans) (fun a b => Int.le_total a.1 b.1)
    (fun g => levelLabel g.1 g.2) (fun g => g.2.array "spells") _

theorem levelGroup?_eq_some_iff {f : String × Json} {level : Int} {group : Record} :
    levelGroup? f = some (level, group) ↔
      Decimal.parseInt64? f.1.toList = some level ∧ f.2 = .obj group.fields := by
  rw [levelGroup?, ← Json.record?_eq_some_iff]
  cases Decimal.parseInt64? f.1.toList <;> cases f.2.record? <;> simp

variable {s r}

theorem endsVisibly_bulletLine {spells : List Json} (h : shownSpells s spells ≠ [])
    (label : String) : Text.EndsVisibly (bulletLine label (shownSpells s spells)) :=
  (endsVisibly_spellList h).append_left _

theorem ShowsList.endsVisibly {label : String} {spells : List Json} {bullets : List String}
    (h : ShowsList s label spells bullets) : ∀ bullet ∈ bullets, Text.EndsVisibly bullet := by
  rw [ShowsList] at h
  intro bullet hb
  by_cases hspells : shownSpells s spells = []
  · rw [h, if_pos hspells] at hb
    exact absurd hb List.not_mem_nil
  · rw [h, if_neg hspells, List.mem_singleton] at hb
    rw [hb]
    exact endsVisibly_bulletLine hspells label

theorem ShowsGroups.endsVisibly {γ : Type} {label : γ → String} {spells : γ → List Json}
    {before : γ → γ → Prop} {groups : List γ} {bullets : List String}
    (h : ShowsGroups s label spells before groups bullets) :
    ∀ bullet ∈ bullets, Text.EndsVisibly bullet := by
  obtain ⟨arranged, harranged, rfl⟩ := h
  intro bullet hb
  obtain ⟨g, hg, rfl⟩ := List.mem_map.1 hb
  have hshown := (List.mem_filter.1 (harranged.perm.subset hg)).2
  exact endsVisibly_bulletLine (of_decide_eq_true hshown) _

theorem SpellBullets.Show.endsVisibly {b : SpellBullets} (h : b.Show s r) :
    ∀ bullet ∈ b.all, Text.EndsVisibly bullet := by
  intro bullet hb
  simp only [SpellBullets.all, List.mem_append] at hb
  rcases hb with ((((hb | hb) | hb) | hb) | hb) | hb
  · exact h.atWill.endsVisibly bullet hb
  · exact ShowsGroups.endsVisibly h.daily bullet hb
  · exact ShowsGroups.endsVisibly h.rest bullet hb
  · exact ShowsGroups.endsVisibly h.weekly bullet hb
  · exact ShowsGroups.endsVisibly h.levels bullet hb
  · exact h.rituals.endsVisibly bullet hb

variable (s r)

/-- The bullets of a record, by what they are for. -/
def bulletsOf : SpellBullets where
  atWill := (spellBullet? "At will" (spellList s (r.array "will"))).toList
  daily := useBullets s r "daily" "day"
  rest := useBullets s r "rest" "rest"
  weekly := useBullets s r "weekly" "week"
  levels := levelBullets s r
  rituals := (spellBullet? "Rituals" (spellList s (r.array "ritual"))).toList

theorem show_bulletsOf : (bulletsOf s r).Show s r where
  atWill := showsList s "At will" _
  daily := showsUses s r "daily" "day"
  rest := showsUses s r "rest" "rest"
  weekly := showsUses s r "weekly" "week"
  levels := showsLevels s r
  rituals := showsList s "Rituals" _

/-- What stands in front of the bullets: the name over the text that leads the block. -/
def spellLead (depth : UInt64) : String :=
  Markdown.namedParagraph .boldItalic (s.expand (r.name?.getD "Spellcasting"))
    (field s r "headerEntries" (depth + 1))

/-- **The bullets of a spellcasting block.**  Between the lead and the closing text, which are left
out where they are blank, the block shows its bullets as they are, each on a line of its own.  There
is a bullet for the spells cast at will and one for the rituals, if any of them shows, and one for
each group of the objects `daily`, `rest`, `weekly` and `spells` whose key is a number and which has
a spell that shows: more uses in front of fewer ones and, of as many, `each` in front; lower levels
in front of higher ones.  A bullet holds the spells of its group that show, in order. -/
theorem spellcasting_shows_groups (depth : UInt64) :
    (∃ b : SpellBullets, b.Show s r ∧
      spellcasting s r depth = "\n\n".intercalate (shownBlocks [spellLead s r depth] ++
        (if b.all = [] then [] else ["\n".intercalate b.all]) ++
        shownBlocks [field s r "footerEntries" (depth + 1)])) ∧
    (r.kind = .spellcasting → block s r depth = spellcasting s r depth) ∧
    (∀ spells, shownSpells s spells ≠ [] ↔
      ∃ text, .str text ∈ spells ∧ Text.isBlank (s.expand text) = false) ∧
    (∀ f g, UseGroup.ofField? f = some g ↔ UseGroup.Reads f g) ∧
    (∀ f level group, levelGroup? f = some (level, group) ↔
      Decimal.parseInt64? f.1.toList = some level ∧ f.2 = .obj group.fields) := by
  refine ⟨⟨bulletsOf s r, show_bulletsOf s r, ?_⟩, ?_, fun _ => shownSpells_ne_nil_iff,
    fun _ _ => UseGroup.ofField?_eq_some_iff, fun _ _ _ => levelGroup?_eq_some_iff⟩
  · have hends := (show_bulletsOf s r).endsVisibly
    have hall : (bulletsOf s r).all = spellBullets s r := rfl
    rw [hall] at hends ⊢
    have hmiddle : shownBlocks ["\n".intercalate (spellBullets s r)] =
        if spellBullets s r = [] then [] else ["\n".intercalate (spellBullets s r)] := by
      by_cases hnone : spellBullets s r = []
      · rw [if_pos hnone, hnone]
        rfl
      · rw [if_neg hnone]
        exact Markdown.shownBlocks_eq_self fun block hb => by
          rw [List.mem_singleton.1 hb]
          exact Text.endsVisibly_intercalate hnone hends
    rw [← hmiddle, ← Markdown.shownBlocks_append, ← Markdown.shownBlocks_append,
      ← Markdown.joinBlocks_eq]
    rfl
  · intro hkind
    rw [block]
    simp only [hkind]
    rfl

end Spellcasting

/-- Keys in the order of an object, `e`s behind a number, a key that is no number, a spell without
text and a value that is no spell. -/
theorem spellcasting_shows_groups_drow :
    let s := Style.make false 2
    let r : Record := ⟨[
      ("daily", .obj [("1", .arr [.str "levitate"]),
        ("10", .arr [.str "light", .str "\x7b@b \x7d"]),
        ("1e", .arr [.num (.int 7), .str "\x7b@spell sleep\x7d"]), ("2x", .arr [.str "haste"])]),
      ("spells", .obj [("0", .obj [("spells", .arr [.str "mending"])]), ("1", .str "shield")]),
      ("type", .str "spellcasting")]⟩
    r.kind = .spellcasting ∧ (∃ b : SpellBullets, b.Show s r) ∧
      block s r 1 = "***Spellcasting.***\n\n- 10/day: light\n- 1/day each: *sleep*\n" ++
        "- 1/day: levitate\n- Cantrips (at will): mending" := by
  intro s r
  have hkind : r.kind = .spellcasting := by decide +kernel
  obtain ⟨⟨b, hb, -⟩, hblock, -⟩ := spellcasting_shows_groups s r 1
  have hread : (((r.object? "daily").map Record.fields).getD []).filterMap UseGroup.ofField? =
      [⟨1, false, [.str "levitate"]⟩, ⟨10, false, [.str "light", .str "\x7b@b \x7d"]⟩,
        ⟨1, true, [.num (.int 7), .str "\x7b@spell sleep\x7d"]⟩] := rfl
  have hsort : List.mergeSort [⟨1, false, [.str "levitate"]⟩,
      ⟨10, false, [.str "light", .str "\x7b@b \x7d"]⟩,
      ⟨1, true, [.num (.int 7), .str "\x7b@spell sleep\x7d"]⟩] UseGroup.precedes =
      [⟨10, false, [.str "light", .str "\x7b@b \x7d"]⟩,
        ⟨1, true, [.num (.int 7), .str "\x7b@spell sleep\x7d"]⟩,
        ⟨1, false, [.str "levitate"]⟩] := by
    simp [List.mergeSort, List.MergeSort.Internal.splitInTwo, UseGroup.precedes]
  have hbullets : spellBullets s r = ["- 10/day: light", "- 1/day each: *sleep*",
      "- 1/day: levitate", "- Cantrips (at will): mending"] := by
    have hdaily : useBullets s r "daily" "day" =
        ["- 10/day: light", "- 1/day each: *sleep*", "- 1/day: levitate"] := by
      rw [useBullets, hread, hsort]
      decide +kernel
    rw [spellBullets, hdaily]
    decide +kernel
  refine ⟨hkind, ⟨b, hb⟩, ?_⟩
  rw [hblock hkind, spellcasting, spellcastingBlock, field_of_none (by decide +kernel),
    field_of_none (by decide +kernel), hbullets]
  decide +kernel

end Compendium.Render
