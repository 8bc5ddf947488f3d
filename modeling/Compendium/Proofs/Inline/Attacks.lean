import Mathlib.Data.Finset.Dedup
import Compendium.Proofs.Distinct
import Compendium.Proofs.Inline.SingleTag

/-!
# The phrases of attacks

The codes of an attack are looked up after melee codes have been put in front of the others and
neighbours that are equal have been written once.  That is no normal form: a code may stay twice if
another one of its kind stands between.  But the keys of the tables list no two codes of one kind,
and a melee code first (`Precedes`), and such a list is what comes of exactly the texts with its set
of codes (`attackCodes_eq_iff`).  So a look-up sees nothing but this set.

* `attack_phrase_by_codes`: the phrase is that of the key with the same set of codes, and the
  general one if there is none.
-/

namespace Compendium.Inline

open Compendium.Chars

/-! ### Codes -/

/-- The codes in a text, without their order. -/
def codesIn (text : String) : Finset String :=
  ((commaParts text).map Text.asciiLower).toFinset

theorem commaParts_trim (text : String) : commaParts (Text.trim text) = commaParts text := by
  have hparts : ∀ s : String, (Text.splitOn ',' s).map Text.trim =
      ((s.toList.splitOn ',').map trim).map String.ofList := by
    intro s
    simp [Text.splitOn, Text.trim]
  rw [commaParts, commaParts, hparts, hparts, Text.trim, String.toList_ofList,
    map_trim_splitOn_trim (by decide)]

theorem attackCodes_trim (text : String) : attackCodes (Text.trim text) = attackCodes text := by
  rw [attackCodes, commaParts_trim, attackCodes]

theorem eq_comma_of_toLower {c : Char} (h : c.toLower = ',') : c = ',' := by
  have hvalue : c.toLower.val.toNat = 44 := congrArg (fun d : Char => d.val.toNat) h
  delta Char.toLower at h hvalue
  split at h
  · next hupper =>
    -- Letters in lower case stand far behind the comma.
    rw [dif_pos hupper] at hvalue
    have hle := UInt32.le_iff_toNat_le.1 hupper.1
    have hge := UInt32.le_iff_toNat_le.1 hupper.2
    simp only [UInt32.toNat_add] at hvalue hle hge
    simp at hvalue hle hge
    omega
  · exact h

theorem comma_notMem_of_mem_codesIn {text code : String} (h : code ∈ codesIn text) :
    ',' ∉ code.toList := by
  rw [codesIn, List.mem_toFinset] at h
  obtain ⟨part, hpart, rfl⟩ := List.mem_map.1 h
  intro hm
  rw [Text.asciiLower, String.toList_ofList] at hm
  obtain ⟨c, hc, hcomma⟩ := List.mem_map.1 hm
  rw [eq_comma_of_toLower hcomma] at hc
  obtain ⟨piece, hpiece, rfl⟩ := List.mem_map.1 (List.mem_filter.1 hpart).1
  obtain ⟨chars, hchars, rfl⟩ := List.mem_map.1 hpiece
  rw [Text.trim, String.toList_ofList, String.toList_ofList] at hc
  exact sep_notMem_of_mem_splitOn hchars (mem_of_mem_trim hc)

/-! ### Codes in order -/

/-- A melee code in front of another code. -/
def Precedes (a b : String) : Prop :=
  Text.beginsWith "m" a = true ∧ Text.beginsWith "m" b = false

instance (a b : String) : Decidable (Precedes a b) :=
  inferInstanceAs (Decidable (_ ∧ _))

theorem Precedes.ne {a b : String} (h : Precedes a b) : a ≠ b := by
  rintro rfl
  exact absurd (h.1.symm.trans h.2) (by decide)

theorem mem_attackCodes {text code : String} : code ∈ attackCodes text ↔ code ∈ codesIn text := by
  simp only [attackCodes, Text.mem_eraseReps, codesIn, List.mem_toFinset, List.mem_append,
    List.mem_filter]
  cases Text.beginsWith "m" code <;> simp

/-- Of codes in order, two of one kind are the same. -/
theorem eq_of_pairwise_precedes {codes : List String} (h : codes.Pairwise Precedes) :
    ∀ a ∈ codes, ∀ b ∈ codes, Text.beginsWith "m" a = Text.beginsWith "m" b → a = b := by
  induction h with
  | nil => simp
  | cons hfirst _ ih =>
    intro a ha b hb hkind
    rcases List.mem_cons.1 ha with rfl | ha'
    · rcases List.mem_cons.1 hb with rfl | hb'
      · rfl
      · have hp := hfirst b hb'
        simp [hp.1, hp.2] at hkind
    · rcases List.mem_cons.1 hb with rfl | hb'
      · have hp := hfirst a ha'
        simp [hp.1, hp.2] at hkind
      · exact ih a ha' b hb' hkind

/-- Where codes of one kind are copies of one code, they are in order but for repeats once melee
codes stand in front. -/
theorem pairwise_melee_append {codes : List String}
    (h : ∀ a ∈ codes, ∀ b ∈ codes, Text.beginsWith "m" a = Text.beginsWith "m" b → a = b) :
    (codes.filter (Text.beginsWith "m") ++ codes.filter fun code =>
      !Text.beginsWith "m" code).Pairwise fun a b => a = b ∨ Precedes a b := by
  rw [List.pairwise_append]
  refine ⟨List.pairwise_of_forall_mem_list ?_, List.pairwise_of_forall_mem_list ?_, ?_⟩
  · intro a ha b hb
    rw [List.mem_filter] at ha hb
    exact Or.inl (h a ha.1 b hb.1 (ha.2.trans hb.2.symm))
  · intro a ha b hb
    simp only [List.mem_filter, Bool.not_eq_true'] at ha hb
    exact Or.inl (h a ha.1 b hb.1 (ha.2.trans hb.2.symm))
  · intro a ha b hb
    simp only [List.mem_filter, Bool.not_eq_true'] at ha hb
    exact Or.inr ⟨ha.2, hb.2⟩

theorem eq_of_precedes {a b : String} (hab : a = b ∨ Precedes a b) (hba : b = a ∨ Precedes b a) :
    a = b := by
  rcases hab with hab | hab
  · exact hab
  · rcases hba with hba | hba
    · exact hba.symm
    · exact absurd (hab.1.symm.trans hba.2) (by decide)

/-- **Codes in order come from the texts that have the same set of codes.** -/
theorem attackCodes_eq_iff {codes : List String} (h : codes.Pairwise Precedes) (text : String) :
    attackCodes text = codes ↔ codesIn text = codes.toFinset := by
  constructor
  · rintro rfl
    ext code
    rw [List.mem_toFinset, mem_attackCodes]
  · intro hset
    have hmem : ∀ code, code ∈ attackCodes text ↔ code ∈ codes := by
      intro code
      rw [mem_attackCodes, hset, List.mem_toFinset]
    have hcodes : ∀ code ∈ (commaParts text).map Text.asciiLower, code ∈ codes := by
      intro code hc
      rw [← hmem, mem_attackCodes, codesIn, List.mem_toFinset]
      exact hc
    have hsorted := pairwise_melee_append fun a ha b hb =>
      eq_of_pairwise_precedes h a (hcodes a ha) b (hcodes b hb)
    have hordered : (attackCodes text).Pairwise Precedes :=
      (Text.pairwise_eraseReps (fun _ _ => eq_of_precedes) hsorted).imp fun h =>
        h.1.resolve_left h.2
    have hperm : (attackCodes text).Perm codes :=
      (List.perm_ext_iff_of_nodup (hordered.imp Precedes.ne) (h.imp Precedes.ne)).2 hmem
    refine hperm.eq_of_pairwise ?_ hordered h
    intro a b _ _ hab hba
    exact eq_of_precedes (Or.inr hab) (Or.inr hba)

/-! ### Keys -/

/-- The codes that the key of a phrase lists. -/
def keyCodes (key : String) : Finset String :=
  (Text.splitOn ',' key).toFinset

theorem intercalate_attackCodes_eq_iff {key : String} (hne : key ≠ "")
    (hkey : (Text.splitOn ',' key).Pairwise Precedes) (text : String) :
    ",".intercalate (attackCodes text) = key ↔ codesIn text = keyCodes key := by
  rw [keyCodes, ← attackCodes_eq_iff hkey]
  constructor
  · rintro rfl
    have hsome : attackCodes text ≠ [] := by
      intro hnil
      rw [hnil] at hne
      exact hne rfl
    have hsolid : ∀ code ∈ attackCodes text, ',' ∉ code.toList := fun code hc =>
      comma_notMem_of_mem_codesIn (mem_attackCodes.1 hc)
    exact (Text.splitOn_intercalate hsome hsolid).symm
  · intro hcodes
    rw [hcodes]
    exact Text.intercalate_splitOn ',' key

/-- The tags that announce an attack. -/
inductive AttackTag where
  | attack
  | attackRoll

namespace AttackTag

def name : AttackTag → String
  | attack => "atk"
  | attackRoll => "atkr"

def phrases : AttackTag → List (String × String)
  | attack => attackPhrases
  | attackRoll => attackRollPhrases

/-- The phrase for codes that no key lists. -/
def general : AttackTag → String
  | attack => "Attack"
  | attackRoll => "Attack Roll"

variable (tag : AttackTag)

theorem render_eq (mode : Mode) (args : List String) : render mode tag.name args =
    emphasize mode .italic (attackPhrase tag.phrases tag.general (args.headD "")) := by
  have htrim : ∀ phrases generic, attackPhrase phrases generic (Text.trim (args.headD "")) =
      attackPhrase phrases generic (args.headD "") := by
    intro phrases generic
    rw [attackPhrase, attackCodes_trim, attackPhrase]
  cases tag with
  | attack =>
    have hkind : Kind.ofName "atk" = .attack := by decide
    simp only [name, render, hkind, htrim, phrases, general]
  | attackRoll =>
    have hkind : Kind.ofName "atkr" = .attackRoll := by decide
    simp only [name, render, hkind, htrim, phrases, general]

theorem isTagName : IsTagName tag.name := by
  cases tag <;> exact isTagName_of_all (by decide) (by decide)

/-- Every key lists codes in order and is listed once. -/
theorem key_spec : ∀ entry ∈ tag.phrases, entry.1 ≠ "" ∧
    (Text.splitOn ',' entry.1).Pairwise Precedes ∧
    tag.phrases.lookup entry.1 = some entry.2 := by
  cases tag <;> decide +kernel

theorem lookup_eq_some {text : String} {entry : String × String} (hentry : entry ∈ tag.phrases)
    (h : codesIn text = keyCodes entry.1) :
    tag.phrases.lookup (",".intercalate (attackCodes text)) = some entry.2 := by
  obtain ⟨hne, hkey, hlookup⟩ := tag.key_spec entry hentry
  rw [(intercalate_attackCodes_eq_iff hne hkey text).2 h, hlookup]

theorem lookup_eq_none {text : String}
    (h : ∀ entry ∈ tag.phrases, codesIn text ≠ keyCodes entry.1) :
    tag.phrases.lookup (",".intercalate (attackCodes text)) = none := by
  rw [List.lookup_eq_none_iff]
  intro entry hentry
  obtain ⟨hne, hkey, -⟩ := tag.key_spec entry hentry
  rw [bne_iff_ne]
  intro heq
  exact h entry hentry ((intercalate_attackCodes_eq_iff hne hkey text).1 heq)

theorem attackPhrase_congr {text text' : String} (h : codesIn text = codesIn text') :
    attackPhrase tag.phrases tag.general text = attackPhrase tag.phrases tag.general text' := by
  rw [attackPhrase, attackPhrase]
  by_cases hlisted : ∃ entry ∈ tag.phrases, codesIn text = keyCodes entry.1
  · obtain ⟨entry, hentry, hcodes⟩ := hlisted
    rw [tag.lookup_eq_some hentry hcodes, tag.lookup_eq_some hentry (h ▸ hcodes)]
  · simp only [not_exists, not_and] at hlisted
    rw [tag.lookup_eq_none hlisted, tag.lookup_eq_none (h ▸ hlisted)]

end AttackTag

/-- **The phrase of an attack tells the set of codes and nothing else.**  A key that lists the codes
of the first argument gives its phrase, in any order, repetition, spacing and case of the codes;
codes that no key lists give the general phrase; and tags in writing expand to the same text if
their first arguments, expanded, have the same codes. -/
theorem attack_phrase_by_codes (tag : AttackTag) (mode : Mode) :
    (∀ args, ∀ entry ∈ tag.phrases, codesIn (args.headD "") = keyCodes entry.1 →
      render mode tag.name args = emphasize mode .italic (entry.2 ++ ":")) ∧
    (∀ args, (∀ entry ∈ tag.phrases, codesIn (args.headD "") ≠ keyCodes entry.1) →
      render mode tag.name args = emphasize mode .italic (tag.general ++ ":")) ∧
    (∀ args args', codesIn (args.headD "") = codesIn (args'.headD "") →
      render mode tag.name args = render mode tag.name args') ∧
    ∀ text text' others others',
      (∀ arg ∈ text :: others, IsArgument arg.toList) →
      (∀ arg ∈ text' :: others', IsArgument arg.toList) →
      codesIn (argumentText mode text) = codesIn (argumentText mode text') →
      expand mode (tagText tag.name ("|".intercalate (text :: others))) =
        expand mode (tagText tag.name ("|".intercalate (text' :: others'))) := by
  have hsame : ∀ args args', codesIn (args.headD "") = codesIn (args'.headD "") →
      render mode tag.name args = render mode tag.name args' := by
    intro args args' h
    rw [tag.render_eq, tag.render_eq, tag.attackPhrase_congr h]
  refine ⟨?_, ?_, hsame, ?_⟩
  · intro args entry hentry h
    rw [tag.render_eq, attackPhrase, tag.lookup_eq_some hentry h, Option.getD_some]
  · intro args h
    rw [tag.render_eq, attackPhrase, tag.lookup_eq_none h, Option.getD_none]
  · intro text text' others others' hargs hargs' h
    rw [expand_tagText mode tag.isTagName hargs, expand_tagText mode tag.isTagName hargs']
    exact hsame _ _ h

/-- Codes in another order, repeated, spaced and in another case; three codes that keep one twice;
and a further argument. -/
theorem attack_phrase_by_codes_maul :
    let mode := Mode.markdown true
    (codesIn "RW,, mw ,rw" = keyCodes "mw,rw" ∧ codesIn "mw,ms,mw" = codesIn "ms,mw" ∧
      ∀ entry ∈ AttackTag.attack.phrases, codesIn "mw,ms,mw" ≠ keyCodes entry.1) ∧
    render mode "atk" ["RW,, mw ,rw"] = "*Melee or Ranged Weapon Attack:*" ∧
    render mode "atk" ["mw,ms,mw"] = "*Attack:*" ∧
    render mode "atk" ["mw,ms,mw"] = render mode "atk" ["ms,mw"] ∧
    expand mode "\x7b@atk r,\x7b@filter M|x\x7d|\x7d" = expand mode "\x7b@atk  m , R\x7d" := by
  intro mode
  obtain ⟨hlisted, hothers, hsame, hexpand⟩ := attack_phrase_by_codes .attack mode
  have hpair : codesIn "RW,, mw ,rw" = keyCodes "mw,rw" := by decide +kernel
  have hthree : codesIn "mw,ms,mw" = codesIn "ms,mw" := by decide +kernel
  have hnone : ∀ entry ∈ AttackTag.attack.phrases, codesIn "mw,ms,mw" ≠ keyCodes entry.1 := by
    decide +kernel
  refine ⟨⟨hpair, hthree, hnone⟩, ?_, ?_, hsame _ _ hthree, ?_⟩
  · exact hlisted ["RW,, mw ,rw"] ("mw,rw", "Melee or Ranged Weapon Attack") (by decide) hpair
  · exact hothers ["mw,ms,mw"] hnone
  · exact hexpand "r,\x7b@filter M|x\x7d" " m , R" [""] [] (by decide) (by decide)
      (by decide +kernel)

end Compendium.Inline
