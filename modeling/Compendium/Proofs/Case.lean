import Compendium.Proofs.Trim
import Compendium.Text.Case

/-!
# Lower case

No run of the lower-case table maps a code point to one that a run or a sequence of the table
moves, or to white space (`CaseRun.fits_of_mem`).  So every character of a lower-case image is its
own lower case (`mem_lowerChar`), a text in lower case stays as it is (`Chars.lower_lower`), and
no white space comes up at its ends (`Chars.Tight.lower`).
-/

namespace Compendium.Text

/-- A character that is its own lower case. -/
def IsLower (c : Char) : Prop :=
  lowerChar c = [c]

instance : DecidablePred IsLower := fun c => inferInstanceAs (Decidable (lowerChar c = [c]))

/-! ### Runs of the table -/

/-- Ranges of code points that are characters but not white space. -/
def letterRanges : List (Nat × Nat) :=
  [(0x21, 0x84), (0xA1, 0x167F), (0x1681, 0x1FFF), (0x2060, 0x2FFF), (0x3001, 0xD7FF),
    (0xE000, 0x10FFFF)]

namespace CaseRun

/-- The least code point to which a run maps. -/
def least (r : CaseRun) : Nat :=
  (r.first + r.shift).toNat

/-- The greatest code point to which a run maps. -/
def greatest (r : CaseRun) : Nat :=
  (r.last + r.shift).toNat

/-- Whether the images of a run stay clear of another one: they lie in front of it or behind
it, or between the code points of a run that has every second one. -/
def misses (r other : CaseRun) : Bool :=
  r.greatest.blt other.first || other.last.blt r.least ||
    (other.step == 2 && (r.step == 2 || r.first == r.last) && (r.least + other.first) % 2 == 1)

/-- Whether the images of a run are characters that are no white space and that the tables of
lower case do not move. -/
def fits (r : CaseRun) : Bool :=
  decide (0 ≤ r.first + r.shift) &&
    letterRanges.any (fun range => range.1 ≤ r.least && r.greatest ≤ range.2) &&
    lowerRuns.all (fun other => r.misses other) &&
    lowerSequences.all fun s => r.misses ⟨s.1, s.1, 1, 0⟩

theorem fits_of_mem {r : CaseRun} (h : r ∈ lowerRuns) : r.fits = true := by
  have hall : lowerRuns.all fits = true := by decide +kernel
  exact List.all_eq_true.1 hall r h

section Images

variable {r other : CaseRun} {n m : Nat}

theorem image_bounds (h : r.apply? n = some m) : r.least ≤ m ∧ m ≤ r.greatest := by
  unfold CaseRun.apply? at h
  split at h
  · cases h
    unfold least greatest
    omega
  · cases h

theorem eq_none_of_misses (h0 : 0 ≤ r.first + r.shift) (hm : r.misses other = true)
    (h : r.apply? n = some m) : other.apply? m = none := by
  obtain ⟨hleast, hgreatest⟩ := image_bounds h
  unfold CaseRun.apply? at h ⊢
  split at h
  · next hn =>
    obtain ⟨hfirst, hlast, hstep⟩ := hn
    cases h
    rw [if_neg]
    rintro ⟨hofirst, holast, hostep⟩
    simp only [misses, Bool.or_eq_true, Bool.and_eq_true, Nat.blt_eq, beq_iff_eq] at hm
    rcases hm with (hm | hm) | ⟨⟨hother, hr⟩, hodd⟩
    · omega
    · omega
    · -- The images and the other run have code points of different parity.
      rw [hother] at hostep
      unfold least at hodd
      rcases hr with hr | hr
      · rw [hr] at hstep
        omega
      · omega
  · cases h

end Images

end CaseRun

/-! ### Characters -/

theorem toNat_ofNat_of_mem_letterRanges {m : Nat} {range : Nat × Nat} (h : range ∈ letterRanges)
    (hm : range.1 ≤ m ∧ m ≤ range.2) :
    (Char.ofNat m).toNat = m ∧ isSpace (Char.ofNat m) = false := by
  have hvalid : m.isValidChar := by
    simp only [letterRanges, List.mem_cons, List.not_mem_nil, or_false] at h
    unfold Nat.isValidChar
    rcases h with rfl | rfl | rfl | rfl | rfl | rfl <;> simp only at hm <;> omega
  have hval : (Char.ofNat m).toNat = m := by
    rw [Char.ofNat, dif_pos hvalid]
    rfl
  refine ⟨hval, ?_⟩
  simp only [letterRanges, List.mem_cons, List.not_mem_nil, or_false] at h
  simp only [isSpace, hval, Bool.or_eq_false_iff, Bool.and_eq_false_iff, decide_eq_false_iff_not,
    beq_eq_false_iff_ne]
  rcases h with rfl | rfl | rfl | rfl | rfl | rfl <;> simp only at hm <;> omega

theorem isLower_of_forall {c : Char} (hruns : ∀ r ∈ lowerRuns, r.apply? c.toNat = none)
    (hsequences : ∀ s ∈ lowerSequences, s.1 ≠ c.toNat) : IsLower c := by
  unfold IsLower lowerChar
  split
  · -- The first run of the table is that of the capitals of ASCII.
    have hcapital := hruns ⟨0x41, 0x5A, 1, 32⟩ List.mem_cons_self
    have hn : ¬ (65 ≤ c.toNat ∧ c.toNat ≤ 90) := by
      intro hn
      unfold CaseRun.apply? at hcapital
      rw [if_pos ⟨hn.1, hn.2, Nat.mod_one _⟩] at hcapital
      cases hcapital
    have hself : c.toLower = c := dif_neg fun h => hn ⟨h.1, h.2⟩
    rw [hself]
  · have hfind : lowerSequences.find? (fun s => s.1 = c.toNat) = none := by
      simpa using hsequences
    have hnone : lowerRuns.findSome? (fun r => r.apply? c.toNat) = none := by
      simpa using hruns
    rw [mapCase, hfind]
    simp only [hnone, Option.getD_none, List.map_singleton, Char.ofNat_toNat]

/-- What a run maps to is in lower case, and it is no white space. -/
theorem isLower_image {r : CaseRun} (hr : r ∈ lowerRuns) {n m : Nat} (h : r.apply? n = some m) :
    IsLower (Char.ofNat m) ∧ isSpace (Char.ofNat m) = false := by
  have hfits := CaseRun.fits_of_mem hr
  simp only [CaseRun.fits, Bool.and_eq_true, decide_eq_true_eq, List.any_eq_true,
    List.all_eq_true] at hfits
  obtain ⟨⟨⟨h0, range, hrange, hleast, hgreatest⟩, hothers⟩, hsequences⟩ := hfits
  obtain ⟨hl, hg⟩ := CaseRun.image_bounds h
  obtain ⟨hval, hspace⟩ := toNat_ofNat_of_mem_letterRanges hrange
    ⟨hleast.trans hl, hg.trans hgreatest⟩
  refine ⟨isLower_of_forall ?_ ?_, hspace⟩
  · intro other hother
    rw [hval]
    exact CaseRun.eq_none_of_misses h0 (hothers other hother) h
  · intro s hs hm
    have hnone := CaseRun.eq_none_of_misses h0 (hsequences s hs) h
    unfold CaseRun.apply? at hnone
    rw [if_pos ⟨(hm.trans hval).le, (hm.trans hval).ge, Nat.mod_one _⟩] at hnone
    cases hnone

theorem isLower_ascii : ∀ n : Fin 128, IsLower (Char.ofNat n).toLower ∧
    ((Char.ofNat n).toLower = Char.ofNat n ∨ isSpace (Char.ofNat n).toLower = false) := by
  decide +kernel

/-- **What stands in a lower-case image is in lower case**, and it is no white space unless the
image is the character itself. -/
theorem mem_lowerChar {c d : Char} (h : d ∈ lowerChar c) :
    IsLower d ∧ (d = c ∨ isSpace d = false) := by
  unfold lowerChar at h
  split at h
  · next hc =>
    obtain rfl := List.mem_singleton.1 h
    have hascii := isLower_ascii ⟨c.toNat, hc⟩
    rwa [Char.ofNat_toNat] at hascii
  · obtain ⟨m, hm, rfl⟩ := List.mem_map.1 h
    unfold mapCase at hm
    split at hm
    · next s hs =>
      have hmem := List.mem_of_find?_eq_some hs
      have hsequences : ∀ s ∈ lowerSequences, ∀ m ∈ s.2,
          IsLower (Char.ofNat m) ∧ isSpace (Char.ofNat m) = false := by
        decide +kernel
      exact (hsequences s hmem m hm).imp_right Or.inr
    · next hs =>
      obtain rfl := List.mem_singleton.1 hm
      cases hr : lowerRuns.findSome? fun r => r.apply? c.toNat with
      | none =>
        rw [Option.getD_none, Char.ofNat_toNat]
        refine ⟨isLower_of_forall ?_ ?_, Or.inl rfl⟩
        · simpa using hr
        · simpa using hs
      | some m =>
        obtain ⟨r, hmem, happly⟩ := List.exists_of_findSome?_eq_some hr
        exact (isLower_image hmem happly).imp_right Or.inr

theorem lowerChar_ne_nil (c : Char) : lowerChar c ≠ [] := by
  unfold lowerChar
  split
  · exact List.cons_ne_nil _ _
  · rw [ne_eq, List.map_eq_nil_iff]
    unfold mapCase
    split
    · next s hs =>
      have hsequences : ∀ s ∈ lowerSequences, s.2 ≠ [] := by decide
      exact hsequences s (List.mem_of_find?_eq_some hs)
    · exact List.cons_ne_nil _ _

theorem flatMap_lowerChar {s : List Char} (h : ∀ c ∈ s, IsLower c) : s.flatMap lowerChar = s := by
  rw [List.flatMap_congr h, List.flatMap_singleton']

end Compendium.Text

/-! ### Texts -/

namespace Compendium.Chars

open Compendium.Text

variable {s : List Char}

/-- A character of a text turns into some that are in lower case, and those are no white space
unless it is. -/
theorem lowerAfter_cons (before : List Char) (c : Char) (rest : List Char) :
    ∃ image ≠ [], lowerAfter before (c :: rest) = image ++ lowerAfter (c :: before) rest ∧
      ∀ d ∈ image, IsLower d ∧ (d = c ∨ isSpace d = false) := by
  refine ⟨_, ?_, rfl, ?_⟩
  · split_ifs
    · exact List.cons_ne_nil _ _
    · exact List.cons_ne_nil _ _
    · exact lowerChar_ne_nil c
  · intro d hd
    split_ifs at hd
    · obtain rfl := List.mem_singleton.1 hd
      exact ⟨by decide +kernel, Or.inr (by decide)⟩
    · obtain rfl := List.mem_singleton.1 hd
      exact ⟨by decide +kernel, Or.inr (by decide)⟩
    · exact mem_lowerChar hd

theorem lower_eq_nil_iff : lower s = [] ↔ s = [] := by
  cases s with
  | nil => exact Iff.rfl
  | cons c rest =>
    obtain ⟨image, hne, heq, -⟩ := lowerAfter_cons [] c rest
    rw [lower, heq, List.append_eq_nil_iff]
    exact ⟨fun h => absurd h.1 hne, fun h => absurd h (List.cons_ne_nil c rest)⟩

theorem isLower_of_mem_lowerAfter (before : List Char) {d : Char} (h : d ∈ lowerAfter before s) :
    IsLower d := by
  induction s generalizing before with
  | nil => cases h
  | cons c rest ih =>
    obtain ⟨image, -, heq, himage⟩ := lowerAfter_cons before c rest
    rw [heq, List.mem_append] at h
    rcases h with h | h
    · exact (himage d h).1
    · exact ih (c :: before) h

theorem lowerAfter_eq_self (before : List Char) (h : ∀ c ∈ s, IsLower c) :
    lowerAfter before s = s := by
  induction s generalizing before with
  | nil => rfl
  | cons c rest ih =>
    have hc : IsLower c := h c List.mem_cons_self
    -- A capital sigma is not in lower case, so the place of the character does not count.
    have hsigma : c ≠ 'Σ' := by
      rintro rfl
      exact absurd hc (by decide +kernel)
    rw [lowerAfter, if_neg hsigma, hc, ih (c :: before) fun d hd => h d (List.mem_cons_of_mem c hd)]
    rfl

/-- **Lower case once is lower case for good.** -/
theorem lower_lower (s : List Char) : lower (lower s) = lower s :=
  lowerAfter_eq_self [] fun _ => isLower_of_mem_lowerAfter []

theorem getLast?_lowerAfter (before : List Char) (h : ∀ c ∈ s.getLast?, isSpace c = false) :
    ∀ d ∈ (lowerAfter before s).getLast?, isSpace d = false := by
  induction s generalizing before with
  | nil =>
    intro d hd
    cases hd
  | cons c rest ih =>
    intro d hd
    obtain ⟨image, -, heq, himage⟩ := lowerAfter_cons before c rest
    rw [heq, Option.mem_def, List.getLast?_append, Option.or_eq_some_iff] at hd
    have hrest : ∀ e ∈ rest.getLast?, isSpace e = false := fun e he =>
      h e (by rw [List.getLast?_cons, Option.mem_def.1 he]; rfl)
    rcases hd with hd | ⟨hnone, hd⟩
    · exact ih (c :: before) hrest d hd
    · -- Nothing comes behind the image, so the character is the last one.
      have hnil : rest = [] := by
        cases rest with
        | nil => rfl
        | cons next rest =>
          obtain ⟨_, hne, heq', -⟩ := lowerAfter_cons (c :: before) next rest
          rw [heq', List.getLast?_eq_none_iff] at hnone
          exact absurd (List.append_eq_nil_iff.1 hnone).1 hne
      rcases (himage d (List.mem_of_getLast? hd)).2 with rfl | hspace
      · exact h d (by rw [hnil]; rfl)
      · exact hspace

/-- **No white space comes up at the ends.** -/
theorem Tight.lower (h : Tight s) : Tight (lower s) where
  front := by
    cases s with
    | nil => exact tight_nil.front
    | cons c rest =>
      obtain ⟨image, hne, heq, himage⟩ := lowerAfter_cons [] c rest
      obtain ⟨first, image, rfl⟩ := List.exists_cons_of_ne_nil hne
      intro d hd
      rw [Chars.lower, heq] at hd
      obtain rfl : first = d := Option.some.inj hd
      rcases (himage first List.mem_cons_self).2 with rfl | hspace
      · exact h.front first rfl
      · exact hspace
  back := getLast?_lowerAfter [] h.back

end Compendium.Chars
