import Compendium.Proofs.Decimal
import Compendium.Proofs.Trim
import Compendium.Slug

/-!
# The shape of slugs

A slug is put together from the pieces between hyphens, and the pieces hold
nothing but letters and numbers.  So a slug holds letters, numbers and hyphens
alone (`isSlugChar_of_mem_slug`), and in particular no slash.  White space becomes hyphens, which
at the ends of a name are lost, so a name has the slug of the trimmed name (`slug_trim`).
-/

namespace Compendium.Text

theorem toNat_of_isAlphanum {c : Char} (h : c.isAlphanum = true) :
    (65 ≤ c.toNat ∧ c.toNat ≤ 90) ∨ (97 ≤ c.toNat ∧ c.toNat ≤ 122) ∨
      (48 ≤ c.toNat ∧ c.toNat ≤ 57) := by
  delta Char.isAlphanum Char.isAlpha Char.isUpper Char.isLower Char.isDigit at h
  simp only [Bool.or_eq_true, Bool.and_eq_true, decide_eq_true_eq, UInt32.le_iff_toNat_le] at h
  exact or_assoc.1 h

/-- The letters and digits of ASCII are letters and digits. -/
theorem isAlphanumeric_of_isAlphanum {c : Char} (h : c.isAlphanum = true) :
    isAlphanumeric c = true := by
  have hascii : c.toNat < 0x80 := by
    have hrange := toNat_of_isAlphanum h
    omega
  rwa [isAlphanumeric_of_lt hascii]

theorem isAlphanum_of_mem_digits {n : Nat} {c : Char} (h : c ∈ (toString n).toList) :
    c.isAlphanum = true := by
  rw [Char.isAlphanum, Decimal.isDigit_of_mem_toString h, Bool.or_true]

theorem isAlphanumeric_of_mem_digits {n : Nat} {c : Char} (h : c ∈ (toString n).toList) :
    isAlphanumeric c = true :=
  isAlphanumeric_of_isAlphanum (isAlphanum_of_mem_digits h)

end Compendium.Text

namespace Compendium.Slug

open Compendium.Text (isAlphanumeric isSpace lowerChar)

/-- The characters that a slug may hold. -/
def IsSlugChar (c : Char) : Prop :=
  isAlphanumeric c = true ∨ c = '-'

theorem isSlugChar_of_all {s : String} (h : s.toList.all isAlphanumeric = true) {c : Char}
    (hc : c ∈ s.toList) : IsSlugChar c :=
  Or.inl (List.all_eq_true.1 h c hc)

theorem infix_trimHyphens (s : List Char) : trimHyphens s <:+: s :=
  (Chars.dropEndWhile_prefix _ _).isInfix.trans (List.dropWhile_suffix _).isInfix

/-- What stands in a slug is a hyphen, or a letter or number of the lower-cased name. -/
theorem mem_slugChars {name : List Char} {c : Char} (h : c ∈ slugChars name) :
    c = '-' ∨ c ∈ name.flatMap lowerChar ∧ isAlphanumeric c = true := by
  have hjoin := List.mem_of_mem_take ((infix_trimHyphens _).subset h)
  rcases Chars.mem_intercalate hjoin with hsep | ⟨word, hword, hc⟩
  · exact Or.inl (List.mem_singleton.1 hsep)
  · have hm : c ∈ (name.flatMap lowerChar).filterMap slugChar? :=
      Chars.mem_of_mem_splitOn (List.mem_filter.1 hword).1 hc
    obtain ⟨d, hd, hslug⟩ := List.mem_filterMap.1 hm
    unfold slugChar? at hslug
    split_ifs at hslug with halnum hhyphen
    · obtain rfl := Option.some.inj hslug
      exact Or.inr ⟨hd, halnum⟩
    · exact Or.inl (Option.some.inj hslug).symm

theorem isSlugChar_of_mem_slugChars {name : List Char} {c : Char} (h : c ∈ slugChars name) :
    IsSlugChar c :=
  (mem_slugChars h).elim Or.inr fun hc => Or.inl hc.2

/-- **A slug holds letters, numbers and hyphens alone.** -/
theorem isSlugChar_of_mem_slug {name : String} {c : Char} (h : c ∈ (slug name).toList) :
    IsSlugChar c := by
  rw [slug, String.toList_ofList] at h
  exact isSlugChar_of_mem_slugChars h

theorem slash_notMem {s : List Char} (h : ∀ c ∈ s, IsSlugChar c) : '/' ∉ s := by
  intro hm
  rcases h '/' hm with hc | hc
  · exact absurd hc (by decide)
  · exact absurd hc (by decide)

/-! ### White space around a name -/

/-- The code points of white space. -/
def spacePoints : List Nat :=
  List.range' 0x09 5 ++ [0x20, 0x85, 0xA0, 0x1680] ++ List.range' 0x2000 11 ++
    [0x2028, 0x2029, 0x202F, 0x205F, 0x3000]

theorem toNat_mem_spacePoints {c : Char} (h : isSpace c = true) : c.toNat ∈ spacePoints := by
  simp only [isSpace, Bool.or_eq_true, Bool.and_eq_true, decide_eq_true_eq, beq_iff_eq] at h
  simp only [spacePoints, List.mem_append, List.mem_range'_1, List.mem_cons, List.not_mem_nil,
    or_false]
  omega

/-- White space becomes a hyphen. -/
theorem filterMap_slugChar?_of_isSpace {c : Char} (h : isSpace c = true) :
    (lowerChar c).filterMap slugChar? = ['-'] := by
  have hpoints : ∀ n ∈ spacePoints, (lowerChar (Char.ofNat n)).filterMap slugChar? = ['-'] := by
    decide +kernel
  have hc := hpoints c.toNat (toNat_mem_spacePoints h)
  rwa [Char.ofNat_toNat] at hc

theorem filterMap_slugChar?_of_isBlank {s : List Char} (h : Chars.isBlank s = true) :
    (s.flatMap lowerChar).filterMap slugChar? = List.replicate s.length '-' := by
  induction s with
  | nil => rfl
  | cons c rest ih =>
    obtain ⟨hc, hrest⟩ := Bool.and_eq_true_iff.1 h
    rw [List.flatMap_cons, List.filterMap_append, filterMap_slugChar?_of_isSpace hc, ih hrest]
    rfl

theorem slugWords_trim (name : List Char) : slugWords (Chars.trim name) = slugWords name := by
  obtain ⟨front, back, hfront, hback, hname⟩ := Chars.exists_padded name
  rw [← congrArg slugWords hname, slugWords, slugWords, List.flatMap_append, List.flatMap_append,
    List.filterMap_append, List.filterMap_append, filterMap_slugChar?_of_isBlank hfront,
    filterMap_slugChar?_of_isBlank hback, Chars.filter_splitOn_padded]

/-- **White space around a name does not change its slug.** -/
theorem slug_trim (name : String) : slug (Text.trim name) = slug name := by
  rw [slug, slug, Text.trim, String.toList_ofList, slugChars, slugChars, slugWords_trim]

theorem trim_ne_empty {name : String} (h : slug name ≠ "") : Text.trim name ≠ "" := by
  intro hempty
  rw [← slug_trim, hempty] at h
  exact h rfl

end Compendium.Slug
