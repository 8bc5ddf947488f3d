import Mathlib.Data.List.Nodup
import Mathlib.Data.List.Perm.Subperm
import Mathlib.Data.List.Range
import Mathlib.Order.Bounds.Defs
import Compendium.Conversion.PathRegistry
import Compendium.Proofs.Document.Paths

/-!
# Free paths

A claim takes the preferred path if it is free, and otherwise looks for one behind
its stem.  The search is bounded: `size` paths are taken, the candidates with a
counter differ from each other and none of them is reserved, so one of the first
`size + 1` is free (`firstNumbered_spec`, which also says that it is the least).

* `contains_alternative`: the path found for a document whose own is taken is free.
* `isReserved_resolve`: no policy ever gives a reserved path away.
* `contains_resolve`: where documents get paths of their own, the path was free.
* `alternative_eq`: that path is made of the taken one's stem and a tail (`IsTail`).
* `slugPath_resolve`: a claim never leaves the directory of the preferred path.
* `displaced_claim`: which path a document gets whose own is taken, and what is taken then.
-/

namespace Compendium.PathRegistry

/-! ### What is taken -/

theorem mem_insert {r : PathRegistry} {path other : String} :
    other ∈ (r.insert path).claimed ↔ other = path ∨ other ∈ r.claimed := by
  unfold insert
  split
  · next h =>
    have hm : path ∈ r.claimed := List.contains_iff_mem.1 h
    exact ⟨Or.inr, fun ho => ho.elim (fun he => he ▸ hm) id⟩
  · exact List.mem_cons

theorem claimed_insert {r : PathRegistry} {path : String} (h : path ∉ r.claimed) :
    (r.insert path).claimed = path :: r.claimed := by
  rw [insert, if_neg (by rwa [List.contains_iff_mem])]

theorem contains_eq_false_iff {r : PathRegistry} {path : String} :
    r.contains path = false ↔ isReserved path = false ∧ path ∉ r.claimed := by
  rw [contains, Bool.or_eq_false_iff, ← Bool.not_eq_true (r.claimed.contains path),
    List.contains_iff_mem]

/-! ### Counters -/

theorem numbered_injective (stem : String) : Function.Injective (numbered stem) := by
  intro m n h
  simp only [numbered, ← String.toList_inj, String.toList_append, List.append_assoc,
    List.append_cancel_left_eq, List.append_cancel_right_eq] at h
  exact Decimal.toString_injective (String.toList_injective h)

/-- A reserved path ends in the name of a listing page. -/
theorem suffix_of_isReserved {path : String} (h : isReserved path = true) :
    ['i', 'n', 'd', 'e', 'x', '.', 'm', 'd'] <:+ path.toList := by
  have he : Text.afterLast '/' path = reservedStem ++ extension := of_decide_eq_true h
  have hs := Text.afterLast_suffix '/' path
  rw [he] at hs
  exact hs

/-- The stem of a reserved path ends in an `x`. -/
theorem getLast?_of_isReserved {stem : List Char}
    (h : isReserved (String.ofList stem ++ extension) = true) : stem.getLast? = some 'x' := by
  have hs := suffix_of_isReserved h
  rw [String.toList_append, String.toList_ofList] at hs
  have hx : ['i', 'n', 'd', 'e', 'x'] <:+ stem := List.suffix_append_self_iff.1 hs
  exact List.singleton_suffix_iff_getLast?_eq_some.1
    ((List.suffix_append ['i', 'n', 'd', 'e'] ['x']).trans hx)

/-- A counter ends in a digit, and the stem of a listing page does not. -/
theorem isReserved_numbered (stem : String) (n : Nat) : isReserved (numbered stem n) = false := by
  by_contra h
  rw [Bool.not_eq_false] at h
  have he : numbered stem n =
      String.ofList (stem.toList ++ ['-'] ++ (toString n).toList) ++ extension := by
    rw [numbered, ← String.toList_inj]
    simp
  rw [he] at h
  have hl := getLast?_of_isReserved h
  rw [List.getLast?_append_of_ne_nil _ (Decimal.toString_ne_nil n)] at hl
  have hd := Decimal.isDigit_of_mem_toString (List.mem_of_getLast? hl)
  exact absurd hd (by decide)

/-- **A counter is always found.**  The path that the search ends with is free, and
all paths with a smaller counter are not. -/
theorem firstNumbered_spec (r : PathRegistry) (stem : String) :
    ∃ n, 2 ≤ n ∧ n ≤ r.size + 2 ∧ r.firstNumbered stem = numbered stem n ∧
      r.contains (numbered stem n) = false ∧
      ∀ m, 2 ≤ m → m < n → r.contains (numbered stem m) = true := by
  unfold firstNumbered
  rw [List.find?_map]
  cases hf : (List.range' 2 (r.size + 1)).find? _ with
  | some n =>
    obtain ⟨hfree, hn, hleast⟩ := List.find?_range'_eq_some.1 hf
    rw [List.mem_range'_1] at hn
    refine ⟨n, hn.1, by omega, rfl, by simpa using hfree, fun m hm hmn => ?_⟩
    simpa using hleast m hm hmn
  | none =>
    -- All candidates would be taken, and there are more of them than taken paths.
    rw [List.find?_eq_none] at hf
    have hsub : (List.range' 2 (r.size + 1)).map (numbered stem) ⊆ r.claimed := by
      intro path hp
      obtain ⟨n, hn, rfl⟩ := List.mem_map.1 hp
      by_contra hc
      exact hf n hn (by simpa using contains_eq_false_iff.2 ⟨isReserved_numbered stem n, hc⟩)
    have hnd : ((List.range' 2 (r.size + 1)).map (numbered stem)).Nodup :=
      (List.nodup_range' 1).map (numbered_injective stem)
    have hle := (hnd.subperm hsub).length_le
    rw [List.length_map, List.length_range'] at hle
    exact absurd hle (by unfold size; omega)

theorem contains_firstNumbered (r : PathRegistry) (stem : String) :
    r.contains (r.firstNumbered stem) = false := by
  obtain ⟨n, -, -, he, hfree, -⟩ := r.firstNumbered_spec stem
  rw [he]
  exact hfree

/-! ### The path of a claim -/

/-- **A document whose path is taken gets a free one.** -/
theorem contains_alternative (r : PathRegistry) (preferred : String) (source? : Option String) :
    r.contains (r.alternative preferred source?) = false := by
  unfold alternative
  cases hs : (source?.map Slug.slug).filter fun source => !source.isEmpty with
  | none => exact r.contains_firstNumbered _
  | some source =>
    dsimp only
    split
    · exact r.contains_firstNumbered _
    · next h => exact Bool.eq_false_iff.2 h

/-- Where documents get paths of their own, a claim comes to a free path. -/
theorem contains_resolve (r : PathRegistry) (preferred : String) (source? : Option String) :
    r.contains (r.resolve .suffixSource preferred source?) = false := by
  unfold resolve
  split
  · next h => simpa using h
  · exact r.contains_alternative preferred source?

theorem claim_path (r : PathRegistry) (policy : CollisionPolicy) (preferred : String)
    (source? : Option String) :
    (r.claim policy preferred source?).path = r.resolve policy preferred source? := rfl

theorem claim_registry (r : PathRegistry) (policy : CollisionPolicy) (preferred : String)
    (source? : Option String) :
    (r.claim policy preferred source?).registry =
      r.insert (r.claim policy preferred source?).path := rfl

theorem claim_collided (r : PathRegistry) (policy : CollisionPolicy) (preferred : String)
    (source? : Option String) :
    (r.claim policy preferred source?).collided = r.contains preferred := rfl

/-- A free path is what a claim comes to under either policy. -/
theorem resolve_of_contains_eq_false {r : PathRegistry} {preferred : String}
    (h : r.contains preferred = false) (policy : CollisionPolicy) (source? : Option String) :
    r.resolve policy preferred source? = preferred := by
  rw [resolve, h, Bool.not_false, if_pos rfl]

/-- Where documents take paths over, only reserved ones are refused. -/
theorem resolve_overwrite {preferred : String} (h : isReserved preferred = false)
    (r : PathRegistry) (source? : Option String) :
    r.resolve .overwrite preferred source? = preferred := by
  simp [resolve, h]

/-- A document keeps its path exactly if that was free. -/
theorem resolve_eq_self_iff (r : PathRegistry) (preferred : String) (source? : Option String) :
    r.resolve .suffixSource preferred source? = preferred ↔ r.contains preferred = false := by
  constructor
  · intro h
    have hfree := r.contains_resolve preferred source?
    rwa [h] at hfree
  · intro h
    exact resolve_of_contains_eq_false h _ source?

/-- **Reserved paths are never given away**, whatever happens to paths that are taken. -/
theorem isReserved_resolve (r : PathRegistry) (policy : CollisionPolicy) (preferred : String)
    (source? : Option String) : isReserved (r.resolve policy preferred source?) = false := by
  unfold resolve
  split
  · next h => exact (contains_eq_false_iff.1 (by simpa using h)).1
  · split
    · next h =>
      rw [Bool.and_eq_true] at h
      simpa using h.2
    · exact (contains_eq_false_iff.1 (r.contains_alternative preferred source?)).1

/-! ### The directory of a claim -/

theorem stemOf_append (stem : String) : stemOf (stem ++ extension) = stem := by
  rw [stemOf, if_pos (Text.finishesWith_append stem extension), ← String.toList_inj,
    String.toList_ofList, String.toList_append, List.length_append, Nat.add_sub_cancel,
    List.take_left']
  rfl

/-- What stands behind the stem of a document whose own path is taken: the slug of its source
if that has one, and a counter if there is no such slug or its path is taken too. -/
inductive IsTail : Option String → String → Prop
  | source {source : String} (h : Slug.slug source ≠ "") :
    IsTail (some source) (Slug.slug source)
  | sourceNumbered {source : String} (h : Slug.slug source ≠ "") {n : Nat} (hn : 2 ≤ n) :
    IsTail (some source) (Slug.slug source ++ "-" ++ toString n)
  | numbered {source? : Option String} (h : ∀ source ∈ source?, Slug.slug source = "") {n : Nat}
    (hn : 2 ≤ n) : IsTail source? (toString n)

theorem IsTail.isSlugChar {source? : Option String} {tail : String} (h : IsTail source? tail)
    {c : Char} (hc : c ∈ tail.toList) : Slug.IsSlugChar c := by
  cases h with
  | source _ => exact Slug.isSlugChar_of_mem_slug hc
  | sourceNumbered _ _ =>
    simp only [String.toList_append, List.mem_append] at hc
    rcases hc with (hc | hc) | hc
    · exact Slug.isSlugChar_of_mem_slug hc
    · exact Or.inr (List.mem_singleton.1 hc)
    · exact Or.inl (Text.isAlphanumeric_of_mem_digits hc)
  | numbered _ _ => exact Or.inl (Text.isAlphanumeric_of_mem_digits hc)

/-- **What a document gets in place of its own path** has the same stem in front, and a tail
behind a hyphen. -/
theorem alternative_eq (r : PathRegistry) (preferred : String) (source? : Option String) :
    ∃ tail, IsTail source? tail ∧
      r.alternative preferred source? = stemOf preferred ++ "-" ++ tail ++ extension := by
  unfold alternative
  cases hs : (source?.map Slug.slug).filter fun source => !source.isEmpty with
  | none =>
    obtain ⟨n, hn, -, he, -⟩ := r.firstNumbered_spec (stemOf preferred)
    refine ⟨toString n, .numbered (fun source hm => ?_) hn, he⟩
    rw [hm] at hs
    simpa using hs
  | some source =>
    obtain ⟨hm, hne⟩ := Option.filter_eq_some_iff.1 hs
    obtain ⟨name, rfl, rfl⟩ := Option.map_eq_some_iff.1 hm
    have hname : Slug.slug name ≠ "" := by simpa using hne
    dsimp only
    split
    · obtain ⟨n, hn, -, he, -⟩ := r.firstNumbered_spec (stemOf preferred ++ "-" ++ Slug.slug name)
      refine ⟨_, .sourceNumbered hname hn, ?_⟩
      rw [he, numbered]
      simp only [String.append_assoc]
    · exact ⟨_, .source hname, rfl⟩

/-- A claim comes to the preferred path, or to another one if that is taken or reserved. -/
theorem resolve_cases (r : PathRegistry) (policy : CollisionPolicy) (preferred : String)
    (source? : Option String) :
    r.resolve policy preferred source? = preferred ∨
      r.contains preferred = true ∧
        r.resolve policy preferred source? = r.alternative preferred source? := by
  unfold resolve
  split
  · exact Or.inl rfl
  · next h =>
    split
    · exact Or.inl rfl
    · exact Or.inr ⟨by simpa using h, rfl⟩

/-- **A document stays in the directory of its category**, under a stem that slugs may have. -/
theorem slugPath_resolve {category : Category} {preferred : String}
    (h : Document.SlugPath category preferred) (r : PathRegistry) (policy : CollisionPolicy)
    (source? : Option String) :
    Document.SlugPath category (r.resolve policy preferred source?) := by
  rcases r.resolve_cases policy preferred source? with he | ⟨-, he⟩
  · rw [he]
    exact h
  · obtain ⟨stem, hne, hstem, rfl⟩ := h
    obtain ⟨tail, ht, hp⟩ := r.alternative_eq (category.dir ++ "/" ++ (stem ++ ".md")) source?
    refine ⟨stem ++ "-" ++ tail, ?_, fun c hc => ?_, ?_⟩
    · intro hz
      rw [← String.toList_inj, String.toList_append, String.toList_append] at hz
      simp at hz
    · simp only [String.toList_append, List.mem_append] at hc
      rcases hc with (hc | hc) | hc
      · exact hstem c hc
      · exact Or.inr (List.mem_singleton.1 hc)
      · exact ht.isSlugChar hc
    · rw [he, hp, ← String.append_assoc, show ".md" = extension from rfl, stemOf_append]
      simp only [String.append_assoc]

/-! ### Displaced documents -/

/-- A path either ends in the extension of documents, behind its stem, or is its own stem. -/
theorem stemOf_cases (path : String) :
    path = stemOf path ++ extension ∨ stemOf path = path ∧ ∀ stem, path ≠ stem ++ extension := by
  by_cases h : Text.finishesWith extension path = true
  · obtain ⟨stem, hstem⟩ : extension.toList <:+ path.toList := List.isSuffixOf_iff_suffix.1 h
    have hpath : path = String.ofList stem ++ extension := by
      rw [← String.toList_inj, String.toList_append, String.toList_ofList, hstem]
    left
    rw [hpath, stemOf_append]
  · right
    refine ⟨if_neg h, ?_⟩
    rintro stem rfl
    exact h (Text.finishesWith_append stem extension)

/-- **The search comes to the least free counter.** -/
theorem isLeast_firstNumbered (r : PathRegistry) (stem : String) :
    ∃ n, IsLeast {n | 2 ≤ n ∧ r.contains (numbered stem n) = false} n ∧ n ≤ r.size + 2 ∧
      r.firstNumbered stem = numbered stem n := by
  obtain ⟨n, hn, hbound, he, hfree, hleast⟩ := r.firstNumbered_spec stem
  refine ⟨n, ⟨⟨hn, hfree⟩, ?_⟩, hbound, he⟩
  rintro m ⟨hm, hmfree⟩
  by_contra hlt
  rw [hleast m hm (not_le.1 hlt)] at hmfree
  cases hmfree

/-- The slug of a source, empty if there is no source. -/
def sourceSlug (source? : Option String) : String :=
  (source?.map Slug.slug).getD ""

/-- The stem behind which a displaced document gets its counter. -/
def counterStem (preferred : String) (source? : Option String) : String :=
  if sourceSlug source? = "" then stemOf preferred
  else stemOf preferred ++ "-" ++ sourceSlug source?

theorem alternative_eq_ite (r : PathRegistry) (preferred : String) (source? : Option String) :
    r.alternative preferred source? =
      if sourceSlug source? ≠ "" ∧ r.contains (counterStem preferred source? ++ extension) = false
      then counterStem preferred source? ++ extension
      else r.firstNumbered (counterStem preferred source?) := by
  unfold alternative counterStem sourceSlug
  cases source? with
  | none => rfl
  | some source =>
    rw [Option.map_some, Option.getD_some]
    by_cases hslug : Slug.slug source = ""
    · rw [if_pos hslug, if_neg fun h => h.1 hslug, hslug]
      rfl
    · have hfilter : (some (Slug.slug source)).filter (fun source => !source.isEmpty) =
          some (Slug.slug source) := by simpa using hslug
      rw [hfilter, if_neg hslug]
      cases hfree : r.contains (stemOf preferred ++ "-" ++ Slug.slug source ++ extension) with
      | true => simp [hfree]
      | false => simp [hfree, hslug]

/-- **What a claim comes to whose preferred path is taken or reserved**, where documents get paths
of their own and for reserved paths in any case.  The stem is the preferred path without the
extension, if it has one.  Behind it stands the slug of the source if there is one and this path is
free, and otherwise, behind the slug if there is one, the least counter from two up whose path is
free.  There is one among the first `size + 1`, however many paths are taken.  The path is taken
afterwards, with all that were taken before. -/
theorem displaced_claim (r : PathRegistry) {policy : CollisionPolicy} {preferred : String}
    (htaken : r.contains preferred = true)
    (hpolicy : policy = .suffixSource ∨ isReserved preferred = true) (source? : Option String) :
    let claim := r.claim policy preferred source?
    let stem := stemOf preferred
    let slug := sourceSlug source?
    let base := if slug = "" then stem else stem ++ "-" ++ slug
    (preferred = stem ++ ".md" ∨ stem = preferred ∧ ∀ other, preferred ≠ other ++ ".md") ∧
    (∃ n, IsLeast {n | 2 ≤ n ∧ r.contains (base ++ "-" ++ toString n ++ ".md") = false} n ∧
      n ≤ r.size + 2 ∧
      claim.path =
        if slug ≠ "" ∧ r.contains (base ++ ".md") = false then base ++ ".md"
        else base ++ "-" ++ toString n ++ ".md") ∧
    claim.collided = true ∧ r.contains claim.path = false ∧
    claim.registry.claimed = claim.path :: r.claimed := by
  intro claim stem slug base
  have hpath : claim.path = r.alternative preferred source? := by
    have hkept : ¬ (policy = .overwrite && !isReserved preferred) = true := by
      rcases hpolicy with rfl | hreserved
      · simp
      · simp [hreserved]
    refine (claim_path r policy preferred source?).trans ?_
    rw [resolve, if_neg (by simp [htaken]), if_neg hkept]
  have hfree : r.contains claim.path = false := by
    rw [hpath]
    exact r.contains_alternative preferred source?
  have hregistry : claim.registry = r.insert claim.path :=
    claim_registry r policy preferred source?
  obtain ⟨n, hleast, hbound, he⟩ := r.isLeast_firstNumbered base
  refine ⟨stemOf_cases preferred, ⟨n, hleast, hbound, ?_⟩,
    (r.claim_collided policy preferred source?).trans htaken, hfree, ?_⟩
  · rw [hpath, alternative_eq_ite]
    exact congrArg (ite _ _) he
  · rw [hregistry, claimed_insert (contains_eq_false_iff.1 hfree).2]

/-- The third of three orbs of one source, and a rule that is named as the listing page is. -/
theorem displaced_claim_orb :
    let orbs : PathRegistry := ⟨["items/orb-dmg.md", "items/orb.md"]⟩
    (orbs.contains "items/orb.md" = true ∧ isReserved "rules/index.md" = true) ∧
      (orbs.claim .suffixSource "items/orb.md" (some "DMG")).path = "items/orb-dmg-2.md" ∧
      (orbs.claim .overwrite "rules/index.md" none).registry.claimed =
        ["rules/index-2.md", "items/orb-dmg.md", "items/orb.md"] := by
  intro orbs
  have htaken : orbs.contains "items/orb.md" = true := by decide
  have hreserved : isReserved "rules/index.md" = true := by decide
  have hindex : orbs.contains "rules/index.md" = true := by decide
  obtain ⟨-, ⟨n, hn, -, horb⟩, -⟩ :=
    displaced_claim orbs htaken (Or.inl rfl : CollisionPolicy.suffixSource = _ ∨ _) (some "DMG")
  obtain ⟨-, ⟨m, hm, -, hrule⟩, -, -, hclaimed⟩ :=
    displaced_claim orbs hindex (Or.inr hreserved : CollisionPolicy.overwrite = _ ∨ _) none
  have hslug : sourceSlug (some "DMG") = "dmg" := by decide +kernel
  rw [hslug] at hn horb
  -- The counter two is free for both.
  obtain rfl : n = 2 := le_antisymm (hn.2 ⟨le_rfl, by decide +kernel⟩) hn.1.1
  obtain rfl : m = 2 := le_antisymm (hm.2 ⟨le_rfl, by decide +kernel⟩) hm.1.1
  refine ⟨⟨htaken, hreserved⟩, ?_, ?_⟩
  · rw [horb]
    decide +kernel
  · rw [hclaimed, hrule]
    decide +kernel

end Compendium.PathRegistry
