import Compendium.Index.Summary
import Compendium.Proofs.Document.Shape
import Compendium.Proofs.Document.Styles

/-!
# The line of a spell

What a spell is, by level and school, is worded twice: under the title of its document, from the
record, and in the summary of its entry, from the facets.  Facets drop what says nothing, but a
school that is read off a record is never blank and a level is always kept, so both are worded from
the same two values (`Spell.int?_level`, `Spell.text?_school`).  No wording is blank, so neither
line is there without the other.

* `spell_subtitle_summarized`: the two lines of a spell, and where the first one stands.
-/

namespace Compendium

/-! ### Facets that are put in -/

namespace Facets

variable {key : String} {value : Facet}

theorem get?_insert_self (f : Facets) (h : value.isKept = true) :
    (f.insert key value).get? key = some value := by
  rw [insert, if_pos h]
  exact Assoc.lookup_insert_self key value f.toList

theorem get?_insert_of_not_kept (f : Facets) (h : value.isKept = false) :
    (f.insert key value).get? key = f.get? key := by
  rw [insert, h, if_neg Bool.false_ne_true]

theorem get?_insert?_self (f : Facets) {value? : Option Facet}
    (h : ∀ value ∈ value?, value.isKept = true) (hnone : f.get? key = none) :
    (f.insert? key value?).get? key = value? := by
  cases value? with
  | none => exact hnone
  | some value => exact f.get?_insert_self (h value rfl)

/-- A list that is put in is there, unless it is empty. -/
theorem get?_insert_list (f : Facets) (items : List String)
    (hnone : f.get? key = none) :
    (f.insert key (.list items)).get? key = if items = [] then none else some (.list items) := by
  cases items with
  | nil => exact (f.get?_insert_of_not_kept rfl).trans hnone
  | cons item rest => exact f.get?_insert_self rfl

end Facets

/-! ### Wordings that show -/

theorem Text.isBlank_append (s t : String) : isBlank (s ++ t) = (isBlank s && isBlank t) := by
  rw [isBlank, isBlank, isBlank, Chars.isBlank, String.toList_append, List.all_append]
  rfl

namespace Document.Spell

open Compendium.Render (Style)

theorem isBlank_schoolName {code : String} (h : Text.isBlank code = false) :
    Text.isBlank (schoolName code) = false := by
  unfold schoolName
  split <;> first | rfl | exact h

theorem isBlank_of_school? {r : Record} {school : String} (h : school? r = some school) :
    Text.isBlank school = false := by
  obtain ⟨code, hcode, rfl⟩ := Option.map_eq_some_iff.1 h
  have hfilter := Option.filter_eq_some_iff.1 hcode
  exact isBlank_schoolName (by simpa using hfilter.2)

/-- The words for a level and a school show, if the school does. -/
theorem isBlank_spellLevel? {level? : Option Int} {school? : Option String} {line : String}
    (hschool : ∀ school ∈ school?, Text.isBlank school = false)
    (h : Phrase.spellLevel? level? school? = some line) : Text.isBlank line = false := by
  have hcantrip : Text.isBlank " cantrip" = false := rfl
  have hlevel : Text.isBlank "-level " = false := rfl
  have hspell : Text.isBlank "-level spell" = false := rfl
  cases level? with
  | none => exact hschool line h
  | some level =>
    cases school? with
    | none =>
      obtain rfl := Option.some.inj h
      split
      · rfl
      · rw [Text.isBlank_append, hspell, Bool.and_false]
    | some school =>
      obtain rfl := Option.some.inj h
      split
      · rw [Text.isBlank_append, hcantrip, Bool.and_false]
      · rw [Text.isBlank_append, hschool school rfl, Bool.and_false]

/-! ### The facets of a spell -/

variable (s : Style) (r : Record)

theorem get?_level : (facets s r).get? "level" = (r.int? "level").map .int := by
  simp (disch := decide) only [facets, Facets.get?_insert_of_ne, Facets.get?_insert?_of_ne]
  refine Facets.get?_insert?_self _ (fun value hv => ?_) rfl
  obtain ⟨n, -, rfl⟩ := Option.map_eq_some_iff.1 hv
  rfl

theorem get?_school : (facets s r).get? "school" = (school? r).map .text := by
  simp (disch := decide) only [facets, Facets.get?_insert_of_ne, Facets.get?_insert?_of_ne]
  refine Facets.get?_insert?_self _ (fun value hv => ?_) ?_
  · obtain ⟨school, hschool, rfl⟩ := Option.map_eq_some_iff.1 hv
    simp [Facet.isKept, isBlank_of_school? hschool]
  · rw [Facets.get?_insert?_of_ne _ (by decide)]
    rfl

theorem flag_ritual : (facets s r).flag "ritual" = isRitual r := by
  simp (disch := decide) only [Facets.flag, facets, Facets.get?_insert_of_ne,
    Facets.get?_insert?_of_ne]
  cases hr : isRitual r with
  | true => rw [Facets.get?_insert_self _ rfl]
  | false =>
    rw [Facets.get?_insert_of_not_kept _ rfl]
    simp (disch := decide) only [Facets.get?_insert_of_ne, Facets.get?_insert?_of_ne]
    rfl

/-- **The summary of a spell is worded from what its record says.** -/
theorem summary_eq : Summary.ofFacets .spell (facets s r) =
    Text.trim ((Phrase.spellLevel? (r.int? "level") (school? r)).getD "") := by
  have hlevel : (facets s r).int? "level" = r.int? "level" := by
    rw [Facets.int?, get?_level s r]
    cases r.int? "level" <;> rfl
  have hschool : (facets s r).text? "school" = school? r := by
    rw [Facets.text?, get?_school s r]
    cases school? r <;> rfl
  rw [Summary.ofFacets, Summary.draft, hlevel, hschool]

theorem summary_eq_empty_iff :
    Summary.ofFacets .spell (facets s r) = "" ↔ subtitle? s r = none := by
  rw [summary_eq, subtitle?, Option.map_eq_none_iff, ← String.isEmpty_iff, Text.isEmpty_trim]
  cases hline : Phrase.spellLevel? (r.int? "level") (school? r) with
  | none => simp [Text.isBlank, Chars.isBlank]
  | some line => simp [isBlank_spellLevel? (fun _ => isBlank_of_school?) hline]

/-- A subtitle is the line of its spell, marked if the spell is a ritual. -/
theorem trim_of_subtitle? {line : String} (h : subtitle? s r = some line) :
    ∃ text, Text.trim text = Summary.ofFacets .spell (facets s r) ∧
      line = if (facets s r).flag "ritual" then text ++ " (ritual)" else text := by
  obtain ⟨text, htext, rfl⟩ := Option.map_eq_some_iff.1 h
  exact ⟨text, by rw [summary_eq, htext, Option.getD_some], by rw [flag_ritual]⟩

end Document.Spell

open Document (build layoutOf)

/-- **The two lines of a spell agree.**  In every style, the document of a record has a subtitle
exactly if the summary of its facets is not empty, and the subtitle is then a text that is the
summary when it is trimmed, with ` (ritual)` behind it exactly if the ritual facet is set.  Where a
spell is built of the record, its entry has these facets, and the subtitle stands in italics under
the title. -/
theorem spell_subtitle_summarized (s : Render.Style) (r : Record) :
    let subtitle? := (layoutOf .spell).subtitle? s r
    let facets := (layoutOf .spell).facets s r
    (subtitle?.isSome ↔ Summary.ofFacets .spell facets ≠ "") ∧
    (∀ line, subtitle? = some line → ∃ text, Text.trim text = Summary.ofFacets .spell facets ∧
      line = if facets.flag "ritual" then text ++ " (ritual)" else text) ∧
    ∀ filter v document entry, v.record? = some r →
      build s filter .spell v = .built document entry →
      entry.category = .spell ∧ entry.facets = facets ∧
      ∀ line, subtitle? = some line → ∃ rest,
        document.body = "# " ++ document.name ++ "\n\n*" ++ line ++ "*\n" ++ rest := by
  intro subtitle? facets
  refine ⟨?_, fun line => Document.Spell.trim_of_subtitle? s r, ?_⟩
  · rw [Option.isSome_iff_ne_none]
    exact not_congr (Document.Spell.summary_eq_empty_iff s r).symm
  · intro filter v document entry hv hbuilt
    obtain ⟨hname, hcategory, hfacets, hbody⟩ := Document.shown_of_build_eq_built hv hbuilt
    refine ⟨hcategory, hfacets, fun line hline => ?_⟩
    rw [hbody]
    exact Document.bodyText_subtitle hname.endsVisibly hline

/-- A ritual of a school that has no code, with white space around the school. -/
theorem spell_subtitle_summarized_ritual :
    let s := Render.Style.make false 3
    let fields : List (String × Json) := [("name", .str "Omen"), ("school", .str " Wild  magic\t"),
      ("level", .str " +2 "), ("meta", .obj [("ritual", .bool true)])]
    let facets := Document.Spell.facets s ⟨fields⟩
    Document.Spell.subtitle? s ⟨fields⟩ = some "2nd-level  Wild  magic\t (ritual)" ∧
    Summary.ofFacets .spell facets = "2nd-level  Wild  magic" ∧ facets.flag "ritual" = true ∧
    ∃ document entry, build s .all .spell (.obj fields) = .built document entry ∧
      entry.category = .spell ∧ entry.facets = facets ∧ ∃ rest, document.body =
        "# " ++ document.name ++ "\n\n*" ++ "2nd-level  Wild  magic\t (ritual)" ++ "*\n" ++
          rest := by
  intro s fields facets
  have hsubtitle : Document.Spell.subtitle? s ⟨fields⟩ =
      some "2nd-level  Wild  magic\t (ritual)" := by
    decide +kernel
  have hname : Document.Names s (.obj fields) "Omen" :=
    ⟨fields, "Omen", rfl, rfl, by decide, by decide +kernel, by decide +kernel⟩
  obtain ⟨r, -, hbuild⟩ := Document.build_of_names hname .all .spell
  rw [if_pos (by decide)] at hbuild
  obtain ⟨-, -, hbuilt⟩ := spell_subtitle_summarized s ⟨fields⟩
  obtain ⟨hcategory, hfacets, hbody⟩ := hbuilt .all (.obj fields) _ _ rfl hbuild
  exact ⟨hsubtitle, by decide +kernel, by decide +kernel, _, _, hbuild, hcategory, hfacets,
    hbody _ hsubtitle⟩

end Compendium
