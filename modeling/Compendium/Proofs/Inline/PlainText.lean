import Mathlib.Data.List.Basic
import Compendium.Render.Style

/-!
# Plain text knows no links

Two modes expand a text alike if they render every tag alike that is met in it, inner ones too
(`expandTo_congr`, by induction over the nesting).  A tag in plain text that could become a link
gives way to the text it shows (`render_plain`), so no option is ever seen (`expandTo_plain`).

* `Style.plainText_eq`: a text has one plain form.
-/

namespace Compendium

namespace Inline

/-! ### Tags that are met -/

/-- The tags that are met when a text is expanded up to `depth` levels, each in front of those in
its arguments. -/
def tagsMet : Nat → List Char → List Invocation
  | 0, _ => []
  | depth + 1, text =>
    (segments text).flatMap fun
      | .char _ => []
      | .tag body => Invocation.parse body :: (Invocation.parse body).args.flatMap (tagsMet depth)

theorem mem_tagsMet_of_tag {depth : Nat} {text body : List Char} (h : .tag body ∈ segments text) :
    Invocation.parse body ∈ tagsMet (depth + 1) text := by
  rw [tagsMet, List.mem_flatMap]
  exact ⟨_, h, List.mem_cons_self⟩

theorem mem_tagsMet_of_arg {depth : Nat} {text body arg : List Char}
    (h : .tag body ∈ segments text) (harg : arg ∈ (Invocation.parse body).args) {i : Invocation}
    (hi : i ∈ tagsMet depth arg) : i ∈ tagsMet (depth + 1) text := by
  rw [tagsMet, List.mem_flatMap]
  exact ⟨_, h, List.mem_cons_of_mem _ (List.mem_flatMap.2 ⟨arg, harg, hi⟩)⟩

/-- **Texts expand alike if the tags in them are rendered alike.** -/
theorem expandTo_congr {mode mode' : Mode} {depth : Nat} {s : List Char}
    (h : ∀ i ∈ tagsMet depth s, ∀ args,
      render mode (String.ofList i.name) args = render mode' (String.ofList i.name) args) :
    expandTo mode depth s = expandTo mode' depth s := by
  -- The arguments of a tag are expanded one level less, and what is met in them is met in the text.
  induction depth generalizing s with
  | zero => rfl
  | succ depth ih =>
    rw [expandTo, expandTo]
    refine List.flatMap_congr fun piece hp => ?_
    cases piece with
    | char c => rfl
    | tag body =>
      have hargs : (Invocation.parse body).args.map (fun arg =>
            String.ofList (expandTo mode depth arg)) =
          (Invocation.parse body).args.map fun arg => String.ofList (expandTo mode' depth arg) :=
        List.map_congr_left fun arg harg =>
          congrArg String.ofList (ih fun i hi => h i (mem_tagsMet_of_arg hp harg hi))
      dsimp only
      rw [hargs, h _ (mem_tagsMet_of_tag hp)]

/-! ### Plain text -/

/-- Nothing is set off in plain text. -/
theorem emphasize_plain (links : Bool) (emphasis : Emphasis) (text : String) :
    emphasize ⟨links, true⟩ emphasis text = text := by
  simp only [emphasize, Bool.or_true, if_true]

/-- A reference shows its text. -/
theorem referenceText_plain (links : Bool) (emphasis : Emphasis) (tag target display : String) :
    referenceText ⟨links, true⟩ emphasis tag target display = display := by
  unfold referenceText
  cases Category.ofReferenceTag? tag with
  | none => exact emphasize_plain links emphasis display
  | some category => exact emphasize_plain links emphasis display

/-- **No tag sees the options**, once its arguments are expanded. -/
theorem render_plain (links links' : Bool) (name : String) (args : List String) :
    render ⟨links, true⟩ name args = render ⟨links', true⟩ name args := by
  unfold render
  cases Kind.ofName name with
  | link => simp only [Bool.true_or, if_true]
  | _ => simp only [emphasize_plain, referenceText_plain]

/-- **No tag at any depth sees the options.** -/
theorem expandTo_plain (links links' : Bool) (depth : Nat) (text : List Char) :
    expandTo ⟨links, true⟩ depth text = expandTo ⟨links', true⟩ depth text :=
  expandTo_congr fun i _ => render_plain links links' (String.ofList i.name)

end Inline

namespace Render.Style

/-- **The plain form of a text is the same in every style.** -/
theorem plainText_eq (s : Style) (text : String) : s.plainText text = Inline.plainText text := by
  rw [plainText, Inline.plainText, Inline.expand, Inline.expand,
    Inline.expandTo_plain s.links false]

end Render.Style

end Compendium
