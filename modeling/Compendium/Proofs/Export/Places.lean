import Mathlib.Data.List.Induction
import Mathlib.Data.List.TakeWhile
import Compendium.Export.Directory
import Compendium.Proofs.Document.Paths

/-!
# Where a path leads

A path is followed part by part (`step`).  Without two dots it only leads down: its names are
added to the place where it starts (`foldl_step`), and no other place has to be there for it
(`turns_eq`).  A path below a root is joined to that of the root, and then leads from where the
root is along its own parts, whatever the path of the root looks like (`foldl_step_target`).
-/

namespace Compendium.Directory

variable {path part base : String} {parts place : List String} {root : Root}

/-! ### Names -/

/-- The names among parts. -/
def names (parts : List String) : List String :=
  parts.filter fun part => part ≠ "" ∧ part ≠ "."

theorem names_append (front back : List String) :
    names (front ++ back) = names front ++ names back :=
  List.filter_append front back

theorem names_empty : names [""] = [] := rfl

theorem names_dot : names ["."] = [] := rfl

theorem names_singleton (hempty : part ≠ "") (hdot : part ≠ ".") : names [part] = [part] :=
  List.filter_cons_of_pos (decide_eq_true ⟨hempty, hdot⟩)

theorem names_eq_self (h : ∀ part ∈ parts, IsPathName part) : names parts = parts :=
  List.filter_eq_self.2 fun part hp => decide_eq_true ⟨(h part hp).ne_empty, (h part hp).ne_dot⟩

theorem dots_mem_names : ".." ∈ names parts ↔ ".." ∈ parts := by
  simp [names]

theorem foldl_names (parts front : List String) :
    parts.foldl (fun front part => front ++ names [part]) front = front ++ names parts := by
  induction parts generalizing front with
  | nil => exact (List.append_nil front).symm
  | cons part rest ih =>
    rw [List.foldl_cons, ih, List.append_assoc, ← names_append, List.singleton_append]

theorem step_eq_append (h : part ≠ "..") (place : List String) :
    step place part = place ++ names [part] := by
  by_cases hp : part = "" ∨ part = "."
  · rw [step, if_pos hp]
    rcases hp with rfl | rfl
    · rw [names_empty, List.append_nil]
    · rw [names_dot, List.append_nil]
  · rw [step, if_neg hp, if_neg h, names_singleton (mt Or.inl hp) (mt Or.inr hp)]

/-- **A path without two dots leads down** along its names. -/
theorem foldl_step (h : ".." ∉ parts) (place : List String) :
    parts.foldl step place = place ++ names parts := by
  rw [← foldl_names]
  refine List.foldl_ext _ _ _ fun place part hp => step_eq_append ?_ place
  rintro rfl
  exact h hp

theorem turns_eq (h : ".." ∉ parts) (place : List String) :
    turns place parts = [place ++ names parts] := by
  induction parts generalizing place with
  | nil => exact congrArg (fun place => [place]) (List.append_nil place).symm
  | cons part rest ih =>
    obtain ⟨hpart, hrest⟩ := not_or.1 (mt List.mem_cons.2 h)
    rw [turns, if_neg (Ne.symm hpart), ih hrest, step_eq_append (Ne.symm hpart),
      List.append_assoc, ← names_append, List.singleton_append]

/-! ### Parents -/

theorem withoutEndDots_concat_of_names (h : names [part] = []) (parts : List String) :
    withoutEndDots (parts ++ [part]) = withoutEndDots parts := by
  have hp : part = "" ∨ part = "." := by
    by_contra hp
    rw [names_singleton (mt Or.inl hp) (mt Or.inr hp)] at h
    cases h
  rw [withoutEndDots, withoutEndDots, List.reverse_concat,
    List.dropWhile_cons_of_pos (by simpa using hp)]

theorem withoutEndDots_concat (h : names [part] = [part]) (parts : List String) :
    withoutEndDots (parts ++ [part]) = parts ++ [part] := by
  have hp : ¬ (part = "" ∨ part = ".") := by
    rintro (rfl | rfl) <;> cases h
  rw [withoutEndDots, List.reverse_concat, List.dropWhile_cons_of_neg (by simpa using hp),
    List.reverse_cons, List.reverse_reverse]

theorem names_singleton_cases (part : String) : names [part] = [] ∨ names [part] = [part] := by
  by_cases hp : part = "" ∨ part = "."
  · rcases hp with rfl | rfl
    · exact Or.inl names_empty
    · exact Or.inl names_dot
  · exact Or.inr (names_singleton (mt Or.inl hp) (mt Or.inr hp))

theorem withoutEndDots_front (parts : List String) : withoutEndDots parts <+: parts := by
  rw [← List.reverse_suffix, withoutEndDots, List.reverse_reverse]
  exact List.dropWhile_suffix _

theorem names_withoutEndDots (parts : List String) :
    names (withoutEndDots parts) = names parts := by
  induction parts using List.reverseRecOn with
  | nil => rfl
  | append_singleton parts part ih =>
    rcases names_singleton_cases part with hp | hp
    · rw [withoutEndDots_concat_of_names hp, ih, names_append, hp, List.append_nil]
    · rw [withoutEndDots_concat hp]

/-- **The names on the way to a file** are those of its path up to the last one. -/
theorem names_parentParts (path : String) :
    names (parentParts path) = (names (Text.splitOn '/' path)).dropLast := by
  rw [parentParts, names_withoutEndDots]
  induction Text.splitOn '/' path using List.reverseRecOn with
  | nil => rfl
  | append_singleton parts part ih =>
    rcases names_singleton_cases part with hp | hp
    · rw [withoutEndDots_concat_of_names hp, ih, names_append, hp, List.append_nil]
    · rw [withoutEndDots_concat hp, List.dropLast_concat, names_append, hp,
        List.dropLast_concat]

theorem parentParts_front (path : String) : parentParts path <+: Text.splitOn '/' path := by
  have hlast := List.dropLast_prefix (withoutEndDots (Text.splitOn '/' path))
  exact ((withoutEndDots_front _).trans hlast).trans (withoutEndDots_front _)

/-! ### Joined paths -/

theorem slash_notMem_of_mem_splitOn (h : part ∈ Text.splitOn '/' path) : '/' ∉ part.toList := by
  obtain ⟨piece, hp, rfl⟩ := List.mem_map.1 h
  rw [String.toList_ofList]
  exact Chars.sep_notMem_of_mem_splitOn hp

/-- The parts of a path with one more part: a slash at its end is not doubled. -/
theorem exists_splitOn_join (h : '/' ∉ part.toList) (path : String) :
    ∃ front, Text.splitOn '/' (join path part) = front ++ [part] ∧
      (Text.splitOn '/' path = front ∨ Text.splitOn '/' path = front ++ [""]) := by
  have hpart := Text.splitOn_of_notMem h
  by_cases hempty : path = ""
  · subst hempty
    have hjoin : join "" part = part := String.empty_append
    refine ⟨[], ?_, Or.inr (Text.splitOn_of_notMem List.not_mem_nil)⟩
    rw [hjoin, hpart, List.nil_append]
  · cases hslash : Text.finishesWith "/" path with
    | true =>
      obtain ⟨front, hfront⟩ := List.isSuffixOf_iff_suffix.1 hslash
      obtain rfl : path = String.ofList front ++ "/" := by
        rw [← String.toList_inj, ← hfront]
        simp
      have hjoin : join (String.ofList front ++ "/") part = String.ofList front ++ "/" ++ part := by
        rw [join, hslash, Bool.or_true, if_pos rfl]
      have hend := Text.splitOn_slash (String.ofList front) ""
      rw [String.append_empty] at hend
      refine ⟨Text.splitOn '/' (String.ofList front), ?_, Or.inr hend⟩
      rw [hjoin, Text.splitOn_slash, hpart]
    | false =>
      have hjoin : join path part = path ++ "/" ++ part := by
        rw [join, hslash, Bool.or_false, if_neg (by simpa using hempty)]
      refine ⟨Text.splitOn '/' path, ?_, Or.inl rfl⟩
      rw [hjoin, Text.splitOn_slash, hpart]

/-- What goes over the parts of a path and passes over empty ones goes on with the part that the
path is joined with. -/
theorem foldl_splitOn_join {β : Type} {g : β → String → β} (hg : ∀ b, g b "" = b)
    (h : '/' ∉ part.toList) (path : String) (start : β) :
    (Text.splitOn '/' (join path part)).foldl g start =
      g ((Text.splitOn '/' path).foldl g start) part := by
  obtain ⟨front, hjoin, hpath | hpath⟩ := exists_splitOn_join h path
  · rw [hjoin, hpath, List.foldl_append]
    rfl
  · rw [hjoin, hpath, List.foldl_append, List.foldl_append, List.foldl_cons, List.foldl_cons, hg]
    rfl

theorem foldl_splitOn_target {β : Type} {g : β → String → β} (hg : ∀ b, g b "" = b)
    (root : Root) (path : String) (start : β) :
    (Text.splitOn '/' (root.target path)).foldl g start =
      (Text.splitOn '/' path).foldl g ((Text.splitOn '/' root.path).foldl g start) := by
  have hparts : ∀ part ∈ Text.splitOn '/' path, '/' ∉ part.toList :=
    fun part hp => slash_notMem_of_mem_splitOn hp
  rw [Root.target]
  generalize Text.splitOn '/' path = parts at hparts
  generalize root.path = base
  induction parts generalizing base with
  | nil => rfl
  | cons part rest ih =>
    obtain ⟨hpart, hrest⟩ := List.forall_mem_cons.1 hparts
    rw [List.foldl_cons, ih hrest, foldl_splitOn_join hg hpart, List.foldl_cons]

theorem names_target (root : Root) (path : String) :
    names (Text.splitOn '/' (root.target path)) =
      names (Text.splitOn '/' root.path) ++ names (Text.splitOn '/' path) := by
  have htarget := foldl_splitOn_target (g := fun front part => front ++ names [part])
    (fun front => by rw [names_empty, List.append_nil]) root path []
  rwa [foldl_names, foldl_names, foldl_names, List.nil_append, List.nil_append] at htarget

/-- What is joined has its last part. -/
theorem getLast?_splitOn_target (root : Root) (path : String) :
    (Text.splitOn '/' (root.target path)).getLast? = (Text.splitOn '/' path).getLast? := by
  obtain ⟨init, last, hparts⟩ : ∃ init last, Text.splitOn '/' path = init ++ [last] :=
    ⟨_, _, (List.dropLast_append_getLast (Text.splitOn_ne_nil path)).symm⟩
  have hlast : '/' ∉ last.toList := slash_notMem_of_mem_splitOn (by rw [hparts]; simp)
  obtain ⟨front, hjoin, -⟩ := exists_splitOn_join hlast (init.foldl join root.path)
  rw [Root.target, hparts, List.foldl_append, List.foldl_cons, List.foldl_nil, hjoin,
    List.getLast?_concat, List.getLast?_concat]

theorem endsInDot_target (root : Root) (path : String) :
    endsInDot (root.target path) = endsInDot path := by
  rw [endsInDot, endsInDot, getLast?_splitOn_target]

/-- Parts that all have a text are put behind a path with slashes between them. -/
theorem splitOn_foldl_join (hparts : ∀ part ∈ parts, '/' ∉ part.toList ∧ part ≠ "")
    (hlast : (Text.splitOn '/' base).getLast? ≠ some "") :
    Text.splitOn '/' (parts.foldl join base) = Text.splitOn '/' base ++ parts := by
  induction parts generalizing base with
  | nil => exact (List.append_nil _).symm
  | cons part rest ih =>
    obtain ⟨⟨hslash, hempty⟩, hrest⟩ := List.forall_mem_cons.1 hparts
    have hjoin : Text.splitOn '/' (join base part) = Text.splitOn '/' base ++ [part] := by
      obtain ⟨front, hjoin, hbase | hbase⟩ := exists_splitOn_join hslash base
      · rw [hjoin, hbase]
      · exact absurd (by rw [hbase, List.getLast?_concat]) hlast
    have hend : (Text.splitOn '/' (join base part)).getLast? ≠ some "" := by
      rw [hjoin, List.getLast?_concat]
      exact fun he => hempty (Option.some.inj he)
    rw [List.foldl_cons, ih hrest hend, hjoin, List.append_assoc, List.singleton_append]

/-- In front of a path below the directory itself nothing stands. -/
theorem target_top (h : "" ∉ Text.splitOn '/' path) : Root.top.target path = path := by
  refine Text.splitOn_injective ?_
  rw [Root.target]
  cases hparts : Text.splitOn '/' path with
  | nil => exact absurd hparts (Text.splitOn_ne_nil path)
  | cons part rest =>
    have hall : ∀ part ∈ Text.splitOn '/' path, '/' ∉ part.toList ∧ part ≠ "" := by
      refine fun part hp => ⟨slash_notMem_of_mem_splitOn hp, ?_⟩
      rintro rfl
      exact h hp
    rw [hparts] at hall
    obtain ⟨hpart, hrest⟩ := List.forall_mem_cons.1 hall
    have hfirst : join Root.top.path part = part := String.empty_append
    have hsplit := Text.splitOn_of_notMem hpart.1
    have hlast : (Text.splitOn '/' part).getLast? ≠ some "" := by
      rw [hsplit]
      exact fun he => hpart.2 (Option.some.inj he)
    rw [List.foldl_cons, hfirst, splitOn_foldl_join hrest hlast, hsplit, List.singleton_append]

end Compendium.Directory
