import Compendium.Proofs.Conversion.PathRegistry
import Compendium.Proofs.Conversion.Run

/-!
# Every document has a file of its own

The registry behind any claims holds exactly the paths that they came to
(`mem_claimAll`).  So a claim that looks for a path of its own comes to one that no
claim before it came to, whatever policies those had.  A run of a converter claims a
path for each of its documents: the taken paths are those of the documents made so
far, none of them is reserved, and each lies in the directory of its category
(`PathsOf`, which holds of every run under either policy).

* `claims_fresh_and_paths_nodup`: both facts, for any claims and for any run.
-/

namespace Compendium

namespace PathRegistry

/-! ### Sequences of claims -/

/-- What is asked for in a claim. -/
structure Request where
  policy : CollisionPolicy
  preferred : String
  source? : Option String

/-- The claim that a request makes. -/
def grant (r : PathRegistry) (request : Request) : Claim :=
  r.claim request.policy request.preferred request.source?

/-- Claims, one after another: the paths that they come to, and the registry behind
them. -/
def claimAll (r : PathRegistry) : List Request → List String × PathRegistry
  | [] => ([], r)
  | request :: rest =>
    let claim := r.grant request
    let (paths, r) := claim.registry.claimAll rest
    (claim.path :: paths, r)

theorem claimAll_append (r : PathRegistry) (front back : List Request) :
    r.claimAll (front ++ back) =
      ((r.claimAll front).1 ++ ((r.claimAll front).2.claimAll back).1,
        ((r.claimAll front).2.claimAll back).2) := by
  induction front generalizing r with
  | nil => rfl
  | cons request rest ih => simp only [List.cons_append, claimAll, ih]

theorem path_grant (r : PathRegistry) (request : Request) :
    (r.grant request).path = r.resolve request.policy request.preferred request.source? := by
  simp only [grant, claim]

theorem registry_grant (r : PathRegistry) (request : Request) :
    (r.grant request).registry = r.insert (r.grant request).path := by
  simp only [grant, claim]

theorem mem_grant {r : PathRegistry} {request : Request} {path : String} :
    path ∈ (r.grant request).registry.claimed ↔
      path = (r.grant request).path ∨ path ∈ r.claimed := by
  rw [registry_grant, mem_insert]

/-- **The taken paths are those that claims came to.** -/
theorem mem_claimAll {r : PathRegistry} {requests : List Request} {path : String} :
    path ∈ (r.claimAll requests).2.claimed ↔
      path ∈ r.claimed ∨ path ∈ (r.claimAll requests).1 := by
  induction requests generalizing r with
  | nil => simp [claimAll]
  | cons request rest ih =>
    rw [claimAll, ih, mem_grant, List.mem_cons, or_assoc, or_left_comm]

/-- A claim that looks for a path of its own finds one that is not taken. -/
theorem path_grant_fresh {r : PathRegistry} {request : Request}
    (h : request.policy = .suffixSource) :
    (r.grant request).path ∉ r.claimed ∧ isReserved (r.grant request).path = false := by
  have hfree := r.contains_resolve request.preferred request.source?
  rw [← h, ← path_grant] at hfree
  exact ⟨(contains_eq_false_iff.1 hfree).2, (contains_eq_false_iff.1 hfree).1⟩

end PathRegistry

namespace Converter

/-! ### The paths of a run -/

/-- What is known of the paths of a run that has made these documents. -/
structure PathsOf (documents : List Document) (c : Converter) : Prop where
  claimed : ∀ path, path ∈ c.paths.claimed ↔ path ∈ documents.map Document.path
  free : ∀ d ∈ documents, PathRegistry.isReserved d.path = false
  place : ∀ d ∈ documents, Document.SlugPath d.category d.path

theorem pathsOf_new (settings : Settings) : PathsOf [] (new settings) where
  claimed path := by
    rw [List.map_nil]
    exact Iff.rfl
  free d hd := absurd hd List.not_mem_nil
  place d hd := absurd hd List.not_mem_nil

theorem PathsOf.withStats {documents : List Document} {c : Converter} (h : PathsOf documents c)
    (stats : Stats) : PathsOf documents { c with stats := stats } :=
  ⟨h.claimed, h.free, h.place⟩

theorem PathsOf.accept {documents : List Document} {c : Converter} {s : Render.Style}
    {filter : SourceFilter} {category : Category} {v : Json} {document : Document} {entry : Entry}
    (hb : Document.build s filter category v = .built document entry) (h : PathsOf documents c) :
    PathsOf (documents ++ [(c.accept document entry).1]) (c.accept document entry).2 where
  claimed path := by
    rw [List.map_append, List.mem_append, or_comm, ← h.claimed path, List.map_singleton,
      List.mem_singleton, accept_paths, PathRegistry.mem_insert]
  free d hd := by
    rcases List.mem_append.1 hd with hd | hd
    · exact h.free d hd
    · rw [List.mem_singleton.1 hd, accept_path]
      exact c.paths.isReserved_resolve _ _ _
  place d hd := by
    rcases List.mem_append.1 hd with hd | hd
    · exact h.place d hd
    · obtain ⟨hc, hp⟩ := Document.of_build_eq_built hb
      have hl : Document.SlugPath document.category document.path := by
        rw [hp, ← hc]
        exact Document.slugPath_naturalPath _ _
      rw [List.mem_singleton.1 hd, accept_path, accept_category]
      exact PathRegistry.slugPath_resolve hl c.paths _ _

/-- **The paths of every run**, under either policy. -/
theorem pathsOf_run (settings : Settings) (calls : List Call) :
    PathsOf ((new settings).run calls).1 ((new settings).run calls).2 :=
  run_induction (pathsOf_new settings) (fun _ _ stats h => h.withStats stats)
    (fun _ _ _ _ _ _ _ hb h => h.accept hb) calls

/-- **Where documents get paths of their own, no two of a run share one.** -/
theorem nodup_paths_run {settings : Settings} (hs : settings.collision = .suffixSource)
    (calls : List Call) : (((new settings).run calls).1.map Document.path).Nodup := by
  refine (run_induction (P := fun documents c =>
    PathsOf documents c ∧ (documents.map Document.path).Nodup)
    ⟨pathsOf_new settings, List.nodup_nil⟩
    (fun _ _ stats h => ⟨h.1.withStats stats, h.2⟩) ?_ calls).2
  rintro documents c category v document entry hc hb ⟨h, hn⟩
  refine ⟨h.accept hb, ?_⟩
  -- The path was free in the registry, so no document before this one has it.
  have hfree := c.paths.contains_resolve document.path document.source?
  rw [← hs, ← hc, PathRegistry.contains_eq_false_iff, h.claimed] at hfree
  rw [List.map_append, List.map_singleton, List.nodup_append]
  refine ⟨hn, List.nodup_singleton _, ?_⟩
  rintro path hp other ho rfl
  rw [List.mem_singleton.1 ho, accept_path] at hp
  exact hfree.2 hp

end Converter

/-! ### The two facts together -/

/-- **Fresh paths.**  After any claims, one that looks for a path of its own comes to
a path that is not reserved and that no claim before it came to.  So in every run
whose documents get paths of their own, no two documents share a path, none has a
reserved one, and each lies in the directory of its category. -/
theorem claims_fresh_and_paths_nodup :
    (∀ (earlier : List PathRegistry.Request) (request : PathRegistry.Request)
        (later : List PathRegistry.Request), request.policy = .suffixSource →
      ∃ path rest,
        (PathRegistry.empty.claimAll (earlier ++ request :: later)).1 =
          (PathRegistry.empty.claimAll earlier).1 ++ path :: rest ∧
        path ∉ (PathRegistry.empty.claimAll earlier).1 ∧
        PathRegistry.isReserved path = false) ∧
    ∀ (settings : Settings) (calls : List Converter.Call), settings.collision = .suffixSource →
      (((Converter.new settings).run calls).1.map Document.path).Nodup ∧
      ∀ d ∈ ((Converter.new settings).run calls).1,
        PathRegistry.isReserved d.path = false ∧ Document.LiesIn d.category d.path := by
  refine ⟨fun earlier request later h => ?_, fun settings calls h => ⟨?_, fun d hd => ?_⟩⟩
  · obtain ⟨hfresh, hfree⟩ :=
      PathRegistry.path_grant_fresh (r := (PathRegistry.empty.claimAll earlier).2) h
    refine ⟨_, _, by rw [PathRegistry.claimAll_append]; rfl, fun hm => ?_, hfree⟩
    exact hfresh (PathRegistry.mem_claimAll.2 (Or.inr hm))
  · exact Converter.nodup_paths_run h calls
  · have hrun := Converter.pathsOf_run settings calls
    exact ⟨hrun.free d hd, (hrun.place d hd).liesIn⟩

/-- Two orbs of one source, then a document whose own path the second orb has taken,
and one that wants the path of a listing page. -/
theorem claims_fresh_and_paths_nodup_orbs :
    let earlier : List PathRegistry.Request :=
      [⟨.suffixSource, "items/orb.md", some "DMG"⟩, ⟨.overwrite, "items/orb.md", some "DMG"⟩,
        ⟨.suffixSource, "items/orb.md", some "DMG"⟩]
    let request : PathRegistry.Request := ⟨.suffixSource, "items/orb-dmg.md", none⟩
    let calls : List Converter.Call :=
      [.records .item [.obj [("name", .str "Orb"), ("source", .str "DMG")],
          .obj [("name", .str "Orb"), ("source", .str "DMG")], .obj [("name", .str "Orb DMG")]],
        .file none, .corpus (.obj [("variantrule", .arr [.obj [("name", .str "Index")]])])]
    (PathRegistry.empty.claimAll (earlier ++ [request])).1 =
        ["items/orb.md", "items/orb.md", "items/orb-dmg.md", "items/orb-dmg-2.md"] ∧
      (∃ path rest, (PathRegistry.empty.claimAll (earlier ++ [request])).1 =
          (PathRegistry.empty.claimAll earlier).1 ++ path :: rest ∧
        path ∉ (PathRegistry.empty.claimAll earlier).1 ∧ PathRegistry.isReserved path = false) ∧
      ((Converter.new .default).run calls).1.map Document.path =
        ["items/orb.md", "items/orb-dmg.md", "items/orb-dmg-2.md", "rules/index-2.md"] ∧
      (((Converter.new .default).run calls).1.map Document.path).Nodup := by
  refine ⟨by decide +kernel, ?_, by decide +kernel, ?_⟩
  · exact claims_fresh_and_paths_nodup.1 _ _ [] rfl
  · exact (claims_fresh_and_paths_nodup.2 .default _ rfl).1

end Compendium
