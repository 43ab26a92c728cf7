import LivePages.Proofs.Page.Merging
import LivePages.Proofs.Site.PageAddress

/-!
# Files with Two Names

A page names the files that are merged into it by their paths below the web root. The guards against
merging a file twice compare the names, and the loader takes more than one name for a file: a dot or
a slash too many makes no difference to it. So a file is merged twice exactly if it goes by two
names in the page and in what is merged into it.

## Main results

* `merged_once_iff`: when the files that are required, and those of a chain, are different.
* `merged_once_respelled`: a file that is merged twice.
-/

namespace LivePages.Site

open Page (Merges requiredPaths)
open Files.Path (components join)

/-! ### Files below the root -/

/-- Two texts for one file below the root. -/
def Respelled (root a b : String) : Prop :=
  a ≠ b ∧ components (join root a) = components (join root b)

/-- The files of different texts are different if no text is a respelling of another. -/
theorem nodup_files_iff {root : String} {paths : List String} (h : paths.Nodup) :
    (paths.map fun path => components (join root path)).Nodup ↔
      ¬ ∃ a ∈ paths, ∃ b ∈ paths, Respelled root a b := by
  rw [List.nodup_map_iff_inj_on h]
  constructor
  · rintro hinj ⟨a, ha, b, hb, hne, heq⟩
    exact hne (hinj a ha b hb heq)
  · intro hnone a ha b hb heq
    by_contra hne
    exact hnone ⟨a, ha, b, hb, hne, heq⟩

/-- **A file is merged twice exactly if it is spelled in two ways.** Every page below a root has one
account of what is merged into it, whatever the files are and however they are nested. No text is
required twice, and none is twice on a chain of inclusions. So the files that are required are
different unless two of the texts are for the same file, and likewise those of a chain. -/
theorem merged_once_iff (tree : Files.Tree) (root page : String) : ∃ ms q,
    Merges (loader tree root) 0 (Page.scan page.toList).items {} ms q ∧
      Page.parse (loader tree root) page = Page.addTail q (Page.scan page.toList).tail ∧
      (∀ ms' q', Merges (loader tree root) 0 (Page.scan page.toList).items {} ms' q' →
        ms' = ms ∧ q' = q) ∧
      (∀ m ∈ ms, ∃ text, tree.readText (join root m.path) = .ok text) ∧
      ((requiredPaths ms).Nodup ∧
        (((requiredPaths ms).map fun path => components (join root path)).Nodup ↔
          ¬ ∃ a ∈ requiredPaths ms, ∃ b ∈ requiredPaths ms, Respelled root a b)) ∧
      ∀ m ∈ ms, m.chain.Nodup ∧
        ((m.chain.map fun path => components (join root path)).Nodup ↔
          ¬ ∃ a ∈ m.chain, ∃ b ∈ m.chain, Respelled root a b) := by
  obtain ⟨ms, q, hms, hparse⟩ := Page.exists_merges (loader tree root) page
  have hguarded := hms.guarded
  refine ⟨ms, q, hms, hparse, fun ms' q' h => h.unique hms, fun m hm => ?_,
    ⟨hguarded.nodup, nodup_files_iff hguarded.nodup⟩, fun m hm => ?_⟩
  · obtain ⟨text, hload⟩ := hguarded.loaded m hm
    exact ⟨text, (exists_readText_of_load hload).2⟩
  · have hchain := hguarded.chain List.nodup_nil m hm
    exact ⟨hchain, nodup_files_iff hchain⟩

namespace Sample

/-- A root with a file of text, and one that includes itself under another spelling. -/
def respelled : Files.Tree :=
  { nodes := [(["web"], .directory 1),
      (["web", "f"], .file (Text.Utf8.ofString "x") 2 false),
      (["web", "g"], .file (Text.Utf8.ofString "y<%!include \"./g\"%>") 2 false)] }

/-- The directive that asks for a merge. -/
def directive (kind : Page.MergeKind) (path : String) : Page.Item :=
  .tag .directive s!"{kind.word} \"{path}\"".toList

/-- A file of text is required under both of its names. -/
theorem exists_required_twice : ∃ ms q, Merges (loader respelled "web") 0
    [directive .require "f", directive .require "./f"] {} ms q ∧
    ms = [⟨.require, "f", []⟩, ⟨.require, "./f", []⟩] ∧
    q.parts.fragments = [.literal "x", .literal "x"] := by
  have hitems : (Page.scan "x".toList).items = [.text ['x']] := by decide +kernel
  have hinside : ∀ p, Merges (loader respelled "web") 1 (Page.scan "x".toList).items p []
      (p.update (·.push (.literal "x"))) := fun p => hitems ▸ .skip (fun _ => rfl) .nil
  have hload : ((loader respelled "web").load "f").toOption = some "x" := by decide +kernel
  have hload' : ((loader respelled "web").load "./f").toOption = some "x" := by decide +kernel
  have hfirst : (directive .require "f").merge? = some (.require, "f") := by decide +kernel
  have hsecond : (directive .require "./f").merge? = some (.require, "./f") := by decide +kernel
  have hdue : "./f" ∉ ["f"] := by decide
  exact ⟨_, _, .merge hfirst List.not_mem_nil (eq_ok_of_mem_toOption hload) (hinside _)
    (.merge hsecond hdue (eq_ok_of_mem_toOption hload') (hinside _) .nil), rfl, rfl⟩

/-- A file includes itself under its other name. -/
theorem exists_included_in_itself : ∃ ms q, Merges (loader respelled "web") 0
    [directive .include "g"] {} ms q ∧
    ms = [⟨.include, "g", ["g"]⟩, ⟨.include, "./g", ["./g", "g"]⟩] ∧
    q.parts.fragments = [.literal "y", .literal "y"] := by
  have hitems : (Page.scan "y<%!include \"./g\"%>".toList).items =
      [.text ['y'], directive .include "./g"] := by decide +kernel
  have hload : ((loader respelled "web").load "g").toOption =
      some "y<%!include \"./g\"%>" := by decide +kernel
  have hload' : ((loader respelled "web").load "./g").toOption =
      some "y<%!include \"./g\"%>" := by decide +kernel
  have hfirst : (directive .include "g").merge? = some (.include, "g") := by decide +kernel
  have hsecond : (directive .include "./g").merge? = some (.include, "./g") := by decide +kernel
  -- the second time the file names itself as it is named on the chain, and is skipped
  have hskip : ∀ p : Page.Progress, p.parts.including = ["./g", "g"] → ∀ nested,
      Page.addItem (Page.addTag (loader respelled "web") nested 2) p (directive .include "./g") =
        some (p.report (.cyclicInclude "./g")) := by
    intro p hchain nested
    rw [Page.addItem_of_merge? hsecond, Page.addMerge, if_pos (by rw [hchain]; decide)]
  have hinside : ∀ p : Page.Progress, p.parts.including = ["./g", "g"] →
      Merges (loader respelled "web") 2 (Page.scan "y<%!include \"./g\"%>".toList).items p []
        ((p.update (·.push (.literal "y"))).report (.cyclicInclude "./g")) :=
    fun p hchain => hitems ▸ .skip (fun _ => rfl) (.skip (hskip _ hchain) .nil)
  have hdue : "./g" ∉ ["g"] := by decide
  have hitself : Merges (loader respelled "web") 1 [.text ['y'], directive .include "./g"]
      (({} : Page.Progress).update (Page.MergeKind.include.start "g")) _ _ :=
    .skip (fun _ => rfl)
      (.merge hsecond hdue (eq_ok_of_mem_toOption hload') (hinside _ rfl) .nil)
  rw [← hitems] at hitself
  exact ⟨_, _, .merge hfirst List.not_mem_nil (eq_ok_of_mem_toOption hload) hitself .nil, rfl, rfl⟩

end Sample

/-- **A file that is spelled in two ways is merged twice**, by requirements as well as on a chain of
inclusions. -/
theorem merged_once_respelled :
    (∃ ms q, Merges (loader Sample.respelled "web") 0
        (Page.scan "<%!require \"f\"%><%!require \"./f\"%>".toList).items {} ms q ∧
      ¬ ((requiredPaths ms).map fun path => components (join "web" path)).Nodup ∧
      q.parts.fragments = [.literal "x", .literal "x"]) ∧
    ∃ ms q, Merges (loader Sample.respelled "web") 0
        (Page.scan "<%!include \"g\"%>".toList).items {} ms q ∧
      (∃ m ∈ ms, ¬ (m.chain.map fun path => components (join "web" path)).Nodup) ∧
      q.parts.fragments = [.literal "y", .literal "y"] := by
  have hrequires : (Page.scan "<%!require \"f\"%><%!require \"./f\"%>".toList).items =
      [Sample.directive .require "f", Sample.directive .require "./f"] := by decide +kernel
  have hincludes : (Page.scan "<%!include \"g\"%>".toList).items =
      [Sample.directive .include "g"] := by decide +kernel
  obtain ⟨ms, q, hq, rfl, htwice⟩ := Sample.exists_required_twice
  obtain ⟨ms, r, hr, rfl, hitself⟩ := Sample.exists_included_in_itself
  refine ⟨⟨_, q, hrequires ▸ hq, by decide +kernel, htwice⟩,
    ⟨_, r, hincludes ▸ hr, ⟨_, List.mem_cons_of_mem _ List.mem_cons_self, ?_⟩, hitself⟩⟩
  decide +kernel

end LivePages.Site
