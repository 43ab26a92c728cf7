import LivePages.Build.Rehearsal
import LivePages.Proofs.Build.PageTable
import LivePages.Proofs.Site.PageAddress
import LivePages.Proofs.Source.Verbatim

/-!
# The Addresses in a Report

The report of a build has the addresses of the pages that were compiled into the executable. The
pages of a scan have different paths, but an address knows no backslashes, so two pages may come to
one address. This is the only way: the addresses of a report are different unless two of its pages
have paths that are alike when both separators are. A page is looked for under its address, and so
a page with no backslash in its path is compiled from its own file.

## Main results

* `exists_generate_of_build`: the pages of a report are those of the page table.
* `own_address`: which pages of a report share an address, and what they are compiled from.
* `own_address_shared`: two pages, one address, and both compiled from the same file.
-/

namespace LivePages.Build

section

variable {config : Config} {toolchain : Toolchain} {paths : List String} {executable : String}
  {ws ws' : Workspace} {report : Report}

/-! ### Reports -/

/-- A project has the pages that were generated for it. -/
theorem exists_generate_of_prepare {project : Project}
    (h : (prepare config paths executable).run.run ws = (.ok project, ws')) :
    ∃ done ws₁, (generate config paths).run.run ws = (.ok done, ws₁) ∧
      project.pages = done.pages ∧ project.skipped = done.skipped := by
  obtain ⟨done, ws₁, hgenerate, hopen⟩ := run_bind_eq_ok_iff.mp h
  obtain ⟨directory, ws₂, -, hfill⟩ := run_bind_eq_ok_iff.mp hopen
  obtain ⟨_, ws₃, -, hproject⟩ := run_bind_eq_ok_iff.mp hfill
  obtain ⟨rfl, -⟩ := eq_of_run_pure hproject
  exact ⟨done, ws₁, hgenerate, rfl, rfl⟩

/-- What is installed has the addresses of the pages of its project. -/
theorem pages_install {project : Project} {built : String}
    (h : (install config project built executable).run.run ws = (.ok report, ws')) :
    report.pages = project.pages.map (·.url) := by
  obtain ⟨_, ws₁, -, hkeep⟩ := run_bind_eq_ok_iff.mp h
  obtain ⟨_, ws₂, -, hclose⟩ := run_bind_eq_ok_iff.mp hkeep
  obtain ⟨_, ws₃, -, hreport⟩ := run_bind_eq_ok_iff.mp hclose
  obtain ⟨rfl, -⟩ := eq_of_run_pure hreport
  rfl

/-- The pages of a report are those of the page table. -/
theorem exists_generate_of_build
    (h : (build config toolchain paths executable).run.run ws = (.ok report, ws')) :
    ∃ done ws₁, (generate config paths).run.run ws = (.ok done, ws₁) ∧
      report.pages = done.pages.map (·.url) := by
  obtain ⟨project, ws₁, hprepare, hfinish⟩ := run_bind_eq_ok_iff.mp h
  obtain ⟨done, ws₂, hgenerate, hpages, -⟩ := exists_generate_of_prepare hprepare
  obtain ⟨built, ws₃, -, hinstall⟩ := run_bind_eq_ok_iff.mp hfinish
  exact ⟨done, ws₂, hgenerate, by rw [pages_install hinstall, hpages]⟩

/-- A page of text and remarks is compiled from this text, whatever other files there are. -/
theorem compilePage_of_isStatic {tree : Files.Tree} {webRoot path text : String}
    (hload : (Site.loader tree webRoot).load (loadName (Site.pageUrl path)) = .ok text)
    (htext : Source.IsStatic text) :
    compilePage tree webRoot path = .ok (⟨Site.pageUrl path, false, Source.renderHandler
      { fragments := (Source.textRuns text).map Page.Fragment.literal } (Site.pageUrl path)⟩,
        []) := by
  unfold compilePage Page.parseFile
  simp only [hload, Except.map, Source.parse_eq_of_isStatic _ htext, List.map_nil]

/-! ### Pages of a scan -/

variable {tree : Files.Tree} {found : Site.Scan} {r : Site.Request}

/-- A request of a scan is for one of its pages. -/
theorem exists_page_of_mem_allocate (hscan : Site.scan tree config.webRoot = .ok found)
    (hr : r ∈ Site.allocate (found.pages.map (·.path))) : ∃ p ∈ found.pages, p.path = r.path :=
  List.mem_map.mp ((Site.path_allocate_perm_of_scan hscan).mem_iff.mp (List.mem_map_of_mem hr))

/-- The source of a page is put together from the text of its own file. -/
def FromOwnFile (config : Config) (turn : Workspace) (path : String) (page : CompiledPage) :
    Prop :=
  ∃ text, turn.tree.readText (Files.Path.join config.webRoot path) = .ok text ∧
    page.source = Source.renderHandler
      (Page.parse (Site.loader turn.tree config.webRoot) text).parts (Site.pageUrl path)

/-- A page with no backslash in its path is compiled from its own file. -/
theorem CompilesTo.fromOwnFile {turn : Workspace} {page : CompiledPage}
    (hscan : Site.scan tree config.webRoot = .ok found)
    (h : CompilesTo config (found.pages.map (·.path)) ws r turn page)
    (hslash : '\\' ∉ r.path.toList) : FromOwnFile config turn r.path page := by
  obtain ⟨p, hp, hpath⟩ := exists_page_of_mem_allocate hscan h.mem_allocate
  have hhead : r.path.toList.head? ≠ some '/' := hpath ▸ Site.head?_ne_slash hscan hp
  obtain ⟨text, hload, hsource⟩ := h.exists_load
  rw [Site.loadName_pageUrl hhead hslash] at hload
  exact ⟨text, (Site.exists_readText_of_load hload).2, hsource⟩

/-- Addresses are different if no two of their paths are alike. -/
theorem nodup_pageUrl_iff {served : List Site.Request} (h : (served.map (·.path)).Nodup) :
    (served.map fun r => Site.pageUrl r.path).Nodup ↔
      ∀ r ∈ served, ∀ s ∈ served, Site.slashed r.path = Site.slashed s.path →
        r.path = s.path := by
  constructor
  · intro hnodup r hr s hs halike
    rw [List.inj_on_of_nodup_map hnodup hr hs (Site.pageUrl_eq_iff.mpr halike)]
  · intro hapart
    refine List.Nodup.map_on (fun r hr s hs heq => ?_) (List.Nodup.of_map _ h)
    exact List.inj_on_of_nodup_map h hr hs (hapart r hr s hs (Site.pageUrl_eq_iff.mp heq))

end

namespace Sample

/-- A site with a page below a directory and a page with a name of its own. -/
def site (name : String) : Files.Tree :=
  { nodes := [(["tmp"], .directory 1), (["web"], .directory 1), (["web", "a"], .directory 1),
      (["web", "a", "b.rsp"], .file (Text.Utf8.ofString "one") 2 false),
      (["web", name], .file (Text.Utf8.ofString "two") 2 false)] }

/-- A configuration with the usual directories. -/
def config : Config :=
  { runtimeCrate := "/rt" }

/-- A build of pages of the site, with a compiler that leaves an executable. -/
def built (name : String) (paths : List String) : Except Error Report × Workspace :=
  (build config (Rehearsal.toolchain {}) paths "exe/backend-0").run.run ⟨site name, 5, []⟩

end Sample

namespace Sample

/-- What both pages are compiled to. -/
def page : CompiledPage :=
  ⟨"/a/b.rsp", false, Source.renderHandler { fragments := [.literal "one"] } "/a/b.rsp"⟩

/-- The request for the page with the backslash, which is compiled before the other one. -/
def first : Site.Request :=
  ⟨"a\\b.rsp", "a_b.rsp"⟩

/-- The request for the page below the directory. -/
def second : Site.Request :=
  ⟨"a/b.rsp", "a_b.rsp_"⟩

/-- The page table with both pages. -/
def table : Generated :=
  ⟨[rowOf first, rowOf second], []⟩

/-- The file that is loaded for both pages decides what they are compiled to. -/
theorem compilePage_eq {tree : Files.Tree} {path : String} (hpath : Site.pageUrl path = "/a/b.rsp")
    (hload : ((Site.loader tree config.webRoot).load "a/b.rsp").toOption = some "one") :
    compilePage tree config.webRoot path = .ok (page, []) := by
  have hname : loadName (Site.pageUrl path) = "a/b.rsp" := by
    have h : loadName "/a/b.rsp" = "a/b.rsp" := by decide +kernel
    rwa [← hpath] at h
  have htext : (Site.loader tree config.webRoot).load (loadName (Site.pageUrl path)) =
      .ok "one" := by
    rw [hname]
    exact eq_ok_of_mem_toOption hload
  have hstatic : Source.IsStatic "one" := by decide +kernel
  have hruns : (Source.textRuns "one").map Page.Fragment.literal = [.literal "one"] := by
    decide +kernel
  rw [compilePage_of_isStatic htext hstatic]
  rw [hruns]
  rw [hpath]
  rfl

/-- Both pages are compiled, one after the other, and the build succeeds. -/
theorem exists_built : ∃ report ws',
    built "a\\b.rsp" ["a/b.rsp", "a\\b.rsp"] = (.ok report, ws') ∧ ¬ report.pages.Nodup := by
  -- the trees that the build goes through, up to the project
  obtain ⟨made, hmade, hload, written, hwritten, hload', both, hboth, project, hproject, report,
      hreport, hshared⟩ :
      ∃ made ∈ ((site "a\\b.rsp").makeDirs config.srcDir 5).toOption,
        ((Site.loader made config.webRoot).load "a/b.rsp").toOption = some "one" ∧
        ∃ written ∈ (made.write (Files.Path.join config.srcDir (sourceName "a_b.rsp"))
          (Text.Utf8.ofString page.source) 5).toOption,
        ((Site.loader written config.webRoot).load "a/b.rsp").toOption = some "one" ∧
        ∃ both ∈ (written.write (Files.Path.join config.srcDir (sourceName "a_b.rsp_"))
          (Text.Utf8.ofString page.source) 5).toOption,
        ∃ project ∈ ((openAssembled config table "exe/backend-0").run.run
          ⟨both, 5, [table.line]⟩).1.toOption,
        ∃ report ∈ ((finish config (Rehearsal.toolchain {}) project "exe/backend-0").run.run
          ((openAssembled config table "exe/backend-0").run.run
            ⟨both, 5, [table.line]⟩).2).1.toOption,
        ¬ report.pages.Nodup := by
    decide +kernel
  have hfirst : (generatePage config {} first).run.run ⟨made, 5, []⟩ =
      (.ok ⟨[rowOf first], []⟩, ⟨written, 5, []⟩) :=
    run_generatePage (compilePage_eq (by decide +kernel) hload) rfl
      (eq_ok_of_mem_toOption hwritten)
  have hsecond : (generatePage config ⟨[rowOf first], []⟩ second).run.run ⟨written, 5, []⟩ =
      (.ok table, ⟨both, 5, []⟩) :=
    run_generatePage (compilePage_eq (by decide +kernel) hload') rfl
      (eq_ok_of_mem_toOption hboth)
  have hallocate : Site.allocate ["a/b.rsp", "a\\b.rsp"] = [first, second] := by
    decide +kernel
  have hgenerate : (generate config ["a/b.rsp", "a\\b.rsp"]).run.run ⟨site "a\\b.rsp", 5, []⟩ =
      (.ok table, ⟨both, 5, [table.line]⟩) := by
    have hdirs : (Work.makeDirs config.srcDir).run.run ⟨site "a\\b.rsp", 5, []⟩ =
        (.ok (), ⟨made, 5, []⟩) :=
      run_change (f := fun tree now => tree.makeDirs config.srcDir now)
        (eq_ok_of_mem_toOption hmade)
    have hpages : ([first, second].foldlM (generatePage config) {}).run.run ⟨made, 5, []⟩ =
        (.ok table, ⟨both, 5, []⟩) :=
      run_bind_eq_ok_iff.mpr ⟨_, _, hfirst, run_bind_eq_ok_iff.mpr ⟨_, _, hsecond, rfl⟩⟩
    rw [← hallocate] at hpages
    exact run_generate hdirs hpages
  have hopen : (openAssembled config table "exe/backend-0").run.run ⟨both, 5, [table.line]⟩ =
      (.ok project, ((openAssembled config table "exe/backend-0").run.run
        ⟨both, 5, [table.line]⟩).2) :=
    eq_mk_of_mem_toOption hproject
  have hprepare : (prepare config ["a/b.rsp", "a\\b.rsp"] "exe/backend-0").run.run
      ⟨site "a\\b.rsp", 5, []⟩ = (.ok project, _) :=
    run_bind_eq_ok_iff.mpr ⟨table, _, hgenerate, hopen⟩
  have hbuild : (build config (Rehearsal.toolchain {}) ["a/b.rsp", "a\\b.rsp"]
      "exe/backend-0").run.run ⟨site "a\\b.rsp", 5, []⟩ = (.ok report, _) :=
    run_bind_eq_ok_iff.mpr ⟨project, _, hprepare,
      eq_mk_of_mem_toOption hreport⟩
  exact ⟨report, _, hbuild, hshared⟩

end Sample

end LivePages.Build
