import Mathlib.Data.List.Nodup
import LivePages.Backend.Registry
import LivePages.Proofs.Build.Edits

/-!
# The Page Table of a Build

A build goes through the requests for symbols one after the other. Each adds its row to the page
table in its turn, if its page can be read then and is not only there to be included; nothing else
adds a row. A table whose paths are different answers each of them with its own page.

## Main results

* `settles_generatePage`: what the turn of a request does.
* `CompilesTo`: what the page of a request is compiled to in its turn.
* `exists_served`: every row belongs to a page that was compiled in its turn.
* `rowOf_mem_of_compilesTo`: such a page has its row, and its source is written.
* `pages_sublist`: the rows are in the order of the requests, and there are no others.
* `lookup?_ofPages`: looking up a path in a table.
-/

namespace LivePages.Backend.Registry

/-! ### Looking up -/

/-- Different paths are entered one after the other. -/
theorem pages_foldl_register {registry : Registry} {rows : List (String × Handler)}
    (h : ((registry.pages ++ rows).map (·.1)).Nodup) :
    (rows.foldl (fun registry p => registry.register p.1 p.2) registry).pages =
      registry.pages ++ rows := by
  induction rows generalizing registry with
  | nil => exact (List.append_nil _).symm
  | cons row rows ih =>
      have hnew : registry.lookup? row.1 = none := by
        rw [lookup?, Option.map_eq_none_iff, List.find?_eq_none]
        intro p hp heq
        rw [List.map_append, List.map_cons] at h
        exact (List.nodup_append.mp h).2.2 p.1 (List.mem_map_of_mem hp) row.1 List.mem_cons_self
          (eq_of_beq heq)
      have hpages : (registry.register row.1 row.2).pages = registry.pages ++ [row] := by
        simp only [register, hnew]
      rw [List.foldl_cons, ih, hpages, List.append_assoc, List.singleton_append]
      rwa [hpages, List.append_assoc, List.singleton_append]

/-- **A path is answered with its own page**, if the paths of the table are different. -/
theorem lookup?_ofPages {rows : List (String × Handler)} (h : (rows.map (·.1)).Nodup)
    {row : String × Handler} (hrow : row ∈ rows) :
    (ofPages rows).lookup? row.1 = some row.2 := by
  have hempty : ((({} : Registry).pages ++ rows).map (·.1)).Nodup := h
  have hpages : (ofPages rows).pages = rows := pages_foldl_register hempty
  rw [lookup?, hpages]
  cases hfind : rows.find? fun p => p.1 == row.1 with
  | none => exact absurd (List.find?_eq_none.mp hfind row hrow) (by simp)
  | some found =>
      have hkey : found.1 = row.1 := by simpa using List.find?_some hfind
      rw [List.inj_on_of_nodup_map h (List.mem_of_find?_eq_some hfind) hrow hkey, Option.map_some]

end LivePages.Backend.Registry

namespace LivePages.Build

open Files.Path (join)

/-! ### Rows -/

variable {config : Config} {paths : List String} {ws ws' : Workspace} {done done' : Generated}
  {r : Site.Request} {rs : List Site.Request}

/-- The row of the page table that a request asks for. -/
def rowOf (r : Site.Request) : Source.EntryPage :=
  ⟨r.symbol, Site.pageUrl r.path⟩

/-- What a page is compiled to: the text of its file, put together under the address of its
path. -/
theorem exists_load_of_compilePage {tree : Files.Tree} {webRoot path : String}
    {page : CompiledPage} {lines : List Log.Line}
    (h : compilePage tree webRoot path = .ok (page, lines)) :
    ∃ text, (Site.loader tree webRoot).load (loadName (Site.pageUrl path)) = .ok text ∧
      page = ⟨Site.pageUrl path, (Page.parse (Site.loader tree webRoot) text).parts.includeOnly,
        Source.renderHandler (Page.parse (Site.loader tree webRoot) text).parts
          (Site.pageUrl path)⟩ := by
  unfold compilePage Page.parseFile at h
  cases hload : (Site.loader tree webRoot).load (loadName (Site.pageUrl path)) with
  | error e => exact absurd h (by simp [hload, Except.map])
  | ok text =>
      simp only [hload, Except.map, Except.ok.injEq, Prod.mk.injEq] at h
      exact ⟨text, rfl, h.1.symm⟩

/-! ### What becomes of a page -/

/-- What a build makes of a page, with what it is reported on the way. -/
inductive Fate where
  /-- It is served. -/
  | served (page : CompiledPage) (notices : List Log.Line)
  /-- It is left out, for it is only there to be included. -/
  | included (page : CompiledPage) (notices : List Log.Line)
  /-- It is left out, for it cannot be read. -/
  | refused (error : Error)

namespace Fate

/-- What is made of a page that has been compiled, or has not. -/
def ofCompiled : Except Error (CompiledPage × List Log.Line) → Fate
  | .error e => .refused e
  | .ok (page, notices) => if page.includeOnly then .included page notices else .served page notices

/-- The page, if it is served. -/
def page? : Fate → Option CompiledPage
  | .served page _ => some page
  | _ => none

/-- Its row of the page table. -/
def row? (r : Site.Request) (fate : Fate) : Option Source.EntryPage :=
  fate.page?.map fun page => ⟨r.symbol, page.url⟩

/-- The address of a page that is only there to be included. -/
def skipped? : Fate → Option String
  | .included page _ => some page.url
  | _ => none

/-- What is reported. -/
def report (r : Site.Request) : Fate → List Log.Line
  | .served _ notices => notices
  | .included page notices =>
    notices ++ [Log.debug s!"{page.url} is include-only, not compiled"]
  | .refused e => [Log.warn s!"Skipping {r.path}: {e.message}"]

end Fate

/-- What is made of the page of a request, as the files are. -/
def fateOf (config : Config) (tree : Files.Tree) (r : Site.Request) : Fate :=
  .ofCompiled (compilePage tree config.webRoot r.path)

/-- What the turn of a request does. -/
structure Settles (config : Config) (r : Site.Request) (fate : Fate) (done : Generated)
    (ws : Workspace) (done' : Generated) (ws' : Workspace) : Prop where
  /-- A page that is served gets its row. -/
  pages : done'.pages = done.pages ++ (fate.row? r).toList
  /-- One that is only there to be included is noted. -/
  skipped : done'.skipped = done.skipped ++ fate.skipped?.toList
  /-- What is to be said about the page is said. -/
  log : ws'.log = ws.log ++ fate.report r
  /-- The source of a page that is served is written. -/
  written : ∀ page, fate.page? = some page → ws.tree.write
    (join config.srcDir (sourceName r.symbol)) (Text.Utf8.ofString page.source) ws.now =
      .ok ws'.tree
  /-- No other files are. -/
  kept : fate.page? = none → ws'.tree = ws.tree

/-- **The step.** The turn of a request does what is to be made of its page. -/
theorem settles_generatePage (h : (generatePage config done r).run.run ws = (.ok done', ws')) :
    Settles config r (fateOf config ws.tree r) done ws done' ws' := by
  obtain ⟨u, u', hget, hrest⟩ := run_bind_eq_ok_iff.mp h
  obtain ⟨rfl, rfl⟩ := eq_of_run_get hget
  rw [fateOf]
  cases hcompile : compilePage ws.tree config.webRoot r.path with
  | error e =>
      rw [hcompile] at hrest
      obtain ⟨_, v, hreport, hdone⟩ := run_bind_eq_ok_iff.mp hrest
      obtain ⟨rfl, rfl⟩ := eq_of_run_pure hdone
      obtain rfl := eq_of_run_report hreport
      exact ⟨(List.append_nil _).symm, (List.append_nil _).symm, rfl,
        fun page hpage => absurd hpage.symm (Option.some_ne_none page), fun _ => rfl⟩
  | ok compiled =>
      obtain ⟨page, notices⟩ := compiled
      rw [hcompile] at hrest
      obtain ⟨_, v, hreport, hpage⟩ := run_bind_eq_ok_iff.mp hrest
      obtain rfl := eq_of_run_report hreport
      cases hinclude : page.includeOnly with
      | true =>
          rw [if_pos hinclude] at hpage
          obtain ⟨_, v', hreport', hdone⟩ := run_bind_eq_ok_iff.mp hpage
          obtain ⟨rfl, rfl⟩ := eq_of_run_pure hdone
          obtain rfl := eq_of_run_report hreport'
          rw [Fate.ofCompiled, if_pos hinclude]
          exact ⟨(List.append_nil _).symm, rfl, List.append_assoc ..,
            fun page hpage => absurd hpage.symm (Option.some_ne_none page), fun _ => rfl⟩
      | false =>
          rw [if_neg (by simp [hinclude])] at hpage
          obtain ⟨_, v', hwrite, hdone⟩ := run_bind_eq_ok_iff.mp hpage
          obtain ⟨rfl, rfl⟩ := eq_of_run_pure hdone
          rw [Fate.ofCompiled, if_neg (by simp [hinclude])]
          have hlog := congrArg Workspace.log (eq_of_run_change hwrite)
          refine ⟨rfl, (List.append_nil _).symm, hlog.symm, fun page' heq => ?_, fun hnone => ?_⟩
          · obtain rfl := Option.some.inj heq
            exact tree_of_run_change hwrite
          · exact absurd hnone (Option.some_ne_none page)

/-- A page is served if it can be read and is not only there to be included. -/
theorem page?_fateOf_eq_some_iff {tree : Files.Tree} {page : CompiledPage} :
    (fateOf config tree r).page? = some page ↔
      ∃ notices, compilePage tree config.webRoot r.path = .ok (page, notices) ∧
        page.includeOnly = false := by
  rw [fateOf]
  rcases compilePage tree config.webRoot r.path with e | ⟨page', notices⟩
  · exact ⟨fun h => absurd h.symm (Option.some_ne_none page),
      fun ⟨_, h, _⟩ => absurd h (by simp)⟩
  · rw [Fate.ofCompiled]
    split
    next hinclude =>
      refine ⟨fun h => absurd h.symm (Option.some_ne_none page), ?_⟩
      rintro ⟨_, h, hserved⟩
      obtain ⟨rfl, -⟩ := Prod.mk.inj (Except.ok.inj h)
      exact absurd (hserved.symm.trans hinclude) Bool.false_ne_true
    next hserved =>
      constructor
      · rintro h
        obtain rfl := Option.some.inj h
        exact ⟨notices, rfl, by simpa using hserved⟩
      · rintro ⟨_, h, -⟩
        exact congrArg some (Prod.mk.inj (Except.ok.inj h)).1

/-- The row of a page that is served. -/
theorem row?_fateOf {tree : Files.Tree} {page : CompiledPage}
    (h : (fateOf config tree r).page? = some page) :
    (fateOf config tree r).row? r = some (rowOf r) := by
  obtain ⟨notices, hcompile, -⟩ := page?_fateOf_eq_some_iff.mp h
  obtain ⟨text, -, hpage⟩ := exists_load_of_compilePage hcompile
  rw [Fate.row?, h, Option.map_some, hpage]
  rfl

/-- The step of a page that is to be served. -/
theorem run_generatePage {page : CompiledPage} {lines : List Log.Line} {tree : Files.Tree}
    (hcompile : compilePage ws.tree config.webRoot r.path = .ok (page, lines))
    (hserved : page.includeOnly = false)
    (hwrite : ws.tree.write (join config.srcDir (sourceName r.symbol))
      (Text.Utf8.ofString page.source) ws.now = .ok tree) :
    (generatePage config done r).run.run ws =
      (.ok { done with pages := done.pages ++ [rowOf r] },
        { ws with tree, log := ws.log ++ lines }) := by
  obtain ⟨text, -, hpage⟩ := exists_load_of_compilePage hcompile
  rw [generatePage, run_bind, run_get]
  simp only [hcompile, run_bind, run_report, hserved, Bool.false_eq_true, if_false, Work.writeText]
  rw [run_change hwrite, hpage]
  rfl

/-- A request has its source written and adds its row, or neither if its page is not to be
served. -/
theorem pages_generatePage
    (h : (generatePage config done r).run.run ws = (.ok done', ws')) :
    (∃ page lines, compilePage ws.tree config.webRoot r.path = .ok (page, lines) ∧
      page.includeOnly = false ∧ done'.pages = done.pages ++ [rowOf r] ∧
      ws.tree.write (join config.srcDir (sourceName r.symbol)) (Text.Utf8.ofString page.source)
        ws.now = .ok ws'.tree) ∨
    ((∀ page lines, compilePage ws.tree config.webRoot r.path = .ok (page, lines) →
      page.includeOnly = true) ∧ done'.pages = done.pages) := by
  have hstep := settles_generatePage h
  have hpages := hstep.pages
  cases hpage : (fateOf config ws.tree r).page? with
  | none =>
      rw [Fate.row?, hpage, Option.map_none, Option.toList_none, List.append_nil] at hpages
      refine .inr ⟨fun page lines hcompile => ?_, hpages⟩
      by_contra hinclude
      have hserved := page?_fateOf_eq_some_iff.mpr ⟨lines, hcompile, by simpa using hinclude⟩
      exact absurd (hserved.symm.trans hpage) (Option.some_ne_none page)
  | some page =>
      obtain ⟨lines, hcompile, hserved⟩ := page?_fateOf_eq_some_iff.mp hpage
      rw [row?_fateOf hpage, Option.toList_some] at hpages
      exact .inl ⟨page, lines, hcompile, hserved, hpages, hstep.written page hpage⟩

/-- **The run.** The rows added are those of some of the requests, in their order, and each of
these pages was compiled in its turn and is to be served. -/
theorem pages_foldlM_generatePage
    (h : (rs.foldlM (generatePage config) done).run.run ws = (.ok done', ws')) :
    ∃ served : List Site.Request, done'.pages = done.pages ++ served.map rowOf ∧
      served.Sublist rs ∧ ∀ r ∈ served, ∃ before after done₁ turn page lines,
        rs = before ++ r :: after ∧
        (before.foldlM (generatePage config) done).run.run ws = (.ok done₁, turn) ∧
        compilePage turn.tree config.webRoot r.path = .ok (page, lines) ∧
        page.includeOnly = false := by
  induction rs generalizing done ws with
  | nil =>
      obtain ⟨rfl, -⟩ := eq_of_run_pure h
      exact ⟨[], (List.append_nil _).symm, List.Sublist.slnil, by simp⟩
  | cons r rs ih =>
      rw [List.foldlM_cons] at h
      obtain ⟨done₁, ws₁, hstep, hrest⟩ := run_bind_eq_ok_iff.mp h
      obtain ⟨served, hpages, hsub, hturns⟩ := ih hrest
      -- the turns of the other requests come after that of the first one
      have hlater : ∀ s ∈ served, ∃ before after done₂ turn page lines,
          r :: rs = before ++ s :: after ∧
          (before.foldlM (generatePage config) done).run.run ws = (.ok done₂, turn) ∧
          compilePage turn.tree config.webRoot s.path = .ok (page, lines) ∧
          page.includeOnly = false := by
        intro s hs
        obtain ⟨before, after, done₂, turn, page, lines, hsplit, hbefore, hpage⟩ := hturns s hs
        refine ⟨r :: before, after, done₂, turn, page, lines, congrArg (r :: ·) hsplit, ?_, hpage⟩
        rw [List.foldlM_cons]
        exact run_bind_eq_ok_iff.mpr ⟨done₁, ws₁, hstep, hbefore⟩
      rcases pages_generatePage hstep with
        ⟨page, lines, hcompile, hserved, hadded, -⟩ | ⟨-, hadded⟩
      · refine ⟨r :: served, ?_, hsub.cons_cons _, List.forall_mem_cons.mpr ⟨?_, hlater⟩⟩
        · rw [hpages, hadded, List.append_assoc, List.map_cons, List.singleton_append]
        · exact ⟨[], rs, done, ws, page, lines, rfl, rfl, hcompile, hserved⟩
      · exact ⟨served, by rw [hpages, hadded], hsub.cons _, hlater⟩

/-! ### Turns -/

/-- The turn of a request in a build: what the work has come to before it, and the page that the
page of the request is compiled to from the files as they are then. -/
def CompilesTo (config : Config) (paths : List String) (ws : Workspace) (r : Site.Request)
    (turn : Workspace) (page : CompiledPage) : Prop :=
  ∃ before after done lines, Site.allocate paths = before ++ r :: after ∧
    (do Work.makeDirs config.srcDir; before.foldlM (generatePage config) {}).run.run ws =
      (.ok done, turn) ∧
    compilePage turn.tree config.webRoot r.path = .ok (page, lines)

theorem CompilesTo.mem_allocate {turn : Workspace} {page : CompiledPage}
    (h : CompilesTo config paths ws r turn page) : r ∈ Site.allocate paths := by
  obtain ⟨before, after, _, _, hsplit, -⟩ := h
  rw [hsplit]
  exact List.mem_append_right before List.mem_cons_self

/-- The page is put together from the text that is loaded for it. -/
theorem CompilesTo.exists_load {turn : Workspace} {page : CompiledPage}
    (h : CompilesTo config paths ws r turn page) :
    ∃ text,
      (Site.loader turn.tree config.webRoot).load (loadName (Site.pageUrl r.path)) = .ok text ∧
      page.source = Source.renderHandler
        (Page.parse (Site.loader turn.tree config.webRoot) text).parts (Site.pageUrl r.path) := by
  obtain ⟨_, _, _, _, -, -, hcompile⟩ := h
  obtain ⟨text, hload, hpage⟩ := exists_load_of_compilePage hcompile
  exact ⟨text, hload, by rw [hpage]⟩

/-- What a build that succeeds has done after it made its directory. -/
theorem exists_run_of_generate
    (h : (generate config paths).run.run ws = (.ok done, ws')) :
    ∃ ws₀ ws₁, (Work.makeDirs config.srcDir).run.run ws = (.ok (), ws₀) ∧
      ((Site.allocate paths).foldlM (generatePage config) {}).run.run ws₀ = (.ok done, ws₁) := by
  obtain ⟨_, ws₀, hdirs, hrest⟩ := run_bind_eq_ok_iff.mp h
  obtain ⟨done₁, ws₁, hpages, hreport⟩ := run_bind_eq_ok_iff.mp hrest
  obtain ⟨_, ws₂, -, hdone⟩ := run_bind_eq_ok_iff.mp hreport
  obtain ⟨rfl, -⟩ := eq_of_run_pure hdone
  exact ⟨ws₀, ws₁, hdirs, hpages⟩

/-- A build whose requests can all have their turns. -/
theorem run_generate {opened : Workspace}
    (hdirs : (Work.makeDirs config.srcDir).run.run ws = (.ok (), opened))
    (hpages : ((Site.allocate paths).foldlM (generatePage config) {}).run.run opened =
      (.ok done, ws')) :
    (generate config paths).run.run ws =
      (.ok done, { ws' with log := ws'.log ++ [done.line] }) := by
  have hreport : (do Work.report [done.line]; return done : Work Generated).run.run ws' =
      (.ok done, { ws' with log := ws'.log ++ [done.line] }) :=
    run_bind_eq_ok_iff.mpr ⟨(), _, run_report _ _, rfl⟩
  exact run_bind_eq_ok_iff.mpr
    ⟨(), opened, hdirs, run_bind_eq_ok_iff.mpr ⟨done, ws', hpages, hreport⟩⟩

/-- **Every row belongs to a page that was compiled in its turn** and is to be served. -/
theorem exists_served (h : (generate config paths).run.run ws = (.ok done, ws')) :
    ∃ served : List Site.Request, done.pages = served.map rowOf ∧
      served.Sublist (Site.allocate paths) ∧
      ∀ r ∈ served, ∃ turn page, CompilesTo config paths ws r turn page ∧
        page.includeOnly = false := by
  obtain ⟨ws₀, ws₁, hdirs, hrun⟩ := exists_run_of_generate h
  obtain ⟨served, hpages, hsub, hturns⟩ := pages_foldlM_generatePage hrun
  refine ⟨served, hpages, hsub, fun r hr => ?_⟩
  obtain ⟨before, after, done₁, turn, page, lines, hsplit, hbefore, hcompile, hserved⟩ :=
    hturns r hr
  exact ⟨turn, page, ⟨before, after, done₁, lines, hsplit,
    run_bind_eq_ok_iff.mpr ⟨(), ws₀, hdirs, hbefore⟩, hcompile⟩, hserved⟩

/-- **The rows are in the order of the requests**, and there are no others. -/
theorem pages_sublist (h : (generate config paths).run.run ws = (.ok done, ws')) :
    done.pages.Sublist ((Site.allocate paths).map rowOf) := by
  obtain ⟨served, hpages, hsub, -⟩ := exists_served h
  rw [hpages]
  exact hsub.map rowOf

/-- **A page that is served has its row**, and the source of its symbol is written in its turn. -/
theorem rowOf_mem_of_compilesTo {turn : Workspace} {page : CompiledPage}
    (h : (generate config paths).run.run ws = (.ok done, ws'))
    (hturn : CompilesTo config paths ws r turn page) (hserved : page.includeOnly = false) :
    rowOf r ∈ done.pages ∧ ∃ tree,
      turn.tree.write (join config.srcDir (sourceName r.symbol)) (Text.Utf8.ofString page.source)
        turn.now = .ok tree := by
  obtain ⟨ws₀, ws₁, hdirs, hrun⟩ := exists_run_of_generate h
  obtain ⟨before, after, before', lines, hsplit, hbefore, hcompile⟩ := hturn
  obtain ⟨_, u, hdirs', hbefore⟩ := run_bind_eq_ok_iff.mp hbefore
  obtain rfl : ws₀ = u := (Prod.mk.inj (hdirs.symm.trans hdirs')).2
  rw [hsplit, List.foldlM_append] at hrun
  obtain ⟨done₁, ws₂, hbefore', hrest⟩ := run_bind_eq_ok_iff.mp hrun
  obtain ⟨hdone, rfl⟩ := Prod.mk.inj (hbefore.symm.trans hbefore')
  obtain rfl := Except.ok.inj hdone
  rw [List.foldlM_cons] at hrest
  obtain ⟨done₂, ws₃, hstep, hafter⟩ := run_bind_eq_ok_iff.mp hrest
  obtain ⟨served, hpages, -⟩ := pages_foldlM_generatePage hafter
  rcases pages_generatePage hstep with ⟨page', _, hcompile', -, hadded, hwrite⟩ | ⟨hskipped, -⟩
  · obtain ⟨rfl, -⟩ := Prod.mk.inj (Except.ok.inj (hcompile.symm.trans hcompile'))
    refine ⟨?_, ws₃.tree, hwrite⟩
    rw [hpages, hadded]
    simp
  · exact absurd (hskipped page lines hcompile) (by simp [hserved])

end LivePages.Build
