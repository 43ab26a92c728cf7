import LivePages.Proofs.Build.Addresses
import LivePages.Proofs.Build.Sources
import LivePages.Proofs.Source.EntryTable

/-!
# The Project That Is Handed Over

A project is assembled in a directory that nothing stood at before, from the sources of the pages
that are served. So all there is in it has been put there: a manifest, the versions of the packages,
the entry point and one link for every page, or a copy where no link can be made. The links have
different names, and each leads to the source of its own page.

## Main definitions

* `IsPart`: what a project is made of.
* `Filling`: a tree with a project in it that is being assembled.
* `Faithful`: a project that has what its entry point asks for, and nothing else.

## Main results

* `Filling.puts`, `Filling.linkOrCopy`: what the steps of the assembly put into the project.
* `Filling.assemble`: what it has in the end.
* `project_faithful`: the project of a build is faithful, and every page is accounted for.
-/

namespace LivePages.Build

open Files (Tree Place Node)
open Files.Path (isName join)
open Files.Tree (Opens Grows Proper Puts pathOf)

section

/-! ### The parts of a project -/

/-- What stands for a file elsewhere: a link to it, or a copy. -/
inductive Mirrors (place : Place) (content : List UInt8) : Node → Prop
  | link : Mirrors place content (.link (pathOf place))
  | copy {m : Files.Time} {runnable : Bool} : Mirrors place content (.file content m runnable)

/-- The names on the way to what stands for the source of a symbol. -/
def sourceWay (symbol : String) : List String :=
  ["src", "pages", sourceName symbol]

/-- What a project at a place is made of: the manifest, the versions of the packages, the entry
point, and what stands for the sources of some symbols. The sources are those of a tree in which
there was no such project. -/
inductive IsPart (config : Config) (bare : Tree) (root : Place) (entry : List UInt8)
    (linked : List String) : Place → Node → Prop
  | manifest {content : List UInt8} {m : Files.Time} {runnable : Bool} :
      IsPart config bare root entry linked (root ++ ["Cargo.toml"]) (.file content m runnable)
  | lock {content : List UInt8} {m : Files.Time} {runnable : Bool} :
      IsPart config bare root entry linked (root ++ ["Cargo.lock"]) (.file content m runnable)
  | entry {m : Files.Time} {runnable : Bool} :
      IsPart config bare root entry linked (root ++ ["src", "main.rs"]) (.file entry m runnable)
  | page {symbol : String} {content : List UInt8} {source : Place} {node : Node}
      (hlinked : symbol ∈ linked) (hsource : SourceAt config bare symbol content source)
      (h : Mirrors source content node) :
      IsPart config bare root entry linked (root ++ sourceWay symbol) node

/-- A tree in which a project is being assembled. -/
structure Filling (config : Config) (bare : Tree) (directory : String) (root : Place)
    (entry : List UInt8) (linked : List String) (tree : Tree) : Prop where
  /-- Nothing was there before. -/
  empty : ∀ way, bare.get? (root ++ way) = none
  /-- Its directory stands at its place. -/
  leads : tree.goal true directory = .ok (.found root)
  /-- All there is of it is looked for from there. -/
  opens : tree.Opens directory root
  /-- The tree has grown by parts of the project. -/
  grows : Grows (IsPart config bare root entry linked) bare tree

variable {config : Config} {bare tree tree' : Tree} {directory symbol : String}
  {root place : Place} {entry content : List UInt8} {linked linked' : List String} {node : Node}
  {way : List String} {now : Files.Time}

/-- Sources of more symbols may be there. -/
theorem IsPart.mono (h : IsPart config bare root entry linked place node)
    (hsub : linked ⊆ linked') : IsPart config bare root entry linked' place node := by
  cases h with
  | manifest => exact .manifest
  | lock => exact .lock
  | entry => exact .entry
  | page hlinked hsource h => exact .page (hsub hlinked) hsource h

/-- All that stands in the project is a directory or a part of it. -/
theorem Filling.isPart (h : Filling config bare directory root entry linked tree)
    (hnode : tree.get? (root ++ way) = some node) (hdir : node.isDirectory = false) :
    IsPart config bare root entry linked (root ++ way) node := by
  rcases h.grows.new hnode with hold | hnew | hpart
  · exact absurd (hold.symm.trans (h.empty way)) (Option.some_ne_none node)
  · exact absurd (hdir.symm.trans hnew) Bool.false_ne_true
  · exact hpart

/-- A link in the project stands for the source of a symbol. -/
theorem Filling.eq_of_link (h : Filling config bare directory root entry linked tree)
    {target : String} (hlink : tree.get? (root ++ way) = some (.link target)) :
    ∃ symbol ∈ linked, way = sourceWay symbol := by
  have hpart := h.isPart hlink rfl
  generalize hplace : root ++ way = place at hpart
  cases hpart with
  | page hlinked => exact ⟨_, hlinked, List.append_cancel_left hplace⟩

/-- What is put into a project is put where the names on its way say, if the only links there stand
for sources, and none of these is on the way. -/
theorem place_eq_of_puts (way : List String) (hopens : tree.Opens directory root)
    (hlinks : ∀ way target, tree.get? (root ++ way) = some (.link target) →
      ∃ symbol ∈ linked, way = sourceWay symbol)
    (hne : way ≠ []) (hnames : ∀ s ∈ way, isName s = true)
    (hnew : ∀ symbol ∈ linked, ¬ sourceWay symbol <+: way) {last : Bool}
    (hputs : Puts tree last (way.foldl join directory) node tree' place) :
    place = root ++ way := by
  obtain ⟨goal, hgoal, rfl⟩ := hputs.leads
  refine hopens.place_of_goal hne hnames hgoal fun w _ hway target hlink => ?_
  obtain ⟨symbol, hlinked, rfl⟩ := hlinks w target hlink
  exact hnew symbol hlinked hway

/-- **The step.** A part is put into the project. -/
theorem Filling.puts (way : List String)
    (h : Filling config bare directory root entry linked tree)
    (hne : way ≠ []) (hnames : ∀ s ∈ way, isName s = true)
    (hnew : ∀ symbol ∈ linked, ¬ sourceWay symbol <+: way) {last : Bool}
    (hputs : Puts tree last (way.foldl join directory) node tree' place)
    (hpart : IsPart config bare root entry linked' (root ++ way) node) (hsub : linked ⊆ linked') :
    Filling config bare directory root entry linked' tree' ∧
      Grows (IsPart config bare root entry linked') tree tree' ∧
      tree'.get? (root ++ way) = some node := by
  obtain rfl := place_eq_of_puts way h.opens (fun _ _ => h.eq_of_link) hne hnames hnew hputs
  have hgrows : Grows (IsPart config bare root entry linked') tree tree' := hputs.grows (.inr hpart)
  exact ⟨⟨h.empty, Files.Tree.goal_of_grows hgrows h.leads, h.opens.of_grows hgrows,
    (h.grows.mono fun _ _ hold => hold.mono hsub).trans hgrows⟩, hgrows, hputs.get?_self⟩

/-- Directories are made. -/
theorem Filling.makeDirs (h : Filling config bare directory root entry linked tree) {path : String}
    (hdirs : tree.makeDirs path now = .ok tree') :
    Filling config bare directory root entry linked tree' where
  empty := h.empty
  leads := Files.Tree.goal_of_grows (Files.Tree.grows_makeDirs (fun _ _ => False) hdirs) h.leads
  opens := h.opens.of_grows (Files.Tree.grows_makeDirs (fun _ _ => False) hdirs)
  grows := h.grows.trans (Files.Tree.grows_makeDirs _ hdirs)

/-! ### Files of a project -/

/-- A part that stands in the project. -/
def Stands (tree : Tree) (place : Place) : Prop :=
  ∃ node, tree.get? place = some node ∧ node.isDirectory = false

/-- It stays, though it may be written again. -/
theorem Stands.of_grows {own : Place → Node → Prop} (h : Stands tree place)
    (hgrows : Grows own tree tree') : Stands tree' place := by
  obtain ⟨node, hnode, hdir⟩ := h
  rcases hgrows.kept hnode with hkept | ⟨-, node', hnode', hfile, -⟩
  · exact ⟨node, hkept, hdir⟩
  · refine ⟨node', hnode', ?_⟩
    cases node' <;> simp_all [Node.isFile, Node.isDirectory]

/-- The names on the way to the source of a symbol are plain. -/
theorem isName_of_mem_sourceWay (h : isName (sourceName symbol) = true) {s : String}
    (hs : s ∈ sourceWay symbol) : isName s = true := by
  simp only [sourceWay, List.mem_cons, List.not_mem_nil, or_false] at hs
  rcases hs with rfl | rfl | rfl
  · decide
  · decide
  · exact h

/-- Each source has a way of its own. -/
theorem sourceWay_injective : Function.Injective sourceWay := by
  intro symbol symbol' h
  simp only [sourceWay, List.cons.injEq, and_true, true_and] at h
  exact Site.sourceName_injective h

/-- The source of a symbol is on the way to no other one. -/
theorem eq_of_isPrefix_sourceWay {symbol' : String} (h : sourceWay symbol' <+: sourceWay symbol) :
    symbol' = symbol :=
  sourceWay_injective (h.eq_of_length rfl)

/-- So no source is on the way to one that is not among them. -/
theorem not_isPrefix_sourceWay (h : symbol ∉ linked) :
    ∀ symbol' ∈ linked, ¬ sourceWay symbol' <+: sourceWay symbol :=
  fun _ hlinked hway => h (eq_of_isPrefix_sourceWay hway ▸ hlinked)

/-- What stood there before is no part of the project. -/
theorem Filling.not_isPart (h : Filling config bare directory root entry linked tree)
    {old : Node} (hold : bare.get? place = some old) (node : Node) :
    ¬ IsPart config bare root entry linked place node := by
  intro hpart
  cases hpart <;> exact absurd (hold.symm.trans (h.empty _)) (Option.some_ne_none old)

/-- A source stays where it is. -/
theorem Filling.exists_source {source : Place}
    (h : Filling config bare directory root entry linked tree)
    (hsource : SourceAt config bare symbol content source) :
    ∃ m runnable, tree.get? source = some (.file content m runnable) := by
  obtain ⟨m, runnable, hfile⟩ := hsource.file
  exact ⟨m, runnable, h.grows.get?_of_not_own hfile (h.not_isPart hfile)⟩

/-- What stands for the source of a symbol is put into the project. -/
theorem Filling.putSource {source : Place}
    (h : Filling config bare directory root entry linked tree)
    (hname : isName (sourceName symbol) = true)
    (hsource : SourceAt config bare symbol content source) (hsymbol : symbol ∉ linked)
    (hmirrors : Mirrors source content node) {last : Bool}
    (hputs : Puts tree last ((sourceWay symbol).foldl join directory) node tree' place) :
    Filling config bare directory root entry (linked ++ [symbol]) tree' ∧
      Grows (IsPart config bare root entry (linked ++ [symbol])) tree tree' ∧
      Stands tree' (root ++ sourceWay symbol) := by
  obtain ⟨hfilling, hgrows, hnode⟩ := Filling.puts _ h (List.cons_ne_nil _ _)
    (fun _ => isName_of_mem_sourceWay hname) (not_isPrefix_sourceWay hsymbol) hputs
    (.page (List.mem_append_right _ List.mem_cons_self) hsource hmirrors)
    (List.subset_append_left _ _)
  refine ⟨hfilling, hgrows, node, hnode, ?_⟩
  cases hmirrors <;> rfl

/-- **A file is put into a project** for the source of a symbol: a link to it or a copy. -/
theorem Filling.linkOrCopy {ws ws' : Workspace} {u : Unit} {source : Place}
    (h : Filling config bare directory root entry linked ws.tree) (hproper : bare.Proper)
    (hsource : SourceAt config bare symbol content source) (hsymbol : symbol ∉ linked)
    (hrun : (Build.linkOrCopy (join config.srcDir (sourceName symbol))
      ((sourceWay symbol).foldl join directory)).run.run ws = (.ok u, ws')) :
    Filling config bare directory root entry (linked ++ [symbol]) ws'.tree ∧
      Grows (IsPart config bare root entry (linked ++ [symbol])) ws.tree ws'.tree ∧
      Stands ws'.tree (root ++ sourceWay symbol) ∧ ws'.log = ws.log := by
  have hname := hsource.isName hproper
  obtain ⟨target, v, hlook, hrest⟩ := run_bind_eq_ok_iff.mp hrun
  obtain ⟨hresolved, rfl⟩ := eq_of_run_look hlook
  have hleads := Files.Tree.goal_of_grows h.grows hsource.leads
  obtain rfl := Except.ok.inj (hresolved.symm.trans (Files.Tree.resolved_of_goal hleads))
  obtain ⟨failure, v, hattempt, hcopy⟩ := run_bind_eq_ok_iff.mp hrest
  rw [run_attempt_change] at hattempt
  cases hlink : ws.tree.makeLink ((sourceWay symbol).foldl join directory) (pathOf source) with
  | ok tree' =>
      rw [hlink] at hattempt
      obtain ⟨hfailure, rfl⟩ := Prod.mk.inj hattempt
      obtain rfl := Except.ok.inj hfailure
      obtain ⟨-, rfl⟩ := eq_of_run_pure hcopy
      obtain ⟨place, hputs, -⟩ := Files.Tree.exists_puts_of_makeLink hlink
      obtain ⟨hfilling, hgrows, hstands⟩ := h.putSource hname hsource hsymbol .link hputs
      exact ⟨hfilling, hgrows, hstands, rfl⟩
  | error e =>
      rw [hlink] at hattempt
      obtain ⟨hfailure, rfl⟩ := Prod.mk.inj hattempt
      obtain rfl := Except.ok.inj hfailure
      obtain ⟨place, content', m', runnable', hstat, hputs⟩ :=
        Files.Tree.exists_puts_of_copy (tree_of_run_change hcopy)
      -- the path that is copied leads to the source, so this is what the copy has in it
      obtain ⟨m, runnable, hfile⟩ := h.exists_source hsource
      have hnode := (h.grows.proper hproper).eq_of_stat_pathOf hfile hsource.ne_nil (by simp) hstat
      obtain rfl := (Files.Node.file.inj hnode).1
      obtain ⟨hfilling, hgrows, hstands⟩ := h.putSource hname hsource hsymbol .copy hputs
      exact ⟨hfilling, hgrows, hstands, (congrArg Workspace.log (eq_of_run_change hcopy)).symm⟩

variable {ws ws' : Workspace} {u : Unit} {pages : List Source.EntryPage}

/-- **The run.** After the work on some pages there is something for the source of each of them. -/
theorem Filling.forM_linkOrCopy
    (h : Filling config bare directory root entry linked ws.tree) (hproper : bare.Proper)
    (hsources : ∀ page ∈ pages, ∃ content source,
      SourceAt config bare page.symbol content source)
    (hsymbols : (linked ++ pages.map (·.symbol)).Nodup)
    (hrun : (pages.forM fun page => Build.linkOrCopy
      (join config.srcDir (sourceName page.symbol))
      ((sourceWay page.symbol).foldl join directory)).run.run ws = (.ok u, ws')) :
    Filling config bare directory root entry (linked ++ pages.map (·.symbol)) ws'.tree ∧
      Grows (fun _ _ => True) ws.tree ws'.tree ∧
      (∀ page ∈ pages, Stands ws'.tree (root ++ sourceWay page.symbol)) ∧ ws'.log = ws.log := by
  induction pages generalizing linked ws with
  | nil =>
      obtain ⟨-, rfl⟩ := eq_of_run_pure hrun
      rw [List.map_nil, List.append_nil]
      exact ⟨h, .refl _ _, fun page hpage => absurd hpage List.not_mem_nil, rfl⟩
  | cons page pages ih =>
      rw [List.forM] at hrun
      obtain ⟨_, v, hfirst, hrest⟩ := run_bind_eq_ok_iff.mp hrun
      obtain ⟨content, source, hsource⟩ := hsources page List.mem_cons_self
      have hsymbol : page.symbol ∉ linked :=
        fun hmem => (List.nodup_append.mp hsymbols).2.2 _ hmem _ List.mem_cons_self rfl
      rw [List.map_cons, List.append_cons] at hsymbols ⊢
      obtain ⟨hfilling, hgrows, hstands, hlog⟩ := h.linkOrCopy hproper hsource hsymbol hfirst
      obtain ⟨hfilling', hgrows', hstands', hlog'⟩ := ih hfilling
        (fun page' hpage' => hsources page' (List.mem_cons_of_mem page hpage')) hsymbols hrest
      refine ⟨hfilling', (hgrows.mono fun _ _ _ => trivial).trans hgrows', ?_, hlog'.trans hlog⟩
      exact List.forall_mem_cons.mpr ⟨hstands.of_grows hgrows', hstands'⟩

/-- A text is written into the project. -/
theorem Filling.writeText (way : List String) {text : String}
    (h : Filling config bare directory root entry linked ws.tree) (hne : way ≠ [])
    (hnames : ∀ s ∈ way, isName s = true)
    (hnew : ∀ symbol ∈ linked, ¬ sourceWay symbol <+: way)
    (hpart : ∀ m runnable, IsPart config bare root entry linked (root ++ way)
      (.file (Text.Utf8.ofString text) m runnable))
    (hrun : (Work.writeText (way.foldl join directory) text).run.run ws = (.ok u, ws')) :
    Filling config bare directory root entry linked ws'.tree ∧
      Stands ws'.tree (root ++ way) ∧ ws'.log = ws.log := by
  obtain ⟨place, runnable, hputs⟩ :=
    Files.Tree.exists_puts_of_write (tree_of_run_change hrun)
  obtain ⟨hfilling, -, hnode⟩ :=
    Filling.puts way h hne hnames hnew hputs (hpart ws.now runnable) (List.Subset.refl _)
  exact ⟨hfilling, ⟨_, hnode, rfl⟩, (congrArg Workspace.log (eq_of_run_change hrun)).symm⟩

/-- **A project is assembled**: it has its entry point, and something for the source of every
page. -/
theorem Filling.assemble
    (h : Filling config bare directory root (Text.Utf8.ofString (Source.renderEntry pages)) []
      ws.tree) (hproper : bare.Proper)
    (hsources : ∀ page ∈ pages, ∃ content source,
      SourceAt config bare page.symbol content source)
    (hsymbols : (pages.map (·.symbol)).Nodup)
    (hrun : (Build.assemble config directory pages).run.run ws = (.ok u, ws')) :
    Filling config bare directory root (Text.Utf8.ofString (Source.renderEntry pages))
      (pages.map (·.symbol)) ws'.tree ∧
      Stands ws'.tree (root ++ ["src", "main.rs"]) ∧
      (∀ page ∈ pages, Stands ws'.tree (root ++ sourceWay page.symbol)) ∧ ws'.log = ws.log := by
  obtain ⟨_, ws₁, hdirs, hrun⟩ := run_bind_eq_ok_iff.mp hrun
  obtain ⟨_, ws₂, hmanifest, hrun⟩ := run_bind_eq_ok_iff.mp hrun
  obtain ⟨_, ws₃, hentry, hrun⟩ := run_bind_eq_ok_iff.mp hrun
  obtain ⟨v, ws₄, hget, hrun⟩ := run_bind_eq_ok_iff.mp hrun
  obtain ⟨rfl, rfl⟩ := eq_of_run_get hget
  have hlog₁ := congrArg Workspace.log (eq_of_run_change hdirs)
  have hfilling₁ := h.makeDirs (tree_of_run_change hdirs)
  obtain ⟨hfilling₂, -, hlog₂⟩ := Filling.writeText ["Cargo.toml"] hfilling₁ (by simp) (by decide)
    (by simp) (fun _ _ => .manifest) hmanifest
  obtain ⟨hfilling₃, hstands, hlog₃⟩ := Filling.writeText ["src", "main.rs"] hfilling₂ (by simp)
    (by decide) (by simp) (fun _ _ => .entry) hentry
  have hlog : ws₃.log = ws.log := hlog₃.trans (hlog₂.trans hlog₁.symm)
  -- the pages come last, whether or not there are versions to be copied
  have hpages {v : Workspace}
      (hfilling : Filling config bare directory root
        (Text.Utf8.ofString (Source.renderEntry pages)) [] v.tree)
      (hgrows : Grows (fun _ _ => True) ws₃.tree v.tree) (hlog' : v.log = ws₃.log)
      (hrun : (pages.forM fun page => Build.linkOrCopy
        (join config.srcDir (sourceName page.symbol))
        ((sourceWay page.symbol).foldl join directory)).run.run v = (.ok u, ws')) :
      Filling config bare directory root (Text.Utf8.ofString (Source.renderEntry pages))
        (pages.map (·.symbol)) ws'.tree ∧
        Stands ws'.tree (root ++ ["src", "main.rs"]) ∧
        (∀ page ∈ pages, Stands ws'.tree (root ++ sourceWay page.symbol)) ∧
        ws'.log = ws.log := by
    obtain ⟨hfilling', hgrows', hstands', hlog''⟩ :=
      hfilling.forM_linkOrCopy hproper hsources hsymbols hrun
    exact ⟨hfilling', hstands.of_grows (hgrows.trans hgrows'), hstands',
      hlog''.trans (hlog'.trans hlog)⟩
  split at hrun
  · obtain ⟨_, ws₅, hcopy, hrun⟩ := run_bind_eq_ok_iff.mp hrun
    obtain ⟨place, content, m, runnable, -, hputs⟩ :=
      Files.Tree.exists_puts_of_copy (tree_of_run_change hcopy)
    obtain ⟨hfilling₄, hgrows, -⟩ := Filling.puts ["Cargo.lock"] hfilling₃ (by simp) (by decide)
      (by simp) hputs .lock (List.Subset.refl _)
    exact hpages hfilling₄ (hgrows.mono fun _ _ _ => trivial)
      (congrArg Workspace.log (eq_of_run_change hcopy)).symm hrun
  · exact hpages hfilling₃ (.refl _ _) rfl hrun

/-! ### The directory of a project -/

/-- **A project begins empty**, in a directory that has just been made. -/
theorem filling_of_makeDir {name : String} (hproper : bare.Proper) (hname : isName name = true)
    (hmake : bare.makeDir (join directory name) now = .ok tree) :
    ∃ root, bare.EntryAt (join directory name) root ∧
      ∀ entry, Filling config bare (join directory name) root entry [] tree := by
  obtain ⟨root, hentry, hputs, ⟨-, -, -, -, -, -, -, hnone⟩, hopens⟩ :=
    Files.Tree.opens_of_makeDir hmake hname
  exact ⟨root, hentry, fun entry => ⟨hproper.get?_append_eq_none hnone,
    hopens.goal_eq hname hentry.legal, hopens, hputs.grows (.inl rfl)⟩⟩

/-- The directory of a project is made, once the directory that it is made in is there. -/
theorem exists_filling_of_openProject (hproper : ws.tree.Proper)
    (hrun : (openProject config).run.run ws = (.ok directory, ws')) :
    ∃ bare root, Grows (fun _ _ => False) ws.tree bare ∧ bare.EntryAt directory root ∧
      (∀ entry, Filling config bare directory root entry [] ws'.tree) ∧ ws'.log = ws.log := by
  have hmade {v : Workspace} (hgrows : Grows (fun _ _ => False) ws.tree v.tree)
      (hlog : v.log = ws.log)
      (hrun : (do
        let path := freshPath v.tree (config.tmpDir.getD systemTemporary)
        Work.change fun tree now => tree.makeDir path now
        return path : Work String).run.run v = (.ok directory, ws')) :
      ∃ bare root, Grows (fun _ _ => False) ws.tree bare ∧ bare.EntryAt directory root ∧
        (∀ entry, Filling config bare directory root entry [] ws'.tree) ∧ ws'.log = ws.log := by
    obtain ⟨_, v', hmake, hend⟩ := run_bind_eq_ok_iff.mp hrun
    obtain ⟨hpath, rfl⟩ := eq_of_run_pure hend
    obtain ⟨n, hn⟩ := isProjectPath_freshPath config v.tree
    have hname : isName ("rsp_" ++ toString n) = true :=
      Files.Path.isName_numbered (c := 'r') (by decide) (by decide) (by decide) n
    have hdirectory : directory =
        join (config.tmpDir.getD systemTemporary) ("rsp_" ++ toString n) := hpath.symm.trans hn
    have hdir := tree_of_run_change hmake
    rw [hpath, hdirectory] at hdir
    obtain ⟨root, hentry, hfilling⟩ := filling_of_makeDir (hgrows.proper hproper) hname hdir
    rw [hdirectory]
    exact ⟨v.tree, root, hgrows, hentry, hfilling,
      (congrArg Workspace.log (eq_of_run_change hmake)).symm.trans hlog⟩
  rw [openProject] at hrun
  split at hrun
  · obtain ⟨_, v, hdirs, hrest⟩ := run_bind_eq_ok_iff.mp hrun
    obtain ⟨u, v', hget, hlast⟩ := run_bind_eq_ok_iff.mp hrest
    obtain ⟨rfl, rfl⟩ := eq_of_run_get hget
    exact hmade (Files.Tree.grows_makeDirs _ (tree_of_run_change hdirs))
      (congrArg Workspace.log (eq_of_run_change hdirs)).symm hlast
  · obtain ⟨u, v', hget, hlast⟩ := run_bind_eq_ok_iff.mp hrun
    obtain ⟨rfl, rfl⟩ := eq_of_run_get hget
    exact hmade (.refl _ _) rfl hlast

/-! ### What the entry point asks for -/

/-- What stands for the source of a symbol. -/
theorem Filling.mirrors {source : Place}
    (h : Filling config bare directory root entry linked tree)
    (hsource : SourceAt config bare symbol content source)
    (hnode : tree.get? (root ++ sourceWay symbol) = some node)
    (hdir : node.isDirectory = false) : Mirrors source content node := by
  have hpart := h.isPart hnode hdir
  generalize hplace : root ++ sourceWay symbol = place at hpart
  cases hpart with
  | manifest | lock | entry =>
      exact absurd (List.append_cancel_left hplace) (by simp [sourceWay])
  | page hlinked hsource' hmirrors =>
      obtain rfl := sourceWay_injective (List.append_cancel_left hplace)
      obtain ⟨rfl, rfl⟩ := hsource.unique hsource'
      exact hmirrors

/-- The name of a source after the directory of the sources, as the entry point writes it. -/
theorem join_pages {name : String} (hname : isName name = true) :
    join "pages" name = "pages/" ++ name := by
  rw [join, Files.Path.isAbsolute_of_isName hname, if_neg Bool.false_ne_true, if_neg (by decide)]
  rfl

/-- Such a path may be followed. -/
theorem isLegal_pages {name : String} (hnul : '\x00' ∉ name.toList)
    (hfits : ¬ name.utf8ByteSize > Files.Tree.nameLimit) :
    Files.Tree.IsLegal ("pages/" ++ name) := by
  have hsize : ("pages/" ++ name).utf8ByteSize = 6 + name.utf8ByteSize :=
    String.utf8ByteSize_append
  constructor
  · rw [String.toList_append, List.contains_iff_mem, List.mem_append]
    exact fun hmem => hmem.elim (by decide) hnul
  · intro hempty
    rw [hempty, String.utf8ByteSize_empty] at hsize
    omega
  · unfold Files.Tree.nameLimit at hfits
    unfold Files.Tree.pathLimit
    omega

/-- **What stands for a source leads to it**: a link is followed to the source, a copy is found in
its place. -/
theorem leadsTo_of_mirrors {source parent : Place} {name : String} {m m' : Files.Time}
    {runnable : Bool} (hproper : tree.Proper) (hmirrors : Mirrors source content node)
    (hsource : source ≠ []) (hfile : tree.get? source = some (.file content m runnable))
    (hdir : tree.get? parent = some (.directory m'))
    (hnode : tree.get? (parent ++ [name]) = some node) :
    ∃ place, tree.LeadsTo true (39 + 1) parent [name] (.found place) ∧
      ∃ m runnable, tree.get? place = some (.file content m runnable) := by
  have hs := Files.Tree.isStep_of_isName (hproper.plain hnode) (hproper.fits hnode)
  cases hmirrors with
  | copy => exact ⟨_, .enter hdir hs hnode (by simp) .done, _, _, hnode⟩
  | link =>
      refine ⟨source, .hop (.inr rfl) hdir hs hnode ?_, m, runnable, hfile⟩
      rw [if_pos (Files.Tree.isAbsolute_pathOf source), List.append_nil,
        Files.Tree.steps_pathOf hsource fun s hs => hproper.isName_of_mem hfile hs]
      exact (hproper.leadsTo_self hfile (by simp)).mono (Nat.zero_le _)

/-- **The path of a source leads to it**, looked at from the directory of the entry point. -/
theorem Filling.read_source {source : Place}
    (h : Filling config bare directory root entry linked tree) (hproper : bare.Proper)
    (hsource : SourceAt config bare symbol content source)
    (hstands : Stands tree (root ++ sourceWay symbol)) :
    ({ tree with here := root ++ ["src"] }).read ("pages/" ++ sourceName symbol) =
      .ok content := by
  obtain ⟨node, hnode, hnotdir⟩ := hstands
  have hmirrors := h.mirrors hsource hnode hnotdir
  have hway : root ++ sourceWay symbol = root ++ ["src"] ++ ["pages"] ++ [sourceName symbol] := by
    simp [sourceWay]
  rw [hway] at hnode
  obtain ⟨m, runnable, hfile⟩ := h.exists_source hsource
  let inside : Tree := { tree with here := root ++ ["src"] }
  have hinside : inside.Proper :=
    have htree := h.grows.proper hproper
    ⟨htree.directory, htree.plain, htree.fits⟩
  have hchild : inside.get? (root ++ ["src"] ++ ["pages"] ++ [sourceName symbol]) = some node :=
    hnode
  obtain ⟨m₂, hpages⟩ := hinside.directory hchild
  obtain ⟨m₁, hsrc⟩ := hinside.directory hpages
  have hname := hinside.plain hchild
  obtain ⟨place, hwalk, m', runnable', hcontent⟩ :=
    leadsTo_of_mirrors hinside hmirrors hsource.ne_nil hfile hpages hchild
  rw [← join_pages hname]
  refine Files.Tree.read_of_goal (Files.Tree.goal_eq_ok_iff.mpr ⟨?_, ?_⟩) hcontent
  · rw [join_pages hname]
    exact isLegal_pages ((Files.Tree.goal_eq_ok_iff.mp hsource.leads).1.nul_notMem hname)
      (hinside.fits hchild)
  · rw [Files.Tree.steps_join "pages" hname, Files.Tree.start_join _ "pages" hname]
    have hs := Files.Tree.isStep_of_isName (hinside.plain hpages) (hinside.fits hpages)
    exact .enter hsrc hs hpages (by simp) hwalk

/-! ### Faithful projects -/

variable {paths : List String} {executable : String} {project : Project} {found : Site.Scan}
  {done : Generated}

/-- **The project of some pages is put together** from their sources. -/
theorem exists_filling_of_openAssembled (hproper : ws.tree.Proper)
    (hsources : ∀ page ∈ done.pages, ∃ content source,
      SourceAt config ws.tree page.symbol content source)
    (hsymbols : (done.pages.map (·.symbol)).Nodup)
    (hrun : (openAssembled config done executable).run.run ws = (.ok project, ws')) :
    ∃ bare root, Grows (fun _ _ => False) ws.tree bare ∧
      Filling config bare project.directory root
        (Text.Utf8.ofString (Source.renderEntry done.pages)) (done.pages.map (·.symbol)) ws'.tree ∧
      Stands ws'.tree (root ++ ["src", "main.rs"]) ∧
      (∀ page ∈ done.pages, Stands ws'.tree (root ++ sourceWay page.symbol)) ∧
      project.pages = done.pages ∧ project.skipped = done.skipped ∧ ws'.log = ws.log := by
  obtain ⟨directory, ws₁, hopen, hrest⟩ := run_bind_eq_ok_iff.mp hrun
  obtain ⟨_, ws₂, hfill, hend⟩ := run_bind_eq_ok_iff.mp hrest
  obtain ⟨rfl, rfl⟩ := eq_of_run_pure hend
  obtain ⟨_, ws₃, hassemble, hparent⟩ := run_bind_eq_ok_iff.mp (run_of_run_onFailure hfill)
  obtain ⟨bare, root, hgrows, -, hfilling, hlog⟩ := exists_filling_of_openProject hproper hopen
  have hsources' : ∀ page ∈ done.pages, ∃ content source,
      SourceAt config bare page.symbol content source := by
    intro page hpage
    obtain ⟨content, source, hsource⟩ := hsources page hpage
    exact ⟨content, source, hsource.of_grows hgrows fun _ => id⟩
  obtain ⟨hfilling', hentry, hpages, hlog'⟩ := (hfilling _).assemble (hgrows.proper hproper)
    hsources' hsymbols hassemble
  refine ⟨bare, root, hgrows, ?_⟩
  split at hparent
  · have hdirs := tree_of_run_change hparent
    have hgrows' := Files.Tree.grows_makeDirs (fun _ _ => False) hdirs
    exact ⟨hfilling'.makeDirs hdirs, hentry.of_grows hgrows',
      fun page hpage => (hpages page hpage).of_grows hgrows', rfl, rfl,
      (congrArg Workspace.log (eq_of_run_change hparent)).symm.trans (hlog'.trans hlog)⟩
  · obtain ⟨-, rfl⟩ := eq_of_run_pure hparent
    exact ⟨hfilling', hentry, hpages, rfl, rfl, hlog'.trans hlog⟩

/-- Every request has one fate, and this decides what is said of its page: it has a row, or is noted
as one that is only there to be included, or is reported as one that is skipped. -/
structure Accounted (config : Config) (site : Tree) (requests : List Site.Request)
    (log : List Log.Line) (done : Generated) (log' : List Log.Line) : Prop where
  /-- The pages that are served. -/
  pages : done.pages = requests.filterMap fun r => (fateOf config site r).row? r
  /-- The pages that are only there to be included. -/
  skipped : done.skipped = requests.filterMap fun r => (fateOf config site r).skipped?
  /-- What is reported, with one line for each page that cannot be read. -/
  log : log' = log ++ (requests.flatMap fun r => (fateOf config site r).report r) ++
    [done.line]

/-- A project whose entry point has a text: every module that the text declares is there, with the
source that its page is compiled to, its address is registered with this module, and there are no
other sources. -/
structure Faithful (config : Config) (site : Tree) (requests : List Site.Request)
    (pages : List Source.EntryPage) (tree : Tree) (root : Place) (text : String) : Prop where
  /-- The entry point has the text. -/
  entry : ∃ m runnable, tree.get? (root ++ ["src", "main.rs"]) =
    some (.file (Text.Utf8.ofString text) m runnable)
  /-- There is one source for every page. -/
  files : ∀ name, Stands tree (root ++ ["src", "pages", name]) ↔
    name ∈ pages.map fun page => sourceName page.symbol
  /-- No two pages have one source. -/
  apart : (pages.map fun page => sourceName page.symbol).Nodup
  /-- The page at a position is declared, and its source is what one of the requests is for. -/
  page : ∀ k page, pages[k]? = some page → Source.Declares text pages.length k page ∧
    ∃ r ∈ requests, ∃ compiled notices,
      compilePage site config.webRoot r.path = .ok (compiled, notices) ∧
      compiled.includeOnly = false ∧ page = ⟨r.symbol, compiled.url⟩ ∧
      ({ tree with here := root ++ ["src"] }).read ("pages/" ++ page.symbol ++ ".rs") =
        .ok (Text.Utf8.ofString compiled.source)

/-- A row belongs to a page that is served. -/
theorem exists_page_of_row? {site : Tree} {r : Site.Request} {row : Source.EntryPage}
    (h : (fateOf config site r).row? r = some row) :
    ∃ page, (fateOf config site r).page? = some page ∧ row = ⟨r.symbol, page.url⟩ := by
  obtain ⟨page, hpage, rfl⟩ := Option.map_eq_some_iff.mp h
  exact ⟨page, hpage, rfl⟩

/-- The entry point of a project that has been put together. -/
theorem Filling.exists_entry (h : Filling config bare directory root entry linked tree)
    (hstands : Stands tree (root ++ ["src", "main.rs"])) :
    ∃ m runnable, tree.get? (root ++ ["src", "main.rs"]) = some (.file entry m runnable) := by
  obtain ⟨node, hnode, hdir⟩ := hstands
  have hpart := h.isPart hnode hdir
  generalize hplace : root ++ ["src", "main.rs"] = place at hpart hnode
  cases hpart with
  | entry => exact ⟨_, _, hnode⟩
  | manifest | lock | page => exact absurd (List.append_cancel_left hplace) (by simp [sourceWay])

/-- There are no other sources than those of its symbols. -/
theorem Filling.mem_linked (h : Filling config bare directory root entry linked tree)
    {name : String} (hstands : Stands tree (root ++ ["src", "pages", name])) :
    ∃ symbol ∈ linked, name = sourceName symbol := by
  obtain ⟨node, hnode, hdir⟩ := hstands
  have hpart := h.isPart hnode hdir
  generalize hplace : root ++ ["src", "pages", name] = place at hpart
  cases hpart with
  | manifest | lock | entry => exact absurd (List.append_cancel_left hplace) (by simp)
  | page hlinked =>
      have hway := List.append_cancel_left hplace
      simp only [sourceWay, List.cons.injEq, and_true, true_and] at hway
      exact ⟨_, hlinked, hway⟩

/-- **A project is faithful** if the sources of its pages are those that the pages of some requests
are compiled to. -/
theorem Filling.faithful {site : Tree} {requests : List Site.Request}
    (h : Filling config bare directory root (Text.Utf8.ofString (Source.renderEntry pages))
      (pages.map (·.symbol)) tree) (hproper : bare.Proper)
    (hsymbols : (pages.map (·.symbol)).Nodup)
    (hentry : Stands tree (root ++ ["src", "main.rs"]))
    (hstands : ∀ page ∈ pages, Stands tree (root ++ sourceWay page.symbol))
    (hpages : ∀ page ∈ pages, ∃ r ∈ requests, ∃ compiled,
      (fateOf config site r).page? = some compiled ∧ page = ⟨r.symbol, compiled.url⟩ ∧
      HasSource config bare r.symbol compiled.source) :
    Faithful config site requests pages tree root (Source.renderEntry pages) where
  entry := h.exists_entry hentry
  files := by
    intro name
    rw [List.mem_map]
    constructor
    · intro hname
      obtain ⟨symbol, hlinked, rfl⟩ := h.mem_linked hname
      obtain ⟨page, hpage, rfl⟩ := List.mem_map.mp hlinked
      exact ⟨page, hpage, rfl⟩
    · rintro ⟨page, hpage, rfl⟩
      exact hstands page hpage
  apart := by
    have hmap : (pages.map fun page => sourceName page.symbol) =
        (pages.map (·.symbol)).map sourceName := by
      rw [List.map_map]
      rfl
    rw [hmap]
    exact hsymbols.map Site.sourceName_injective
  page := by
    intro k page hk
    have hpage := List.mem_of_getElem? hk
    obtain ⟨r, hr, compiled, hserved, rfl, source, hsource⟩ := hpages page hpage
    obtain ⟨notices, hcompile, hinclude⟩ := page?_fateOf_eq_some_iff.mp hserved
    refine ⟨Source.declares_renderEntry hk, r, hr, compiled, notices, hcompile, hinclude, rfl, ?_⟩
    have hread := h.read_source hproper hsource (hstands _ hpage)
    rw [sourceName, ← String.append_assoc] at hread
    exact hread

/-- The requests have different symbols, and each makes a plain name. -/
theorem isName_sourceName_of_mem_allocate {r : Site.Request} (hr : r ∈ Site.allocate paths) :
    isName (sourceName r.symbol) = true :=
  Site.isName_sourceName ((Site.isTable_allocate paths).2.flat r hr).1

/-- **The sources of a build** are there when all pages have had their turns, and every page is
accounted for. -/
theorem sourced_of_generate (hproper : ws.tree.Proper)
    (hlinks : ∀ opened, (Work.makeDirs config.srcDir).run.run ws = (.ok (), opened) →
      NoLinks config opened.tree (Site.allocate paths))
    (hsite : ∀ opened, (Work.makeDirs config.srcDir).run.run ws = (.ok (), opened) →
      Undisturbed config ws.tree (Site.allocate paths) {} opened)
    (h : (generate config paths).run.run ws = (.ok done, ws')) :
    Accounted config ws.tree (Site.allocate paths) ws.log done ws'.log ∧
      ws'.tree.Proper ∧
      ∀ page ∈ done.pages, ∃ r ∈ Site.allocate paths, ∃ compiled,
        (fateOf config ws.tree r).page? = some compiled ∧ page = ⟨r.symbol, compiled.url⟩ ∧
        HasSource config ws'.tree r.symbol compiled.source := by
  obtain ⟨_, opened, hdirs, hrest⟩ := run_bind_eq_ok_iff.mp h
  obtain ⟨done', ws₁, hpages, hrest'⟩ := run_bind_eq_ok_iff.mp hrest
  obtain ⟨_, ws₂, hreport, hend⟩ := run_bind_eq_ok_iff.mp hrest'
  obtain ⟨rfl, rfl⟩ := eq_of_run_pure hend
  obtain rfl := eq_of_run_report hreport
  have hopened : opened.tree.Proper :=
    (Files.Tree.grows_makeDirs (fun _ _ => False) (tree_of_run_change hdirs)).proper hproper
  have hlog : opened.log = ws.log := (congrArg Workspace.log (eq_of_run_change hdirs)).symm
  have haccount := account_foldlM (hsite opened hdirs) hpages
  have hsourced := sourced_foldlM hopened (hlinks opened hdirs)
    (fun r hr => isName_sourceName_of_mem_allocate hr) (Site.isTable_allocate paths).2.injective
    (hsite opened hdirs) hpages
  refine ⟨⟨haccount.pages, haccount.skipped, ?_⟩, hsourced.grows.proper hopened, ?_⟩
  · rw [← hlog, ← haccount.log]
  · intro page hpage
    have hmem : page ∈ [] ++ _ := haccount.pages ▸ hpage
    obtain ⟨r, hr, hrow⟩ := List.mem_filterMap.mp hmem
    obtain ⟨compiled, hserved, rfl⟩ := exists_page_of_row? hrow
    exact ⟨r, hr, compiled, hserved, rfl, hsourced.source r hr compiled hserved⟩

/-- **The assembled project is closed and faithful.** Whatever pages a scan has found, and whatever
files there are in the directory of the sources before the build, if no link stands in the way of a
source and the pages do not change during the build: every page that has been found has one request
for a symbol, and becomes a row of the table, or is noted as one that is only there to be included,
or is reported as skipped. What the toolchain is given then has one source for each row and no
others; the module that the entry point declares for a row has the source that the page of the row
is compiled to; and the address of this page is registered with this module. -/
theorem project_faithful (hscan : Site.scan ws.tree config.webRoot = .ok found)
    (hproper : ws.tree.Proper)
    (hlinks : ∀ opened, (Work.makeDirs config.srcDir).run.run ws = (.ok (), opened) →
      NoLinks config opened.tree (Site.allocate (found.pages.map (·.path))))
    (hsite : ∀ opened, (Work.makeDirs config.srcDir).run.run ws = (.ok (), opened) →
      Undisturbed config ws.tree (Site.allocate (found.pages.map (·.path))) {} opened)
    (h : (prepare config (found.pages.map (·.path)) executable).run.run ws =
      (.ok project, ws')) :
    (∀ toolchain,
      (build config toolchain (found.pages.map (·.path)) executable).run.run ws =
        (finish config toolchain project executable).run.run ws') ∧
    ((Site.allocate (found.pages.map (·.path))).map (·.path)).Perm (found.pages.map (·.path)) ∧
    Accounted config ws.tree (Site.allocate (found.pages.map (·.path))) ws.log
      ⟨project.pages, project.skipped⟩ ws'.log ∧
    ∃ root text, ws'.tree.place project.directory = .ok root ∧
      Faithful config ws.tree (Site.allocate (found.pages.map (·.path))) project.pages ws'.tree
        root text := by
  obtain ⟨done, ws₁, hgenerate, hopen⟩ := run_bind_eq_ok_iff.mp h
  obtain ⟨haccounted, hproper₁, hpages⟩ := sourced_of_generate hproper hlinks hsite hgenerate
  have hsymbols : (done.pages.map (·.symbol)).Nodup := by
    have hsub := (pages_sublist hgenerate).map (·.symbol)
    rw [List.map_map] at hsub
    exact hsub.nodup (Site.isTable_allocate _).2.injective
  have hsources : ∀ page ∈ done.pages, ∃ content source,
      SourceAt config ws₁.tree page.symbol content source := by
    intro page hpage
    obtain ⟨r, -, compiled, -, rfl, source, hsource⟩ := hpages page hpage
    exact ⟨_, source, hsource⟩
  obtain ⟨bare, root, hgrows, hfilling, hentry, hstands, hrows, hskipped, hlog⟩ :=
    exists_filling_of_openAssembled hproper₁ hsources hsymbols hopen
  have hpages' : ∀ page ∈ done.pages,
      ∃ r ∈ Site.allocate (found.pages.map (·.path)), ∃ compiled,
        (fateOf config ws.tree r).page? = some compiled ∧ page = ⟨r.symbol, compiled.url⟩ ∧
        HasSource config bare r.symbol compiled.source := by
    intro page hpage
    obtain ⟨r, hr, compiled, hserved, hrow, source, hsource⟩ := hpages page hpage
    exact ⟨r, hr, compiled, hserved, hrow, source, hsource.of_grows hgrows fun _ => id⟩
  refine ⟨fun toolchain => ?_, Site.path_allocate_perm_of_scan hscan, ?_, root,
    Source.renderEntry done.pages, Files.Tree.place_eq_of_goal hfilling.leads, ?_⟩
  · rw [build, run_bind, h]
  · rw [hrows, hskipped, hlog]
    exact haccounted
  · rw [hrows]
    exact hfilling.faithful (hgrows.proper hproper₁) hsymbols hentry hstands hpages'

end

namespace Sample

/-- A site with one page, for which there is an older source, and the source of another page that
is no longer there. -/
def stale : Tree :=
  { nodes := [(["tmp"], .directory 1), (["web"], .directory 1), (["src"], .directory 1),
      (["src", "c.rsp.rs"], .file (Text.Utf8.ofString "old") 1 false),
      (["src", "d.rsp.rs"], .file (Text.Utf8.ofString "old") 1 false),
      (["web", "c.rsp"], .file (Text.Utf8.ofString "one") 2 false)] }

/-- The request for the page. -/
def only : Site.Request :=
  ⟨"c.rsp", "c.rsp"⟩

/-- The page table. -/
def single : Generated :=
  ⟨[rowOf only], []⟩

/-- What the page is compiled to. -/
def compiled : CompiledPage :=
  ⟨"/c.rsp", false, Source.renderHandler { fragments := [.literal "one"] } "/c.rsp"⟩

theorem allocate_only : Site.allocate ["c.rsp"] = [only] := by
  decide +kernel

section

variable {tree written : Tree}

theorem compilePage_only
    (htext : (Site.loader tree config.webRoot).load (loadName (Site.pageUrl "c.rsp")) = .ok "one") :
    compilePage tree config.webRoot "c.rsp" = .ok (compiled, []) := by
  have hruns : (Source.textRuns "one").map Page.Fragment.literal = [.literal "one"] := by
    decide +kernel
  have hurl : Site.pageUrl "c.rsp" = "/c.rsp" := by decide +kernel
  rw [compilePage_of_isStatic htext (by decide +kernel), hruns, hurl]
  rfl

/-- The source of the page is written, if the directory of the sources is there. -/
theorem run_generate_only
    (htext : (Site.loader tree config.webRoot).load (loadName (Site.pageUrl "c.rsp")) = .ok "one")
    (hdirs : (Work.makeDirs config.srcDir).run.run ⟨tree, 5, []⟩ = (.ok (), ⟨tree, 5, []⟩))
    (hwritten : tree.write (join config.srcDir (sourceName "c.rsp"))
      (Text.Utf8.ofString compiled.source) 5 = .ok written) :
    (generate config ["c.rsp"]).run.run ⟨tree, 5, []⟩ =
      (.ok single, ⟨written, 5, [single.line]⟩) := by
  have hpage : (generatePage config {} only).run.run ⟨tree, 5, []⟩ =
      (.ok single, ⟨written, 5, []⟩) :=
    run_generatePage (compilePage_only htext) rfl hwritten
  have hrun : ((Site.allocate ["c.rsp"]).foldlM (generatePage config) {}).run.run ⟨tree, 5, []⟩ =
      (.ok single, ⟨written, 5, []⟩) := by
    rw [allocate_only]
    exact run_bind_eq_ok_iff.mpr ⟨_, _, hpage, rfl⟩
  exact run_generate hdirs hrun

end

/-- The directory of the sources is there. -/
theorem makeDirs_stale : (Work.makeDirs config.srcDir).run.run ⟨stale, 5, []⟩ =
    (.ok (), ⟨stale, 5, []⟩) :=
  run_change (f := fun tree now => tree.makeDirs config.srcDir now)
    (eq_ok_of_mem_toOption (by decide +kernel))

/-- The project of the page is assembled. -/
theorem exists_prepared : ∃ project ws',
    (prepare config ["c.rsp"] "exe/backend-0").run.run ⟨stale, 5, []⟩ = (.ok project, ws') ∧
      project.pages = single.pages := by
  obtain ⟨written, hwritten, project, hproject, hpages⟩ :
      ∃ written ∈ (stale.write (join config.srcDir (sourceName "c.rsp"))
          (Text.Utf8.ofString compiled.source) 5).toOption,
        ∃ project ∈ ((openAssembled config single "exe/backend-0").run.run
          ⟨written, 5, [single.line]⟩).1.toOption, project.pages = single.pages := by
    decide +kernel
  have hgenerate := run_generate_only (eq_ok_of_mem_toOption (by decide +kernel)) makeDirs_stale
    (eq_ok_of_mem_toOption hwritten)
  exact ⟨project, _, run_bind_eq_ok_iff.mpr
    ⟨single, _, hgenerate, eq_mk_of_mem_toOption hproject⟩, hpages⟩

end Sample

/-- The page is served from its new source, and the other old one is left out. -/
theorem project_faithful_stale : ∃ found project ws' root text,
    Site.scan Sample.stale Sample.config.webRoot = .ok found ∧
      found.pages.map (·.path) = ["c.rsp"] ∧
      (prepare Sample.config (found.pages.map (·.path)) "exe/backend-0").run.run
        ⟨Sample.stale, 5, []⟩ = (.ok project, ws') ∧
      project.pages = [rowOf Sample.only] ∧
      Faithful Sample.config Sample.stale [Sample.only] project.pages ws'.tree root text := by
  obtain ⟨found, hscan, hpaths⟩ :
      ∃ found ∈ (Site.scan Sample.stale Sample.config.webRoot).toOption,
        found.pages.map (·.path) = ["c.rsp"] := by
    decide +kernel
  obtain ⟨project, ws', hprepare, hpages⟩ := Sample.exists_prepared
  have hopened {opened : Workspace} (h : (Work.makeDirs Sample.config.srcDir).run.run
      ⟨Sample.stale, 5, []⟩ = (.ok (), opened)) : ⟨Sample.stale, 5, []⟩ = opened :=
    (Prod.mk.inj (Sample.makeDirs_stale.symm.trans h)).2
  have hnodes : ∀ p ∈ Sample.stale.nodes, p.2.isFile = true ∨ p.2.isDirectory = true := by
    decide
  rw [← hpaths] at hprepare
  obtain ⟨-, -, -, root, text, -, hfaithful⟩ := project_faithful (eq_ok_of_mem_toOption hscan)
    (.of_nodes (by decide +kernel))
    (fun opened h => by
      obtain rfl := hopened h
      exact noLinks_of_nodes hnodes _)
    (fun opened h => by
      obtain rfl := hopened h
      rw [hpaths, Sample.allocate_only]
      refine undisturbed_of_loader fun r turn hturn => ?_
      -- the only turn comes before anything has been written
      obtain ⟨before, after, done₁, hsplit, hbefore⟩ := hturn
      obtain rfl : before = [] := by
        cases before with
        | nil => rfl
        | cons s before => simp at hsplit
      obtain ⟨-, rfl⟩ := eq_of_run_pure hbefore
      rfl)
    hprepare
  rw [hpaths, Sample.allocate_only] at hfaithful
  exact ⟨found, project, ws', root, text, eq_ok_of_mem_toOption hscan, hpaths, hprepare, hpages,
    hfaithful⟩

end LivePages.Build
