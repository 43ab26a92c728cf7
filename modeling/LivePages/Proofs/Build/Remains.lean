import LivePages.Build.Rehearsal
import LivePages.Proofs.Build.Assembly
import LivePages.Proofs.Files.Removal

/-!
# What Is Left of a Failed Build

A build may fail at any of its steps. Until its directory is made it has only made directories and
written sources. From then on everything but directories is put inside its project, so that without
the project the files have not changed; the toolchain adds at most its record. The executable is
copied last: after the copy nothing can fail, and a copy that fails changes nothing.

So a failed build has added directories, sources and a record, and nothing else. The executable and
the kept versions are untouched, unless one of these was written in their place.

## Main definitions

* `GrowsBy`: a tree has grown by files, each where one of some paths leads.
* `Enclosed`: all but directories is put inside a project.
* `Confined`, `Toolchain.IsConfined`: the toolchain works inside its project and writes its record.
* `WritesTo`: the places outside its project that a build writes to.
* `Untouched`, `ProjectGone`: a file under a path is as it was, and the project is gone.

## Main results

* `growsBy_generate`, `turns_assemble`: what the steps of a build do, whether or not they fail.
* `Rehearsal.confined`: a rehearsal is confined.
* `remains_of_run_build`: what is left of a failed build.
* `failure_traceless`: a failed build leaves its products alone, and no project.
-/

namespace LivePages.Build

open Files (Tree Place Node)
open Files.Path (isName join)
open Files.Tree (EntryAt Grows Puts)

section

variable {config : Config} {tree tree' tree'' bare : Tree} {directory executable symbol : String}
  {root place : Place} {node : Node} {linked linked' : List String} {way : List String}
  {now : Files.Time} {ws ws' : Workspace} {paths : List String} {e : Error}

/-! ### Sources -/

/-- A tree has grown by files, each where one of some paths leads now. -/
def GrowsBy (own : String → Prop) (tree tree' : Tree) : Prop :=
  Grows (fun place node => node.isFile = true ∧
    ∃ path, own path ∧ tree'.goal true path = .ok (.found place)) tree tree'

variable {own : String → Prop}

/-- What has been written is where its path leads, however the tree grows afterwards. -/
theorem GrowsBy.trans (h : GrowsBy own tree tree') (h' : GrowsBy own tree' tree'') :
    GrowsBy own tree tree'' := by
  refine Grows.trans (Grows.mono h fun place node => ?_) h'
  rintro ⟨hfile, path, hpath, hgoal⟩
  exact ⟨hfile, path, hpath, Files.Tree.goal_of_grows h' hgoal⟩

theorem growsBy_makeDirs {path : String} (h : tree.makeDirs path now = .ok tree') :
    GrowsBy own tree tree' :=
  Files.Tree.grows_makeDirs _ h

theorem growsBy_write {path : String} {content : List UInt8} (hown : own path)
    (h : tree.write path content now = .ok tree') : GrowsBy own tree tree' := by
  obtain ⟨place, runnable, hputs⟩ := Files.Tree.exists_puts_of_write h
  exact hputs.grows (.inr ⟨rfl, path, hown, hputs.goal_eq (by simp)⟩)

/-- The paths of the sources of some requests. -/
def IsSourcePath (config : Config) (rs : List Site.Request) (path : String) : Prop :=
  ∃ r ∈ rs, path = join config.srcDir (sourceName r.symbol)

/-- In the turn of a request nothing is written but its source. -/
theorem keeps_generatePage {rs : List Site.Request} {r : Site.Request} (hr : r ∈ rs)
    (done : Generated) :
    Keeps (GrowsBy (IsSourcePath config rs) tree) (generatePage config done r) := by
  refine turns_bind keeps_get (fun ws => ?_) fun _ => id
  split
  · exact turns_bind (keeps_report _) (fun _ => turns_pure (fun _ => id) _) fun _ => id
  refine turns_bind (keeps_report _) (fun _ => ?_) fun _ => id
  split
  · exact turns_bind (keeps_report _) (fun _ => turns_pure (fun _ => id) _) fun _ => id
  refine turns_bind (turns_change (fun _ => id) fun _ _ _ h hwrite => ?_)
    (fun _ => turns_pure (fun _ => id) _) fun _ => id
  exact h.trans (growsBy_write ⟨r, hr, rfl⟩ hwrite)

/-- **Generating sources writes sources**, whether or not it fails. -/
theorem growsBy_generate (config : Config) (paths : List String) (ws : Workspace) :
    GrowsBy (IsSourcePath config (Site.allocate paths)) ws.tree
      ((generate config paths).run.run ws).2.tree := by
  have hkeeps : Keeps (GrowsBy (IsSourcePath config (Site.allocate paths)) ws.tree)
      (generate config paths) := by
    refine turns_bind (turns_change (fun _ => id) fun _ _ _ h hdirs =>
      h.trans (growsBy_makeDirs hdirs)) (fun _ => ?_) fun _ => id
    refine turns_bind (keeps_foldlM (fun done r hr => keeps_generatePage hr done) _)
      (fun done => ?_) fun _ => id
    exact turns_bind (keeps_report _) (fun _ => turns_pure (fun _ => id) _) fun _ => id
  exact hkeeps ws (Grows.refl _ _)

/-! ### Inside a project -/

/-- All that has been put into a tree, but for directories, stands in a project that was not there
before, and all links that are there stand for sources. -/
structure Enclosed (bare : Tree) (directory : String) (root : Place) (linked : List String)
    (tree : Tree) : Prop where
  /-- Nothing was there before. -/
  empty : ∀ way, bare.get? (root ++ way) = none
  /-- All there is of the project is looked for from its place. -/
  opens : tree.Opens directory root
  /-- The tree has grown inside the project. -/
  grows : Grows (fun place _ => root <+: place) bare tree
  /-- A link stands for a source. -/
  links : ∀ way target, tree.get? (root ++ way) = some (.link target) →
    ∃ symbol ∈ linked, way = sourceWay symbol

/-- A project that begins is enclosed. -/
theorem Filling.enclosed {entry : List UInt8}
    (h : Filling config bare directory root entry linked tree) :
    Enclosed bare directory root linked tree where
  empty := h.empty
  opens := h.opens
  grows := h.grows.mono fun _ _ hpart => by cases hpart <;> exact List.prefix_append root _
  links := fun _ _ => h.eq_of_link

/-- There may be links for more sources. -/
theorem Enclosed.mono (h : Enclosed bare directory root linked tree) (hsub : linked ⊆ linked') :
    Enclosed bare directory root linked' tree where
  empty := h.empty
  opens := h.opens
  grows := h.grows
  links := by
    intro way target hlink
    obtain ⟨symbol, hsymbol, hway⟩ := h.links way target hlink
    exact ⟨symbol, hsub hsymbol, hway⟩

/-- **The step.** Something is put into the project. -/
theorem Enclosed.puts (h : Enclosed bare directory root linked tree) (hne : way ≠ [])
    (hnames : ∀ s ∈ way, isName s = true) (hnew : ∀ symbol ∈ linked, ¬ sourceWay symbol <+: way)
    {last : Bool} (hputs : Puts tree last (way.foldl join directory) node tree' place)
    (hlink : ∀ target, node = .link target → ∃ symbol ∈ linked', way = sourceWay symbol)
    (hsub : linked ⊆ linked') : Enclosed bare directory root linked' tree' := by
  obtain rfl := place_eq_of_puts way h.opens h.links hne hnames hnew hputs
  have hgrows : Grows (fun place _ => root <+: place) tree tree' :=
    hputs.grows (.inr (List.prefix_append root way))
  refine ⟨h.empty, h.opens.of_grows hgrows, h.grows.trans hgrows, ?_⟩
  intro way' target htarget
  by_cases hsame : way' = way
  · subst hsame
    exact hlink target (Option.some.inj (hputs.get?_self.symm.trans htarget))
  · rw [hputs.eq, Files.Tree.get?_set_of_ne fun heq => hsame (List.append_cancel_left heq)]
      at htarget
    exact (h.mono hsub).links way' target htarget

/-- Directories are made. -/
theorem Enclosed.makeDirs (h : Enclosed bare directory root linked tree) {path : String}
    (hdirs : tree.makeDirs path now = .ok tree') : Enclosed bare directory root linked tree' := by
  have hgrows := Files.Tree.grows_makeDirs (fun _ _ => False) hdirs
  refine ⟨h.empty, h.opens.of_grows hgrows, h.grows.trans (hgrows.mono fun _ _ => False.elim), ?_⟩
  intro way target hlink
  rcases hgrows.new hlink with hold | hdir | hnone
  · exact h.links way target hold
  · exact absurd hdir Bool.false_ne_true
  · exact hnone.elim

theorem keeps_makeDirs (path : String) :
    Keeps (Enclosed bare directory root linked) (Work.makeDirs path) :=
  turns_change (fun _ => id) fun _ _ _ h hdirs => h.makeDirs hdirs

theorem keeps_writeText (way : List String) (hne : way ≠ []) (hnames : ∀ s ∈ way, isName s = true)
    (hnew : ∀ symbol ∈ linked, ¬ sourceWay symbol <+: way) (text : String) :
    Keeps (Enclosed bare directory root linked)
      (Work.writeText (way.foldl join directory) text) := by
  refine turns_change (fun _ => id) fun tree tree' now h hwrite => ?_
  obtain ⟨place, runnable, hputs⟩ := Files.Tree.exists_puts_of_write hwrite
  exact h.puts hne hnames hnew hputs (by simp) (List.Subset.refl _)

theorem keeps_copy (way : List String) (hne : way ≠ []) (hnames : ∀ s ∈ way, isName s = true)
    (hnew : ∀ symbol ∈ linked, ¬ sourceWay symbol <+: way) (source : String) :
    Keeps (Enclosed bare directory root linked)
      (Work.copy source (way.foldl join directory)) := by
  refine turns_change (fun _ => id) fun tree tree' now h hcopy => ?_
  obtain ⟨place, content, m, runnable, -, hputs⟩ := Files.Tree.exists_puts_of_copy hcopy
  exact h.puts hne hnames hnew hputs (by simp) (List.Subset.refl _)

/-- What stands for a source is put into the project, or nothing is. A copy is only made if there is
no link yet, so it is not written through one. -/
theorem turns_linkOrCopy (source : String) (hname : isName (sourceName symbol) = true)
    (hsymbol : symbol ∉ linked) :
    Turns (Enclosed bare directory root linked) (Enclosed bare directory root (linked ++ [symbol]))
      (linkOrCopy source ((sourceWay symbol).foldl join directory)) := by
  have hnames : ∀ s ∈ sourceWay symbol, isName s = true := fun _ => isName_of_mem_sourceWay hname
  have hnew := not_isPrefix_sourceWay hsymbol
  have hmore (tree : Tree) (h : Enclosed bare directory root linked tree) :
      Enclosed bare directory root (linked ++ [symbol]) tree :=
    h.mono (List.subset_append_left _ _)
  refine turns_bind (keeps_look _) (fun target ws h => ?_) hmore
  rw [run_bind, run_attempt_change]
  cases hlink : ws.tree.makeLink ((sourceWay symbol).foldl join directory) target with
  | ok tree' =>
      obtain ⟨place, hputs, -⟩ := Files.Tree.exists_puts_of_makeLink hlink
      exact h.puts (List.cons_ne_nil _ _) hnames hnew hputs
        (fun _ _ => ⟨symbol, List.mem_append_right _ List.mem_cons_self, rfl⟩)
        (List.subset_append_left _ _)
  | error e =>
      exact hmore _ (keeps_copy _ (List.cons_ne_nil _ _) hnames hnew target ws h)

theorem turns_forM_linkOrCopy {pages : List Source.EntryPage}
    (hnames : ∀ page ∈ pages, isName (sourceName page.symbol) = true)
    (hsymbols : (linked ++ pages.map (·.symbol)).Nodup) :
    Turns (Enclosed bare directory root linked)
      (Enclosed bare directory root (linked ++ pages.map (·.symbol)))
      (pages.forM fun page => linkOrCopy (join config.srcDir (sourceName page.symbol))
        ((sourceWay page.symbol).foldl join directory)) := by
  induction pages generalizing linked with
  | nil =>
      rw [List.map_nil, List.append_nil]
      exact turns_pure (fun _ => id) _
  | cons page pages ih =>
      have hsymbol : page.symbol ∉ linked :=
        fun hmem => (List.nodup_append.mp hsymbols).2.2 _ hmem _ List.mem_cons_self rfl
      rw [List.map_cons, List.append_cons] at hsymbols ⊢
      exact turns_bind (turns_linkOrCopy _ (hnames page List.mem_cons_self) hsymbol)
        (fun _ => ih (fun page' hpage' => hnames page' (List.mem_cons_of_mem page hpage')) hsymbols)
        fun _ h => h.mono (List.subset_append_left _ _)

/-- **Filling a project puts nothing elsewhere**, whether or not it fails. -/
theorem turns_assemble {pages : List Source.EntryPage}
    (hnames : ∀ page ∈ pages, isName (sourceName page.symbol) = true)
    (hsymbols : (pages.map (·.symbol)).Nodup) :
    Turns (Enclosed bare directory root [])
      (Enclosed bare directory root (pages.map (·.symbol))) (assemble config directory pages) := by
  have hmore (tree : Tree) (h : Enclosed bare directory root [] tree) :
      Enclosed bare directory root (pages.map (·.symbol)) tree :=
    h.mono (List.nil_subset _)
  have hpages : Turns (Enclosed bare directory root [])
      (Enclosed bare directory root (pages.map (·.symbol)))
      (pages.forM fun page => linkOrCopy (join config.srcDir (sourceName page.symbol))
        ((sourceWay page.symbol).foldl join directory)) :=
    turns_forM_linkOrCopy hnames hsymbols
  refine turns_bind (keeps_makeDirs _) (fun _ => ?_) hmore
  refine turns_bind (keeps_writeText ["Cargo.toml"] (by simp) (by decide) (by simp) _)
    (fun _ => ?_) hmore
  refine turns_bind (keeps_writeText ["src", "main.rs"] (by simp) (by decide) (by simp) _)
    (fun _ => ?_) hmore
  refine turns_bind keeps_get (fun ws => ?_) hmore
  split
  · exact turns_bind (keeps_copy ["Cargo.lock"] (by simp) (by decide) (by simp) _)
      (fun _ => hpages) hmore
  · exact hpages

/-- A project directory is made, or only those above it are. -/
theorem keeps_openProject (own : Place → Node → Prop) :
    Keeps (Grows own tree) (openProject config) := by
  have hdirectory (path : String) : Keeps (Grows own tree)
      (do
        Work.change fun tree now => tree.makeDir path now
        return path) := by
    refine turns_bind (turns_change (fun _ => id) fun _ _ _ h hmake => ?_)
      (fun _ => turns_pure (fun _ => id) _) fun _ => id
    obtain ⟨place, hputs, -⟩ := Files.Tree.exists_puts_of_makeDir hmake
    exact h.trans (hputs.grows (.inl rfl))
  rw [openProject]
  split
  · refine turns_bind (turns_change (fun _ => id) fun _ _ _ h hdirs => ?_)
      (fun _ => turns_bind keeps_get (fun _ => hdirectory _) fun _ => id) fun _ => id
    exact h.trans (Files.Tree.grows_makeDirs own hdirs)
  · exact turns_bind keeps_get (fun _ => hdirectory _) fun _ => id

/-! ### Without the project -/

/-- **Without the project nothing has changed**, but for directories. -/
theorem Enclosed.erase (h : Enclosed bare directory root linked tree) (hproper : tree.Proper)
    (hne : root ≠ []) (own : Place → Node → Prop) : Grows own bare (tree.erase root) := by
  have hgrows : Grows own (bare.erase root) (tree.erase root) :=
    h.grows.erase hproper hne fun _ _ hinside => .inl hinside
  rwa [Files.Tree.erase_eq_self h.empty] at hgrows

/-- Where nothing stands any more, it is what a project path leads to. -/
theorem isVacant_of_entryAt (h : tree.EntryAt directory root) (hnone : tree.get? root = none) :
    isVacant tree directory = true := by
  rw [isVacant, h.goal_of_none hnone]

/-- A project is removed. -/
theorem tree_of_run_closeProject (h : ws.tree.EntryAt directory root) (hproper : ws.tree.Proper) :
    ((closeProject directory).run.run ws).2.tree = ws.tree.erase root := by
  rw [closeProject, run_change_snd]
  exact h.removeDirs hproper

/-- What a toolchain may do to the files: it works in the directory of the project, and writes its
record. Outside the directory they have grown at most by the record, and by directories. -/
structure Confined (directory record : String) (tree tree' : Tree) : Prop where
  proper : tree.Proper → tree'.Proper
  outside : ∀ root, tree.place directory = .ok root →
    Grows (fun place node => node.isFile = true ∧
      ∃ goal, tree.goal true record = .ok goal ∧ goal.place = place)
      (tree.erase root) (tree'.erase root)

/-- The toolchain is confined when it is run in a build. -/
def Toolchain.IsConfined (toolchain : Toolchain) (config : Config) (paths : List String)
    (executable : String) (ws : Workspace) : Prop :=
  ∀ project ws₃, (prepare config paths executable).run.run ws = (.ok project, ws₃) →
    Confined project.directory (recordPath executable) ws₃.tree
      ((toolchain project.directory (recordPath executable)).run.run ws₃).2.tree

/-- The places outside its project that a build writes to, in place of nothing or of other files:
those where the paths of sources lead in the end, and the one where the path of its record leads
when the toolchain is run. -/
inductive WritesTo (config : Config) (paths : List String) (executable : String)
    (ws ws' : Workspace) : Place → Prop
  | source {r : Site.Request} {place : Place} (hr : r ∈ Site.allocate paths)
      (h : ws'.tree.goal true (join config.srcDir (sourceName r.symbol)) = .ok (.found place)) :
      WritesTo config paths executable ws ws' place
  | record {project : Project} {ws₁ : Workspace} {goal : Tree.Goal}
      (h : (prepare config paths executable).run.run ws = (.ok project, ws₁))
      (hgoal : ws₁.tree.goal true (recordPath executable) = .ok goal) :
      WritesTo config paths executable ws ws' goal.place

/-- A file at such a place. -/
def IsWritten (config : Config) (paths : List String) (executable : String) (ws ws' : Workspace)
    (place : Place) (node : Node) : Prop :=
  node.isFile = true ∧ WritesTo config paths executable ws ws' place

/-- If a directory was made for the project of a build, it is gone with everything in it. -/
def ProjectGone (config : Config) (paths : List String) (ws ws' : Workspace) : Prop :=
  ∀ done ws₁ directory ws₂, (generate config paths).run.run ws = (.ok done, ws₁) →
    (openProject config).run.run ws₁ = (.ok directory, ws₂) →
      isVacant ws'.tree directory = true ∧
        ∀ root, ws₂.tree.place directory = .ok root → ∀ way, ws'.tree.get? (root ++ way) = none

/-- What is left of a build: a tree that has grown by sources and a record, without a project. -/
structure Remains (config : Config) (paths : List String) (executable : String)
    (ws ws' : Workspace) : Prop where
  grows : Grows (IsWritten config paths executable ws ws') ws.tree ws'.tree
  gone : ProjectGone config paths ws ws'

/-- A project begins at a place, in a tree that had nothing there. -/
structure Begins (tree : Tree) (directory : String) (bare : Tree) (root : Place) (tree' : Tree) :
    Prop where
  grows : Grows (fun _ _ => False) tree bare
  entry : bare.EntryAt directory root
  enclosed : Enclosed bare directory root [] tree'

theorem exists_begins_of_openProject (hproper : ws.tree.Proper)
    (h : (openProject config).run.run ws = (.ok directory, ws')) :
    ∃ bare root, Begins ws.tree directory bare root ws'.tree := by
  obtain ⟨bare, root, hgrows, hentry, hfilling, -⟩ := exists_filling_of_openProject hproper h
  exact ⟨bare, root, hgrows, hentry, (hfilling []).enclosed⟩

/-- The directory of a project leads to its place. -/
theorem Enclosed.leads (h : Enclosed bare directory root linked tree)
    (hentry : bare.EntryAt directory root) : tree.goal true directory = .ok (.found root) := by
  obtain ⟨hlegal, base, name, -, -, rfl, hname, -⟩ := hentry
  exact h.opens.goal_eq hname hlegal

variable {done : Generated} {ws₁ ws₂ ws₃ u : Workspace} {project : Project} {toolchain : Toolchain}

/-- What is written as sources is written to places of the build. -/
theorem grows_of_generate {result : Except Error Generated} {own₁ : Place → Node → Prop}
    (h : (generate config paths).run.run ws = (result, ws₁))
    (hlater : Grows own₁ ws₁.tree ws'.tree) :
    Grows (IsWritten config paths executable ws ws') ws.tree ws₁.tree := by
  have hgrows := growsBy_generate config paths ws
  rw [h] at hgrows
  refine Grows.mono hgrows fun place node => ?_
  rintro ⟨hfile, path, ⟨r, hr, rfl⟩, hgoal⟩
  exact ⟨hfile, .source hr (Files.Tree.goal_of_grows hlater hgoal)⟩

/-- **When the project is removed** there is nothing left of it, and what has been written outside
remains. -/
theorem Begins.remains (h : Begins ws₁.tree directory bare root ws₂.tree)
    (hgenerate : (generate config paths).run.run ws = (.ok done, ws₁))
    (hopen : (openProject config).run.run ws₁ = (.ok directory, ws₂))
    (hproper : u.tree.Proper)
    (hgrows : Grows (IsWritten config paths executable ws ws') bare (u.tree.erase root))
    (hclose : ((closeProject directory).run.run u).2 = ws') :
    Remains config paths executable ws ws' := by
  have hentry : (u.tree.erase root).EntryAt directory root := h.entry.of_grows hgrows
  have htree : ws'.tree = u.tree.erase root := by
    rw [← hclose]
    exact tree_of_run_closeProject
      (hentry.of_grows ((Files.Tree.partOf_erase u.tree root).grows hproper)) hproper
  have hempty (way : List String) : ws'.tree.get? (root ++ way) = none := by
    rw [htree]
    exact Files.Tree.get?_erase_of_below (List.append_ne_nil_of_left_ne_nil hentry.ne_nil way)
      (List.prefix_append root way)
  rw [← htree] at hgrows hentry
  constructor
  · have hlater := (h.grows.mono fun _ _ => False.elim).trans hgrows
    exact (grows_of_generate hgenerate hlater).trans hlater
  · intro done' ws₁' directory' ws₂' hgenerate' hopen'
    obtain ⟨-, rfl⟩ := Prod.mk.inj (hgenerate.symm.trans hgenerate')
    obtain ⟨hdirectory, rfl⟩ := Prod.mk.inj (hopen.symm.trans hopen')
    obtain rfl := Except.ok.inj hdirectory
    refine ⟨isVacant_of_entryAt hentry (List.append_nil root ▸ hempty []), ?_⟩
    intro root' hplace
    obtain rfl : root = root' := Except.ok.inj
      ((Files.Tree.place_eq_of_goal (h.enclosed.leads h.entry)).symm.trans hplace)
    exact hempty

/-! ### Failures -/

/-- The pages of a project have different symbols, and each makes a plain name. -/
theorem symbols_of_generate (h : (generate config paths).run.run ws = (.ok done, ws₁)) :
    (∀ page ∈ done.pages, isName (sourceName page.symbol) = true) ∧
      (done.pages.map (·.symbol)).Nodup := by
  have hsub := pages_sublist h
  constructor
  · intro page hpage
    obtain ⟨r, hr, rfl⟩ := List.mem_map.mp (hsub.subset hpage)
    exact isName_sourceName_of_mem_allocate hr
  · have hsymbols := hsub.map (·.symbol)
    rw [List.map_map] at hsymbols
    exact hsymbols.nodup (Site.isTable_allocate _).2.injective

theorem proper_of_generate (hproper : ws.tree.Proper)
    (h : (generate config paths).run.run ws = (.ok done, ws₁)) : ws₁.tree.Proper := by
  have hgrows := growsBy_generate config paths ws
  rw [h] at hgrows
  exact hgrows.proper hproper

/-- The work on a project before it is compiled puts nothing elsewhere. -/
theorem turns_assembled (h : (generate config paths).run.run ws = (.ok done, ws₁)) :
    Turns (Enclosed bare directory root [])
      (Enclosed bare directory root (done.pages.map (·.symbol)))
      (do
        assemble config directory done.pages
        match Files.Path.parent? executable with
        | some parent => Work.makeDirs parent
        | none => pure ()) := by
  obtain ⟨hnames, hsymbols⟩ := symbols_of_generate h
  refine turns_bind (turns_assemble hnames hsymbols) (fun _ => ?_) fun _ => id
  split
  · exact keeps_makeDirs _
  · exact turns_pure (fun _ => id) _

/-- **A project that has been prepared** is enclosed. -/
theorem exists_enclosed_of_prepare (hproper : ws.tree.Proper)
    (h : (prepare config paths executable).run.run ws = (.ok project, ws₃)) :
    ∃ done ws₁ ws₂ bare root, (generate config paths).run.run ws = (.ok done, ws₁) ∧
      (openProject config).run.run ws₁ = (.ok project.directory, ws₂) ∧
      Begins ws₁.tree project.directory bare root ws₂.tree ∧
      Enclosed bare project.directory root (done.pages.map (·.symbol)) ws₃.tree := by
  obtain ⟨done, ws₁, hgenerate, hassembled⟩ := run_bind_eq_ok_iff.mp h
  obtain ⟨directory, ws₂, hopen, hrest⟩ := run_bind_eq_ok_iff.mp hassembled
  obtain ⟨_, ws₃', hfill, hend⟩ := run_bind_eq_ok_iff.mp hrest
  obtain ⟨rfl, rfl⟩ := eq_of_run_pure hend
  obtain ⟨bare, root, hbegins⟩ :=
    exists_begins_of_openProject (proper_of_generate hproper hgenerate) hopen
  exact ⟨done, ws₁, ws₂, bare, root, hgenerate, hopen, hbegins,
    (turns_assembled hgenerate).of_run (run_of_run_onFailure hfill) hbegins.enclosed⟩

/-- What is left when a project cannot be prepared. -/
theorem remains_of_run_prepare (hproper : ws.tree.Proper)
    (h : (prepare config paths executable).run.run ws = (.error e, ws')) :
    Remains config paths executable ws ws' := by
  rcases run_bind_eq_error_iff.mp h with hgenerate | ⟨done, ws₁, hgenerate, hassembled⟩
  · -- no project has been begun
    refine ⟨grows_of_generate hgenerate (.refl (fun _ _ => True) _), ?_⟩
    intro done ws₁ directory ws₂ hgenerate'
    exact absurd (Prod.mk.inj (hgenerate.symm.trans hgenerate')).1 (by simp)
  have hproper₁ := proper_of_generate hproper hgenerate
  rcases run_bind_eq_error_iff.mp hassembled with hopen | ⟨directory, ws₂, hopen, hrest⟩
  · have hgrows := (keeps_openProject (IsWritten config paths executable ws ws')).of_run hopen
      (.refl _ _)
    refine ⟨(grows_of_generate hgenerate hgrows).trans hgrows, ?_⟩
    intro done' ws₁' directory ws₂ hgenerate' hopen'
    obtain ⟨-, rfl⟩ := Prod.mk.inj (hgenerate.symm.trans hgenerate')
    exact absurd (Prod.mk.inj (hopen.symm.trans hopen')).1 (by simp)
  · have hfill := (run_bind_eq_error_iff.mp hrest).resolve_right fun ⟨_, _, _, hend⟩ =>
      absurd (Prod.mk.inj hend).1 (by simp)
    obtain ⟨u, hfailed, hclose⟩ := exists_of_run_onFailure hfill
    obtain ⟨bare, root, hbegins⟩ := exists_begins_of_openProject hproper₁ hopen
    have henclosed := (turns_assembled hgenerate).of_run hfailed hbegins.enclosed
    have hproper' := henclosed.grows.proper (hbegins.grows.proper hproper₁)
    exact hbegins.remains hgenerate hopen hproper'
      (henclosed.erase hproper' hbegins.entry.ne_nil _) hclose

/-- Keeping the versions never fails. -/
theorem run_keepLock_fst (config : Config) (project : Project) (ws : Workspace) :
    ((keepLock config project).run.run ws).1 = .ok () := by
  rw [keepLock, run_bind, run_get]
  dsimp only
  split <;> rfl

/-- **After the copy nothing fails.** A project that cannot be finished is removed right after the
toolchain. -/
theorem closeProject_of_run_finish
    (h : (finish config toolchain project executable).run.run ws = (.error e, ws')) :
    ((closeProject project.directory).run.run
      ((toolchain project.directory (recordPath executable)).run.run ws).2).2 = ws' := by
  rcases run_bind_eq_error_iff.mp h with hcompile | ⟨built, u, hcompile, hinstall⟩
  · obtain ⟨u, hfailed, hclose⟩ := exists_of_run_onFailure hcompile
    rw [hfailed]
    exact hclose
  rw [run_of_run_onFailure hcompile]
  rcases run_bind_eq_error_iff.mp hinstall with hcopy | ⟨_, v, -, hrest⟩
  · obtain ⟨v, hfailed, hclose⟩ := exists_of_run_onFailure hcopy
    obtain rfl := eq_of_run_change_error hfailed
    exact hclose
  · rcases run_bind_eq_error_iff.mp hrest with hkeep | ⟨_, w, -, hrest⟩
    · exact absurd ((run_keepLock_fst config project v).symm.trans (congrArg Prod.fst hkeep))
        (by simp)
    · rw [run_bind, run_quietly] at hrest
      exact absurd (Prod.mk.inj hrest).1 (by simp)

/-- **What is left of a failed build**, wherever it has failed: directories, sources, a record. -/
theorem remains_of_run_build (hproper : ws.tree.Proper)
    (hconfined : toolchain.IsConfined config paths executable ws)
    (h : (build config toolchain paths executable).run.run ws = (.error e, ws')) :
    Remains config paths executable ws ws' := by
  rcases run_bind_eq_error_iff.mp h with hprepare | ⟨project, ws₃, hprepare, hfinish⟩
  · exact remains_of_run_prepare hproper hprepare
  obtain ⟨done, ws₁, ws₂, bare, root, hgenerate, hopen, hbegins, henclosed⟩ :=
    exists_enclosed_of_prepare hproper hprepare
  have hbare := hbegins.grows.proper (proper_of_generate hproper hgenerate)
  have hproper₃ := henclosed.grows.proper hbare
  obtain ⟨hproper', houtside⟩ := hconfined project ws₃ hprepare
  have hwritten := houtside root (Files.Tree.place_eq_of_goal (henclosed.leads hbegins.entry))
  refine hbegins.remains hgenerate hopen (hproper' hproper₃) ?_ (closeProject_of_run_finish hfinish)
  refine (henclosed.erase hproper₃ hbegins.entry.ne_nil _).trans (hwritten.mono ?_)
  rintro place node ⟨hfile, goal, hgoal, rfl⟩
  exact ⟨hfile, .record hprepare hgoal⟩

/-! ### Rehearsals -/

/-- A file in a project, or where the path of a record leads. -/
def IsInside (tree : Tree) (root : Place) (record : String) (place : Place) (node : Node) : Prop :=
  node.isFile = true ∧
    (root <+: place ∨ ∃ goal, tree.goal true record = .ok goal ∧ goal.place = place)

/-- A record is written where its path leads. -/
theorem turns_writeText_record (record text : String) :
    Turns (· = tree) (Grows (IsInside tree root record) tree) (Work.writeText record text) := by
  refine turns_change (fun _ heq => heq ▸ .refl _ _) fun tree₁ tree₂ now heq hwrite => ?_
  obtain rfl := heq
  obtain ⟨place, runnable, hputs⟩ := Files.Tree.exists_puts_of_write hwrite
  exact hputs.grows (.inr ⟨rfl, .inr hputs.leads⟩)

/-- A text is written into a project, where no file has been put but there and for the record. -/
theorem keeps_writeText_inside {name record : String}
    (h : Enclosed bare directory root linked tree) (hname : isName name = true)
    (hnew : ∀ symbol, ¬ sourceWay symbol <+: [name]) (text : String) :
    Keeps (Grows (IsInside tree root record) tree)
      (Work.writeText (join directory name) text) := by
  refine turns_change (fun _ => id) fun tree₁ tree₂ now hgrows hwrite => ?_
  obtain ⟨place, runnable, hputs⟩ := Files.Tree.exists_puts_of_write hwrite
  have hlinks (way : List String) (target : String)
      (hlink : tree₁.get? (root ++ way) = some (.link target)) :
      ∃ symbol ∈ linked, way = sourceWay symbol := by
    rcases hgrows.new hlink with hold | hdir | ⟨hfile, -⟩
    · exact h.links way target hold
    · exact absurd hdir Bool.false_ne_true
    · exact absurd hfile Bool.false_ne_true
  obtain rfl := place_eq_of_puts [name] (h.opens.of_grows hgrows) hlinks (by simp)
    (by simpa using hname) (fun symbol _ => hnew symbol) hputs
  exact hgrows.trans (hputs.grows (.inr ⟨rfl, .inl (List.prefix_append root _)⟩))

/-- What a rehearsal does to the files. -/
theorem Rehearsal.grows (rehearsal : Rehearsal) (record : String)
    (h : Enclosed bare directory root linked ws.tree) :
    Grows (IsInside ws.tree root record) ws.tree
      ((rehearsal.toolchain directory record).run.run ws).2.tree := by
  have hinside (name : String) (hname : isName name = true)
      (hnew : ∀ symbol, ¬ sourceWay symbol <+: [name]) (text : String) :
      Keeps (Grows (IsInside ws.tree root record) ws.tree)
        (Work.writeText (join directory name) text) :=
    keeps_writeText_inside h hname hnew text
  have hend : Keeps (Grows (IsInside ws.tree root record) ws.tree)
      (do
        match rehearsal.failure with
        | some reason => throw (.build (.reported reason))
        | none => pure ()
        match rehearsal.executable with
        | some text => Work.writeText (join directory "backend-bin") text
        | none => pure ()
        return join directory "backend-bin" : Work String) := by
    dsimp only
    split
    · exact fun _ => id
    split
    · exact turns_bind (hinside "backend-bin" (by decide) (by simp [sourceWay]) _)
        (fun _ => turns_pure (fun _ => id) _) fun _ => id
    · exact turns_pure (fun _ => id) _
  refine turns_bind (turns_writeText_record record _) (fun _ => ?_) (fun _ => id) ws rfl
  dsimp only
  split
  · exact turns_bind (hinside "Cargo.lock" (by decide) (by simp [sourceWay]) _) (fun _ => hend)
      fun _ => id
  · exact hend

/-- **A rehearsal is confined.** -/
theorem Rehearsal.confined (rehearsal : Rehearsal) (record : String)
    (h : Enclosed bare directory root linked ws.tree) (hproper : ws.tree.Proper)
    (hleads : ws.tree.goal true directory = .ok (.found root)) (hne : root ≠ []) :
    Confined directory record ws.tree
      ((rehearsal.toolchain directory record).run.run ws).2.tree := by
  have hgrows := rehearsal.grows record h
  refine ⟨hgrows.proper, fun root' hplace => ?_⟩
  obtain rfl : root = root' := Except.ok.inj
    ((Files.Tree.place_eq_of_goal hleads).symm.trans hplace)
  refine hgrows.erase (hgrows.proper hproper) hne ?_
  rintro place node ⟨hfile, hinside | hrecord⟩
  · exact .inl hinside
  · exact .inr ⟨hfile, hrecord⟩

/-! ### Untouched files -/

/-- A file under a path is as it was: one that was there is there unchanged, and one that is there
stood there before. -/
structure Untouched (tree tree' : Tree) (path : String) : Prop where
  kept : ∀ node, tree.stat path = .ok node → node.isFile = true → tree'.stat path = .ok node
  old : ∀ place node, tree'.place path = .ok place → tree'.get? place = some node →
    node.isFile = true → tree.get? place = some node

/-- A file is untouched where nothing is put. -/
theorem untouched_of_grows {own : Place → Node → Prop} {path : String}
    (h : Grows own tree tree')
    (hapart : ∀ place, tree'.place path = .ok place → ∀ node, ¬ own place node) :
    Untouched tree tree' path := by
  constructor
  · intro node hstat hfile
    obtain ⟨place, hplace, hnode⟩ := Files.Tree.stat_eq_ok_iff.mp hstat
    have hplace' : tree'.place path = .ok place := Files.Tree.place_eq_of_goal
      (Files.Tree.goal_of_grows h (Files.Tree.place_eq_ok_iff.mp hplace))
    exact Files.Tree.stat_eq_ok_iff.mpr
      ⟨place, hplace', h.get?_of_not_own hnode (hapart place hplace')⟩
  · intro place node hplace hnode hfile
    rcases h.new hnode with hold | hdir | hown
    · exact hold
    · cases node <;> simp_all [Node.isFile, Node.isDirectory]
    · exact absurd hown (hapart place hplace node)

/-- **A failed build leaves no trace on its products.** Whatever pages there are, whatever stood in
the place of the executable and of the kept versions before, and whatever the toolchain does inside
the project and to its record: if the build fails, both files are as they were, unless a source or
the record was written in their place; and the directory that was made for the project is gone. -/
theorem failure_traceless (hproper : ws.tree.Proper)
    (hconfined : toolchain.IsConfined config paths executable ws)
    (h : (build config toolchain paths executable).run.run ws = (.error e, ws'))
    (hapart : ∀ path ∈ [executable, lockPath config.targetDir], ∀ place,
      ws'.tree.place path = .ok place → ¬ WritesTo config paths executable ws ws' place) :
    (∀ path ∈ [executable, lockPath config.targetDir], Untouched ws.tree ws'.tree path) ∧
      ProjectGone config paths ws ws' := by
  obtain ⟨hgrows, hgone⟩ := remains_of_run_build hproper hconfined h
  refine ⟨fun path hpath => untouched_of_grows hgrows fun place hplace node hown => ?_, hgone⟩
  exact hapart path hpath place hplace hown.2

end

namespace Sample

/-- The stale site with an executable and the versions that were kept for the next build. -/
def installed : Tree :=
  { nodes := stale.nodes ++
      [(["exe"], .directory 1), (["exe", "backend-0"], .file (Text.Utf8.ofString "old") 3 true),
        (["target-rsp"], .directory 1),
        (["target-rsp", "Cargo.lock"], .file (Text.Utf8.ofString "kept") 3 false)] }

/-- A compiler that settles versions, and fails. -/
def failing : Rehearsal where
  lock := some "new"
  failure := some "exit status: 101"

/-- A build of the site with this compiler. -/
def failed (executable : String) : Except Error Report × Workspace :=
  (build config failing.toolchain ["c.rsp"] executable).run.run ⟨installed, 5, []⟩

/-- What is left of it once its source has been written. -/
def remaining (written : Tree) (executable : String) : Except Error Report × Workspace :=
  (do
    let project ← openAssembled config single executable
    finish config failing.toolchain project executable : Work Report).run.run
      ⟨written, 5, [single.line]⟩

theorem proper_installed : installed.Proper :=
  .of_nodes (by decide +kernel)

theorem isConfined_failing (executable : String) :
    failing.toolchain.IsConfined config ["c.rsp"] executable ⟨installed, 5, []⟩ := by
  intro project ws₃ h
  obtain ⟨done, ws₁, ws₂, bare, root, hgenerate, -, hbegins, henclosed⟩ :=
    exists_enclosed_of_prepare proper_installed h
  have hbare := hbegins.grows.proper (proper_of_generate proper_installed hgenerate)
  exact failing.confined _ henclosed (henclosed.grows.proper hbare)
    (henclosed.leads hbegins.entry) hbegins.entry.ne_nil

section

variable {written : Tree} {executable : String}

theorem run_generate_installed
    (hwritten : installed.write (join config.srcDir (sourceName "c.rsp"))
      (Text.Utf8.ofString compiled.source) 5 = .ok written) :
    (generate config ["c.rsp"]).run.run ⟨installed, 5, []⟩ =
      (.ok single, ⟨written, 5, [single.line]⟩) :=
  run_generate_only (eq_ok_of_mem_toOption (by decide +kernel))
    (run_change (f := fun tree now => tree.makeDirs config.srcDir now)
      (eq_ok_of_mem_toOption (by decide +kernel))) hwritten

theorem run_prepare_installed
    (hwritten : installed.write (join config.srcDir (sourceName "c.rsp"))
      (Text.Utf8.ofString compiled.source) 5 = .ok written) :
    (prepare config ["c.rsp"] executable).run.run ⟨installed, 5, []⟩ =
      (openAssembled config single executable).run.run ⟨written, 5, [single.line]⟩ := by
  rw [prepare, run_bind, run_generate_installed hwritten]

theorem failed_eq_remaining
    (hwritten : installed.write (join config.srcDir (sourceName "c.rsp"))
      (Text.Utf8.ofString compiled.source) 5 = .ok written) :
    failed executable = remaining written executable := by
  rw [failed, build, run_bind, run_prepare_installed hwritten, remaining, run_bind]

end

theorem eq_error_of_isNone {result : Except Error Report × Workspace}
    (h : result.1.toOption.isNone = true) : ∃ e, result = (.error e, result.2) := by
  rcases result with ⟨e | report, ws⟩
  · exact ⟨e, rfl⟩
  · exact absurd h (by simp [Except.toOption])

/-- A build that fails, and where it writes. -/
theorem exists_failed : ∃ project ws₃ e ws',
    (prepare config ["c.rsp"] "exe/backend-0").run.run ⟨installed, 5, []⟩ = (.ok project, ws₃) ∧
      failed "exe/backend-0" = (.error e, ws') ∧
      ws'.tree.place "exe/backend-0" = .ok ["exe", "backend-0"] ∧
      ws'.tree.place (lockPath config.targetDir) = .ok ["target-rsp", "Cargo.lock"] ∧
      ws'.tree.goal true (join config.srcDir (sourceName "c.rsp")) =
        .ok (.found ["src", "c.rsp.rs"]) ∧
      ws₃.tree.goal true (recordPath "exe/backend-0") =
        .ok (.missing ["exe", "backend-0.log"]) := by
  obtain ⟨written, hwritten, project, hproject, hfailed, hplaces⟩ :
      ∃ written ∈ (installed.write (join config.srcDir (sourceName "c.rsp"))
          (Text.Utf8.ofString compiled.source) 5).toOption,
        ∃ project ∈ ((openAssembled config single "exe/backend-0").run.run
          ⟨written, 5, [single.line]⟩).1.toOption,
          (remaining written "exe/backend-0").1.toOption.isNone = true ∧
          (remaining written "exe/backend-0").2.tree.place "exe/backend-0" =
            .ok ["exe", "backend-0"] ∧
          (remaining written "exe/backend-0").2.tree.place (lockPath config.targetDir) =
            .ok ["target-rsp", "Cargo.lock"] ∧
          (remaining written "exe/backend-0").2.tree.goal true
            (join config.srcDir (sourceName "c.rsp")) = .ok (.found ["src", "c.rsp.rs"]) ∧
          ((openAssembled config single "exe/backend-0").run.run
            ⟨written, 5, [single.line]⟩).2.tree.goal true (recordPath "exe/backend-0") =
              .ok (.missing ["exe", "backend-0.log"]) := by
    decide +kernel
  have hwritten' := eq_ok_of_mem_toOption hwritten
  obtain ⟨e, herror⟩ := eq_error_of_isNone hfailed
  exact ⟨project, _, e, _, (run_prepare_installed hwritten').trans (eq_mk_of_mem_toOption hproject),
    (failed_eq_remaining hwritten').trans herror, hplaces⟩

/-- A build whose executable stands where a source is written. -/
theorem exists_overwritten : ∃ e ws', failed "src/c.rsp.rs" = (.error e, ws') ∧
    installed.stat "src/c.rsp.rs" = .ok (.file (Text.Utf8.ofString "old") 1 false) ∧
      ws'.tree.stat "src/c.rsp.rs" ≠ .ok (.file (Text.Utf8.ofString "old") 1 false) := by
  obtain ⟨written, hwritten, hfailed, hnode, hnode'⟩ :
      ∃ written ∈ (installed.write (join config.srcDir (sourceName "c.rsp"))
          (Text.Utf8.ofString compiled.source) 5).toOption,
        (remaining written "src/c.rsp.rs").1.toOption.isNone = true ∧
        installed.stat "src/c.rsp.rs" = .ok (.file (Text.Utf8.ofString "old") 1 false) ∧
        (remaining written "src/c.rsp.rs").2.tree.stat "src/c.rsp.rs" ≠
          .ok (.file (Text.Utf8.ofString "old") 1 false) := by
    decide +kernel
  obtain ⟨e, herror⟩ := eq_error_of_isNone hfailed
  exact ⟨e, _, (failed_eq_remaining (eq_ok_of_mem_toOption hwritten)).trans herror, hnode, hnode'⟩

end Sample

/-- A compiler that fails, and has settled versions before. -/
theorem failure_traceless_rehearsed : ∃ e ws', Sample.failed "exe/backend-0" = (.error e, ws') ∧
    (∀ path ∈ ["exe/backend-0", lockPath Sample.config.targetDir],
      Untouched Sample.installed ws'.tree path) ∧
    ∃ done ws₁ directory ws₂,
      (generate Sample.config ["c.rsp"]).run.run ⟨Sample.installed, 5, []⟩ = (.ok done, ws₁) ∧
      (openProject Sample.config).run.run ws₁ = (.ok directory, ws₂) ∧
      isVacant ws'.tree directory = true := by
  obtain ⟨project, ws₃, e, ws', hprepare, hfailed, hexecutable, hlock, hsource, hrecord⟩ :=
    Sample.exists_failed
  obtain ⟨huntouched, hgone⟩ := failure_traceless Sample.proper_installed
    (Sample.isConfined_failing _) hfailed (by
      intro path hpath place hplace hwrites
      have hproducts : place ∈ [["exe", "backend-0"], ["target-rsp", "Cargo.lock"]] := by
        rcases List.mem_cons.mp hpath with rfl | hpath
        · simp [← Except.ok.inj (hexecutable.symm.trans hplace)]
        · rw [List.mem_singleton.mp hpath] at hplace
          simp [← Except.ok.inj (hlock.symm.trans hplace)]
      cases hwrites with
      | source hr hleads =>
          rw [Sample.allocate_only, List.mem_singleton] at hr
          subst hr
          rw [← Tree.Goal.found.inj (Except.ok.inj (hsource.symm.trans hleads))] at hproducts
          exact absurd hproducts (by decide)
      | record hprepared hleads =>
          obtain ⟨-, rfl⟩ := Prod.mk.inj (hprepare.symm.trans hprepared)
          rw [← Except.ok.inj (hrecord.symm.trans hleads)] at hproducts
          exact absurd hproducts (by decide))
  obtain ⟨done, ws₁, ws₂, -, -, hgenerate, hopen, -⟩ :=
    exists_enclosed_of_prepare Sample.proper_installed hprepare
  exact ⟨e, ws', hfailed, huntouched, done, ws₁, project.directory, ws₂, hgenerate, hopen,
    (hgone done ws₁ project.directory ws₂ hgenerate hopen).1⟩

/-- **An executable that stands where a source is written is not left alone** by a build that
fails, whatever the compiler keeps to. -/
theorem failure_overwrites_source : ∃ e ws' node, Sample.failed "src/c.rsp.rs" = (.error e, ws') ∧
    Sample.failing.toolchain.IsConfined Sample.config ["c.rsp"] "src/c.rsp.rs"
      ⟨Sample.installed, 5, []⟩ ∧
    Sample.installed.stat "src/c.rsp.rs" = .ok node ∧ node.isFile = true ∧
      ws'.tree.stat "src/c.rsp.rs" ≠ .ok node := by
  obtain ⟨e, ws', hfailed, hnode, hnode'⟩ := Sample.exists_overwritten
  exact ⟨e, ws', _, hfailed, Sample.isConfined_failing _, hnode, rfl, hnode'⟩

end LivePages.Build
