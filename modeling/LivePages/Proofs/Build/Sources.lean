import LivePages.Proofs.Build.PageTable
import LivePages.Proofs.Site.PageAddress

/-!
# The Sources of a Build

A build goes through the requests, and every page has one fate: its source is written and its row
is added, or it is skipped, or it is reported. The sources have different names, so none is
overwritten by a later one, and they all stand in one directory.

## Main results

* `account_foldlM`: what is added to the table, to the list of the pages left out and to the report.
* `sourced_foldlM`: what stands in the directory of the sources.
-/

namespace LivePages.Build

open Files (Tree Place)
open Files.Path (isName join)
open Files.Tree (Opens Grows Proper)

variable {config : Config} {ws ws' turn : Workspace} {done done' : Generated}
  {r : Site.Request} {rs : List Site.Request}

/-! ### Turns -/

/-- The turn of one of the requests: what the work on those before it has come to. -/
def IsTurnOf (config : Config) (rs : List Site.Request) (done : Generated) (ws : Workspace)
    (r : Site.Request) (turn : Workspace) : Prop :=
  ∃ before after done₁, rs = before ++ r :: after ∧
    (before.foldlM (generatePage config) done).run.run ws = (.ok done₁, turn)

/-- Whatever turn it is, the page of the request is compiled to what it is compiled to in a tree. -/
def Undisturbed (config : Config) (site : Tree) (rs : List Site.Request) (done : Generated)
    (ws : Workspace) : Prop :=
  ∀ r turn, IsTurnOf config rs done ws r turn →
    compilePage turn.tree config.webRoot r.path = compilePage site config.webRoot r.path

variable {site : Tree}

/-- Pages that stay as they are are compiled to the same. -/
theorem undisturbed_of_loader (h : ∀ r turn, IsTurnOf config rs done ws r turn →
    Site.loader turn.tree config.webRoot = Site.loader site config.webRoot) :
    Undisturbed config site rs done ws := by
  intro r turn hturn
  unfold compilePage
  rw [h r turn hturn]

/-- What becomes of them is the same. -/
theorem Undisturbed.fateOf_eq (h : Undisturbed config site rs done ws)
    (hturn : IsTurnOf config rs done ws r turn) :
    fateOf config turn.tree r = fateOf config site r := by
  rw [fateOf, fateOf, h r turn hturn]

/-- The turns of the first requests are turns of all. -/
theorem Undisturbed.of_concat (h : Undisturbed config site (rs ++ [r]) done ws) :
    Undisturbed config site rs done ws := by
  rintro s turn ⟨before, after, done₁, rfl, hbefore⟩
  refine h s turn ⟨before, after ++ [r], done₁, ?_, hbefore⟩
  rw [List.append_assoc, List.cons_append]

/-- The last turn comes after the work on all other requests. -/
theorem exists_last_turn
    (h : ((rs ++ [r]).foldlM (generatePage config) done).run.run ws = (.ok done', ws')) :
    ∃ done₁ turn, (rs.foldlM (generatePage config) done).run.run ws = (.ok done₁, turn) ∧
      IsTurnOf config (rs ++ [r]) done ws r turn ∧
      Settles config r (fateOf config turn.tree r) done₁ turn done' ws' := by
  rw [List.foldlM_append] at h
  obtain ⟨done₁, turn, hbefore, hlast⟩ := run_bind_eq_ok_iff.mp h
  rw [List.foldlM_cons] at hlast
  obtain ⟨done₂, ws₂, hstep, hend⟩ := run_bind_eq_ok_iff.mp hlast
  obtain ⟨rfl, rfl⟩ := eq_of_run_pure hend
  exact ⟨done₁, turn, hbefore, ⟨rs, [], done₁, rfl, hbefore⟩, settles_generatePage hstep⟩

/-! ### The account -/

/-- What the last member gives comes last. -/
theorem filterMap_concat {α β : Type} (f : α → Option β) (l : List α) (a : α) :
    (l ++ [a]).filterMap f = l.filterMap f ++ (f a).toList := by
  rw [List.filterMap_append, List.filterMap_cons, List.filterMap_nil]
  cases f a <;> rfl

/-- What is made of the pages of some requests. -/
structure Account (config : Config) (site : Tree) (rs : List Site.Request) (done : Generated)
    (ws : Workspace) (done' : Generated) (ws' : Workspace) : Prop where
  /-- The pages that are served have their rows. -/
  pages : done'.pages = done.pages ++ rs.filterMap fun r => (fateOf config site r).row? r
  /-- Those that are only there to be included are noted. -/
  skipped : done'.skipped = done.skipped ++ rs.filterMap fun r => (fateOf config site r).skipped?
  /-- What is to be said about each of them is said. -/
  log : ws'.log = ws.log ++ rs.flatMap fun r => (fateOf config site r).report r

/-- **Every page is accounted for**, in its turn. -/
theorem account_foldlM (hsite : Undisturbed config site rs done ws)
    (h : (rs.foldlM (generatePage config) done).run.run ws = (.ok done', ws')) :
    Account config site rs done ws done' ws' := by
  induction rs using List.reverseRecOn generalizing done' ws' with
  | nil =>
      obtain ⟨rfl, rfl⟩ := eq_of_run_pure h
      exact ⟨(List.append_nil _).symm, (List.append_nil _).symm, (List.append_nil _).symm⟩
  | append_singleton rs r ih =>
      obtain ⟨done₁, turn, hbefore, hturn, hlast⟩ := exists_last_turn h
      have hfirst := ih hsite.of_concat hbefore
      rw [hsite.fateOf_eq hturn] at hlast
      constructor
      · rw [hlast.pages, hfirst.pages, filterMap_concat, List.append_assoc]
      · rw [hlast.skipped, hfirst.skipped, filterMap_concat, List.append_assoc]
      · rw [hlast.log, hfirst.log, List.flatMap_append, List.append_assoc,
          List.flatMap_singleton]

/-! ### The sources -/

/-- Something put in the directory of the sources: a file with the name of a source. -/
def IsSource (rs : List Site.Request) (place : Place) (node : Files.Node) : Prop :=
  node.isFile = true ∧ ∃ r ∈ rs, ∃ parent, place = parent ++ [sourceName r.symbol]

/-- The place of the source of a symbol, and what is in the file there. -/
structure SourceAt (config : Config) (tree : Tree) (symbol : String) (content : List UInt8)
    (place : Place) : Prop where
  /-- The path of the source leads there. -/
  leads : tree.goal true (join config.srcDir (sourceName symbol)) = .ok (.found place)
  /-- It stands under the name of the symbol. -/
  name : ∃ parent, place = parent ++ [sourceName symbol]
  /-- It is a file. -/
  file : ∃ m runnable, tree.get? place = some (.file content m runnable)

/-- A source has one place. -/
theorem SourceAt.unique {tree : Tree} {symbol : String} {content content' : List UInt8}
    {place place' : Place} (h : SourceAt config tree symbol content place)
    (h' : SourceAt config tree symbol content' place') : place = place' ∧ content = content' := by
  obtain rfl := Tree.Goal.found.inj (Except.ok.inj (h.leads.symm.trans h'.leads))
  obtain ⟨m, runnable, hfile⟩ := h.file
  obtain ⟨m', runnable', hfile'⟩ := h'.file
  exact ⟨rfl, (Files.Node.file.inj (Option.some.inj (hfile.symm.trans hfile'))).1⟩

/-- A source is not the root. -/
theorem SourceAt.ne_nil {tree : Tree} {symbol : String} {content : List UInt8} {place : Place}
    (h : SourceAt config tree symbol content place) : place ≠ [] := by
  obtain ⟨parent, rfl⟩ := h.name
  exact List.concat_ne_nil _ _

/-- In a tree that is in order the name of a source is plain. -/
theorem SourceAt.isName {tree : Tree} {symbol : String} {content : List UInt8} {place : Place}
    (h : SourceAt config tree symbol content place) (hproper : tree.Proper) :
    isName (sourceName symbol) = true := by
  obtain ⟨m, runnable, hfile⟩ := h.file
  obtain ⟨parent, rfl⟩ := h.name
  exact hproper.plain hfile

/-- It stays where it is if nothing is put there. -/
theorem SourceAt.of_grows {own : Place → Files.Node → Prop} {tree tree' : Tree} {symbol : String}
    {content : List UInt8} {place : Place} (h : SourceAt config tree symbol content place)
    (hgrows : Grows own tree tree') (hown : ∀ node, ¬ own place node) :
    SourceAt config tree' symbol content place := by
  obtain ⟨m, runnable, hfile⟩ := h.file
  exact ⟨Files.Tree.goal_of_grows hgrows h.leads, h.name, m, runnable,
    hgrows.get?_of_not_own hfile hown⟩

/-- The directory of the sources holds a source under a symbol. -/
def HasSource (config : Config) (tree : Tree) (symbol source : String) : Prop :=
  ∃ place, SourceAt config tree symbol (Text.Utf8.ofString source) place

/-- No link stands where the source of one of the requests is to be written. -/
def NoLinks (config : Config) (tree : Tree) (rs : List Site.Request) : Prop :=
  ∀ r ∈ rs, ∀ place,
    tree.goal false (join config.srcDir (sourceName r.symbol)) = .ok (.found place) →
      ∀ target, tree.get? place ≠ some (.link target)

/-- Where there are no links at all, none stands in the way. -/
theorem noLinks_of_nodes {tree : Tree}
    (h : ∀ p ∈ tree.nodes, p.2.isFile = true ∨ p.2.isDirectory = true)
    (rs : List Site.Request) : NoLinks config tree rs := by
  intro r _ place _ target hlink
  have hne : place ≠ [] := by
    rintro rfl
    exact absurd hlink (by simp)
  rcases h _ (Files.Tree.mem_nodes_of_get? hlink hne) with hfile | hdir
  · exact absurd hfile Bool.false_ne_true
  · exact absurd hdir Bool.false_ne_true

/-- What the work on some requests has done to the files, since the directory of the sources was
opened. -/
structure Sourced (config : Config) (site opened : Tree) (rs : List Site.Request) (tree : Tree) :
    Prop where
  /-- The tree has grown by the sources of these requests. -/
  grows : Grows (IsSource rs) opened tree
  /-- The directory of the sources is where it was. -/
  opens : ∀ parent, tree.Opens config.srcDir parent → opened.Opens config.srcDir parent
  /-- It holds the sources of all pages that are served. -/
  source : ∀ r ∈ rs, ∀ page, (fateOf config site r).page? = some page →
    HasSource config tree r.symbol page.source

/-- The name of the source of one of the requests is that of no other one's. -/
theorem not_isSource_of_notMem {node : Files.Node} {parent : Place}
    (hsymbol : r.symbol ∉ rs.map (·.symbol)) :
    ¬ IsSource rs (parent ++ [sourceName r.symbol]) node := by
  rintro ⟨-, s, hs, parent', heq⟩
  obtain ⟨-, hname⟩ := List.append_inj' heq rfl
  have hsame := Site.sourceName_injective (List.singleton_injective hname)
  exact hsymbol (hsame ▸ List.mem_map_of_mem hs)

variable {opened tree tree' : Tree} {page : CompiledPage}

/-- A source that is written stands in the directory of the sources, under its name. -/
theorem Sourced.exists_puts (h : Sourced config site opened rs tree) (hopened : opened.Proper)
    (hlinks : NoLinks config opened [r]) (hname : isName (sourceName r.symbol) = true)
    {content : List UInt8} {now : Files.Time}
    (hwrite : tree.write (join config.srcDir (sourceName r.symbol)) content now = .ok tree') :
    ∃ parent runnable, tree.Opens config.srcDir parent ∧
      tree.Puts true (join config.srcDir (sourceName r.symbol)) (.file content now runnable) tree'
        (parent ++ [sourceName r.symbol]) ∧
      tree'.goal true (join config.srcDir (sourceName r.symbol)) =
        .ok (.found (parent ++ [sourceName r.symbol])) := by
  obtain ⟨place, runnable, hputs⟩ := Files.Tree.exists_puts_of_write hwrite
  obtain ⟨goal, hgoal, hplace⟩ := hputs.leads
  obtain ⟨parent, m, hopens, hdir, hs, hchild⟩ := Files.Tree.exists_opens_of_goal hgoal hname
  have hlink : ∀ target, tree.get? (parent ++ [sourceName r.symbol]) ≠ some (.link target) := by
    intro target hlink
    -- no link has been made, so it stood there from the start
    have hold : opened.get? (parent ++ [sourceName r.symbol]) = some (.link target) := by
      rcases h.grows.new hlink with hold | hdir | ⟨hfile, -⟩
      · exact hold
      · exact absurd hdir Bool.false_ne_true
      · exact absurd hfile Bool.false_ne_true
    obtain ⟨m', hdir'⟩ := hopened.directory hold
    have hfound := (h.opens parent hopens).goal_join hname (Files.Tree.goal_eq_ok_iff.mp hgoal).1
      (.stop rfl hdir' hs hold)
    exact hlinks r List.mem_cons_self _ hfound target hold
  obtain rfl : parent ++ [sourceName r.symbol] = place := (hchild hlink).symm.trans hplace
  have hgrows : Grows (fun _ _ => True) tree tree' := hputs.grows (.inr trivial)
  refine ⟨parent, runnable, hopens, hputs, ?_⟩
  exact (hopens.of_grows hgrows).goal_join hname (Files.Tree.goal_eq_ok_iff.mp hgoal).1
    (Files.Tree.leadsTo_child (hgrows.get?_of_not_isFile hdir rfl) hs hputs.get?_self (by simp))

/-- **The step.** The source of a page is written, and all others stay. -/
theorem Sourced.write (h : Sourced config site opened rs tree) (hopened : opened.Proper)
    (hlinks : NoLinks config opened [r]) (hname : isName (sourceName r.symbol) = true)
    (hsymbol : r.symbol ∉ rs.map (·.symbol)) (hpage : (fateOf config site r).page? = some page)
    {now : Files.Time}
    (hwrite : tree.write (join config.srcDir (sourceName r.symbol))
      (Text.Utf8.ofString page.source) now = .ok tree') :
    Sourced config site opened (rs ++ [r]) tree' := by
  obtain ⟨parent, runnable, hopens, hputs, hleads⟩ := h.exists_puts hopened hlinks hname hwrite
  have hgrows : Grows (IsSource [r]) tree tree' :=
    hputs.grows (.inr ⟨rfl, r, List.mem_cons_self, parent, rfl⟩)
  have hmem (s : Site.Request) : s ∈ rs ++ [r] ↔ s ∈ rs ∨ s ∈ [r] := List.mem_append
  constructor
  · refine (h.grows.mono ?_).trans (hgrows.mono ?_)
    all_goals
      rintro place node ⟨hfile, s, hs, hplace⟩
      exact ⟨hfile, s, by simp_all, hplace⟩
  · intro parent' hopens'
    obtain rfl := hopens'.unique (hopens.of_grows hgrows)
    exact h.opens parent' hopens
  · intro s hs page' hpage'
    rcases (hmem s).mp hs with hs | hs
    · obtain ⟨place, hsource⟩ := h.source s hs page' hpage'
      refine ⟨place, hsource.of_grows hgrows fun node => ?_⟩
      obtain ⟨parent', rfl⟩ := hsource.name
      refine not_isSource_of_notMem ?_
      rw [List.map_singleton, List.mem_singleton]
      exact fun heq => hsymbol (heq ▸ List.mem_map_of_mem hs)
    · obtain rfl := List.mem_singleton.mp hs
      obtain rfl := Option.some.inj (hpage.symm.trans hpage')
      exact ⟨_, hleads, ⟨parent, rfl⟩, now, runnable, hputs.get?_self⟩

/-- A page that is not served leaves the files as they are. -/
theorem Sourced.skip (h : Sourced config site opened rs tree)
    (hpage : (fateOf config site r).page? = none) :
    Sourced config site opened (rs ++ [r]) tree where
  grows := h.grows.mono fun _ _ ⟨hfile, s, hs, hplace⟩ =>
    ⟨hfile, s, List.mem_append_left _ hs, hplace⟩
  opens := h.opens
  source := by
    intro s hs page' hpage'
    rcases List.mem_append.mp hs with hs | hs
    · exact h.source s hs page' hpage'
    · obtain rfl := List.mem_singleton.mp hs
      exact absurd (hpage'.symm.trans hpage) (Option.some_ne_none page')

/-- **The run.** After the work on some requests the directory of the sources holds those of all
pages that are served, whatever files were there before. -/
theorem sourced_foldlM (hproper : ws.tree.Proper) (hlinks : NoLinks config ws.tree rs)
    (hnames : ∀ r ∈ rs, isName (sourceName r.symbol) = true)
    (hsymbols : (rs.map (·.symbol)).Nodup) (hsite : Undisturbed config site rs done ws)
    (h : (rs.foldlM (generatePage config) done).run.run ws = (.ok done', ws')) :
    Sourced config site ws.tree rs ws'.tree := by
  induction rs using List.reverseRecOn generalizing done' ws' with
  | nil =>
      obtain ⟨-, rfl⟩ := eq_of_run_pure h
      exact ⟨.refl _ _, fun _ => id, fun r hr => absurd hr List.not_mem_nil⟩
  | append_singleton rs r ih =>
      obtain ⟨done₁, turn, hbefore, hturn, hlast⟩ := exists_last_turn h
      rw [List.map_append, List.nodup_append] at hsymbols
      have hr : r ∈ rs ++ [r] := List.mem_append_right rs List.mem_cons_self
      have hfirst := ih (fun s hs => hlinks s (List.mem_append_left _ hs))
        (fun s hs => hnames s (List.mem_append_left _ hs)) hsymbols.1 hsite.of_concat hbefore
      rw [hsite.fateOf_eq hturn] at hlast
      cases hpage : (fateOf config site r).page? with
      | none => exact hlast.kept hpage ▸ hfirst.skip hpage
      | some page =>
          refine hfirst.write hproper ?_ (hnames r hr) ?_ hpage (hlast.written page hpage)
          · exact fun s hs => hlinks s (List.mem_append_right rs hs)
          · exact fun hmem => hsymbols.2.2 _ hmem _ List.mem_cons_self rfl

end LivePages.Build
