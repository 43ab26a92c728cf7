import LivePages.Build.Product
import LivePages.Proofs.Files.Additions

/-!
# What a Build Writes

A build makes directories and links where nothing stands, and writes and removes files at few
paths: the sources of the pages, what belongs to its project, the versions it keeps for the next
build, and its executable. Everything else that happens to the files meanwhile is done by the
toolchain.

## Main results

* `Edits`: a change of the files that writes and removes at such paths only.
* `Within`: work on the files that makes no other changes.
* `WritesAt`: the paths of a build.
* `within_generatePage`, `within_openAssembled`, `within_compile`, `within_install`: the work of a
  build stays within its paths.
* `MayWriteAt.eq_or_exists_name`: which have other names than the executables of other builds.
-/

namespace LivePages.Build

open Files.Path (join fileName?)

/-! ### Running work -/

variable {α β : Type}

/-- Work after other work. -/
theorem run_bind (w : Work α) (f : α → Work β) (ws : Workspace) :
    (w >>= f).run.run ws =
      match w.run.run ws with
      | (.ok a, ws) => (f a).run.run ws
      | (.error e, ws) => (.error e, ws) := by
  rw [ExceptT.run_bind, StateT.run_bind]
  rcases w.run.run ws with ⟨_ | _, _⟩ <;> rfl

/-- Work after other work comes to something through what the other work comes to. -/
theorem run_bind_eq_ok_iff {w : Work α} {f : α → Work β} {ws ws' : Workspace} {b : β} :
    (w >>= f).run.run ws = (.ok b, ws') ↔
      ∃ a u, w.run.run ws = (.ok a, u) ∧ (f a).run.run u = (.ok b, ws') := by
  rw [run_bind]
  rcases w.run.run ws with ⟨e | a, u⟩
  · constructor
    · exact fun h => absurd (Prod.mk.inj h).1 (by simp)
    · rintro ⟨a, v, h, -⟩
      exact absurd (Prod.mk.inj h).1 (by simp)
  · constructor
    · exact fun h => ⟨a, u, rfl, h⟩
    · rintro ⟨a', v, h, hrest⟩
      obtain ⟨ha, rfl⟩ := Prod.mk.inj h
      obtain rfl := Except.ok.inj ha
      exact hrest

/-- Work after other work fails if one of them does. -/
theorem run_bind_eq_error_iff {w : Work α} {f : α → Work β} {ws ws' : Workspace} {e : Error} :
    (w >>= f).run.run ws = (.error e, ws') ↔ w.run.run ws = (.error e, ws') ∨
      ∃ a u, w.run.run ws = (.ok a, u) ∧ (f a).run.run u = (.error e, ws') := by
  rw [run_bind]
  rcases w.run.run ws with ⟨e' | a, u⟩
  · constructor
    · intro h
      obtain ⟨herror, rfl⟩ := Prod.mk.inj h
      rw [Except.error.inj herror]
      exact .inl rfl
    · rintro (h | ⟨a, v, h, -⟩)
      · obtain ⟨herror, rfl⟩ := Prod.mk.inj h
        rw [Except.error.inj herror]
      · exact absurd (Prod.mk.inj h).1 (by simp)
  · constructor
    · exact fun h => .inr ⟨a, u, rfl, h⟩
    · rintro (h | ⟨a', v, h, hrest⟩)
      · exact absurd (Prod.mk.inj h).1 (by simp)
      · obtain ⟨ha, rfl⟩ := Prod.mk.inj h
        obtain rfl := Except.ok.inj ha
        exact hrest

/-- Work that does nothing. -/
theorem eq_of_run_pure {ws ws' : Workspace} {a b : α}
    (h : (pure a : Work α).run.run ws = (.ok b, ws')) : a = b ∧ ws = ws' := by
  obtain ⟨hvalue, hws⟩ := Prod.mk.inj h
  exact ⟨Except.ok.inj hvalue, hws⟩

/-- Looking at the workspace. -/
theorem run_get (ws : Workspace) : (get : Work Workspace).run.run ws = (.ok ws, ws) :=
  rfl

/-- Work that looks at the workspace. -/
theorem eq_of_run_get {ws ws' u : Workspace}
    (h : (get : Work Workspace).run.run ws = (.ok u, ws')) : ws = u ∧ ws = ws' := by
  obtain ⟨hvalue, hws⟩ := Prod.mk.inj ((run_get ws).symm.trans h)
  exact ⟨Except.ok.inj hvalue, hws⟩

/-- A change of the files that succeeds. -/
theorem tree_of_run_change {f : Files.Tree → Files.Time → Except Files.Error Files.Tree}
    {ws ws' : Workspace} {u : Unit} (h : (Work.change f).run.run ws = (.ok u, ws')) :
    f ws.tree ws.now = .ok ws'.tree := by
  obtain ⟨v, v', hget, hrest⟩ := run_bind_eq_ok_iff.mp h
  obtain ⟨rfl, rfl⟩ := eq_of_run_get hget
  cases hchange : f ws.tree ws.now with
  | error e =>
      rw [hchange] at hrest
      exact absurd (show Except.error (Error.io e) = Except.ok u from (Prod.mk.inj hrest).1)
        (by simp)
  | ok tree =>
      rw [hchange] at hrest
      obtain rfl : { ws with tree } = ws' := (Prod.mk.inj hrest).2
      rfl

/-- A change of the files that can be made. -/
theorem run_change {f : Files.Tree → Files.Time → Except Files.Error Files.Tree} {ws : Workspace}
    {tree : Files.Tree} (h : f ws.tree ws.now = .ok tree) :
    (Work.change f).run.run ws = (.ok (), { ws with tree }) := by
  rw [Work.change, run_bind, run_get]
  simp only [h]
  rfl

/-- A report. -/
theorem run_report (lines : List Log.Line) (ws : Workspace) :
    (Work.report lines).run.run ws = (.ok (), { ws with log := ws.log ++ lines }) :=
  rfl

/-- Work that reports something. -/
theorem eq_of_run_report {lines : List Log.Line} {ws ws' : Workspace} {u : Unit}
    (h : (Work.report lines).run.run ws = (.ok u, ws')) :
    { ws with log := ws.log ++ lines } = ws' :=
  (Prod.mk.inj ((run_report lines ws).symm.trans h)).2

/-- A change of the files that succeeds changes nothing else. -/
theorem eq_of_run_change {f : Files.Tree → Files.Time → Except Files.Error Files.Tree}
    {ws ws' : Workspace} {u : Unit} (h : (Work.change f).run.run ws = (.ok u, ws')) :
    { ws with tree := ws'.tree } = ws' :=
  (Prod.mk.inj ((run_change (tree_of_run_change h)).symm.trans h)).2

/-- Work in place of other work that has failed. -/
theorem run_tryCatch (w : Work α) (handle : Error → Work α) (ws : Workspace) :
    (tryCatch w handle).run.run ws =
      match w.run.run ws with
      | (.ok a, ws) => (.ok a, ws)
      | (.error e, ws) => (handle e).run.run ws := by
  rw [ExceptT.run_tryCatch, StateT.run_bind]
  rcases w.run.run ws with ⟨_ | _, _⟩ <;> rfl

/-- Work that reads something. -/
theorem eq_of_run_look {f : Files.Tree → Except Files.Error α} {ws ws' : Workspace} {a : α}
    (h : (Work.look f).run.run ws = (.ok a, ws')) : f ws.tree = .ok a ∧ ws = ws' := by
  obtain ⟨u, u', hget, hrest⟩ := run_bind_eq_ok_iff.mp h
  obtain ⟨rfl, rfl⟩ := eq_of_run_get hget
  cases hread : f ws.tree with
  | error e =>
      rw [hread] at hrest
      exact absurd (show Except.error (Error.io e) = Except.ok a from (Prod.mk.inj hrest).1)
        (by simp)
  | ok b =>
      rw [hread] at hrest
      obtain ⟨rfl, rfl⟩ := eq_of_run_pure hrest
      exact ⟨rfl, rfl⟩

/-- A change of the files that may fail is made, or nothing is done. -/
theorem run_attempt_change (f : Files.Tree → Files.Time → Except Files.Error Files.Tree)
    (ws : Workspace) :
    (Work.attempt (Work.change f)).run.run ws =
      match f ws.tree ws.now with
      | .ok tree => (.ok none, { ws with tree })
      | .error e => (.ok (some (.io e)), ws) := by
  rw [Work.attempt, run_tryCatch, run_bind, Work.change, run_bind, run_get]
  dsimp only
  cases f ws.tree ws.now <;> rfl

/-- Work that is cleared up after has not failed if it comes to something. -/
theorem run_of_run_onFailure {w : Work α} {cleanup : Work Unit} {ws ws' : Workspace} {a : α}
    (h : (Work.onFailure w cleanup).run.run ws = (.ok a, ws')) : w.run.run ws = (.ok a, ws') := by
  rw [Work.onFailure, run_tryCatch] at h
  rcases hrun : w.run.run ws with ⟨e | b, u⟩
  · rw [hrun] at h
    obtain ⟨_, v, -, hthrow⟩ := run_bind_eq_ok_iff.mp h
    exact absurd (show Except.error e = Except.ok a from (Prod.mk.inj hthrow).1) (by simp)
  · rw [hrun] at h
    exact h

/-- Work whose failure does not matter never fails. -/
theorem run_quietly (w : Work Unit) (ws : Workspace) :
    (Work.quietly w).run.run ws = (.ok (), (w.run.run ws).2) := by
  rw [Work.quietly, run_bind, Work.attempt, run_tryCatch, run_bind]
  rcases w.run.run ws with ⟨_ | _, _⟩ <;> rfl

/-- Work that fails has been cleared up after. -/
theorem exists_of_run_onFailure {w : Work α} {cleanup : Work Unit} {ws ws' : Workspace} {e : Error}
    (h : (Work.onFailure w cleanup).run.run ws = (.error e, ws')) :
    ∃ u, w.run.run ws = (.error e, u) ∧ (cleanup.run.run u).2 = ws' := by
  rw [Work.onFailure, run_tryCatch] at h
  rcases hrun : w.run.run ws with ⟨e' | a, u⟩
  · rw [hrun] at h
    dsimp only at h
    rw [run_bind, run_quietly] at h
    obtain ⟨herror, hws⟩ := Prod.mk.inj h
    obtain rfl := Except.error.inj herror
    exact ⟨u, rfl, hws⟩
  · rw [hrun] at h
    exact absurd (Prod.mk.inj h).1 (by simp)

/-- A change of the files that may fail is made, or they stay as they are. -/
theorem run_change_snd (f : Files.Tree → Files.Time → Except Files.Error Files.Tree)
    (ws : Workspace) :
    ((Work.change f).run.run ws).2 =
      { ws with tree := (f ws.tree ws.now).toOption.getD ws.tree } := by
  rw [Work.change, run_bind, run_get]
  dsimp only
  cases f ws.tree ws.now <;> rfl

/-- A change of the files that fails changes nothing. -/
theorem eq_of_run_change_error {f : Files.Tree → Files.Time → Except Files.Error Files.Tree}
    {ws ws' : Workspace} {e : Error} (h : (Work.change f).run.run ws = (.error e, ws')) :
    ws = ws' := by
  rw [Work.change, run_bind, run_get] at h
  dsimp only at h
  cases hchange : f ws.tree ws.now with
  | error e' =>
      rw [hchange] at h
      exact (Prod.mk.inj h).2
  | ok tree =>
      rw [hchange] at h
      exact absurd (show Except.ok () = Except.error e from (Prod.mk.inj h).1) (by simp)

/-! ### Changes of the files -/

/-- A change of the files, step by step: a directory or a link is made where nothing stood, a file
is written or something is removed at one of certain paths, or something else is done that is
foreseen. -/
inductive Edits (foreseen : Files.Tree → Files.Tree → Prop) (own : String → Prop) :
    Files.Tree → Files.Tree → Prop
  | rest {tree : Files.Tree} : Edits foreseen own tree tree
  | makeDir {tree tree' : Files.Tree} {path : String} {now : Files.Time}
      (h : tree.makeDir path now = .ok tree') : Edits foreseen own tree tree'
  | makeLink {tree tree' : Files.Tree} {path target : String}
      (h : tree.makeLink path target = .ok tree') : Edits foreseen own tree tree'
  | write {tree tree' : Files.Tree} {path : String} {content : List UInt8} {now : Files.Time}
      (hown : own path) (h : tree.write path content now = .ok tree') :
      Edits foreseen own tree tree'
  | copy {tree tree' : Files.Tree} {source path : String} {now : Files.Time}
      (hown : own path) (h : tree.copy source path now = .ok tree') :
      Edits foreseen own tree tree'
  | removeFile {tree tree' : Files.Tree} {path : String}
      (hown : own path) (h : tree.removeFile path = .ok tree') : Edits foreseen own tree tree'
  | removeDirs {tree tree' : Files.Tree} {path : String}
      (hown : own path) (h : tree.removeDirs path = .ok tree') : Edits foreseen own tree tree'
  | other {tree tree' : Files.Tree} (h : foreseen tree tree') : Edits foreseen own tree tree'
  | trans {tree tree' tree'' : Files.Tree} (h : Edits foreseen own tree tree')
      (h' : Edits foreseen own tree' tree'') : Edits foreseen own tree tree''

variable {foreseen foreseen' : Files.Tree → Files.Tree → Prop} {own own' : String → Prop}
  {tree tree' : Files.Tree}

/-- More may be foreseen, and at more paths. -/
theorem Edits.mono (h : Edits foreseen own tree tree')
    (hforeseen : ∀ tree tree', foreseen tree tree' → foreseen' tree tree')
    (hown : ∀ path, own path → own' path) : Edits foreseen' own' tree tree' := by
  induction h with
  | rest => exact .rest
  | makeDir h => exact .makeDir h
  | makeLink h => exact .makeLink h
  | write hp h => exact .write (hown _ hp) h
  | copy hp h => exact .copy (hown _ hp) h
  | removeFile hp h => exact .removeFile (hown _ hp) h
  | removeDirs hp h => exact .removeDirs (hown _ hp) h
  | other h => exact .other (hforeseen _ _ h)
  | trans _ _ ih ih' => exact .trans ih ih'

/-! ### Work on the files -/

/-- Whatever the workspace, the work changes the files in such a way only. -/
def Within (foreseen : Files.Tree → Files.Tree → Prop) (own : String → Prop) (w : Work α) :
    Prop :=
  ∀ ws : Workspace, Edits foreseen own ws.tree (w.run.run ws).2.tree

variable {w : Work α} {f : α → Work β}

/-- Nothing is done. -/
theorem within_pure (a : α) : Within foreseen own (pure a : Work α) :=
  fun _ => .rest

/-- Nothing is done but to fail. -/
theorem within_throw (e : Error) : Within foreseen own (throw e : Work α) :=
  fun _ => .rest

/-- The workspace is looked at. -/
theorem within_get : Within foreseen own (get : Work Workspace) :=
  fun _ => .rest

/-- Something is reported. -/
theorem within_report (lines : List Log.Line) : Within foreseen own (Work.report lines) :=
  fun _ => .rest

/-- What the work comes to has a property, if it does not fail. -/
def Yields (P : α → Prop) (w : Work α) : Prop :=
  ∀ ws ws' a, w.run.run ws = (.ok a, ws') → P a

variable {P : α → Prop} {Q : β → Prop}

/-- A value with the property. -/
theorem yields_pure {a : α} (h : P a) : Yields P (pure a) := by
  intro ws ws' b heq
  obtain ⟨rfl, -⟩ := eq_of_run_pure heq
  exact h

/-- Work whose first part yields something with a property. -/
theorem yields_bind_of (h : Yields P w) (h' : ∀ a, P a → Yields Q (f a)) :
    Yields Q (w >>= f) := by
  intro ws ws' b heq
  obtain ⟨a, u, hrun, hrest⟩ := run_bind_eq_ok_iff.mp heq
  exact h' a (h ws u a hrun) u ws' b hrest

/-- Work that yields the same thing whatever its first part does. -/
theorem yields_bind (h : ∀ a, Yields Q (f a)) : Yields Q (w >>= f) :=
  yields_bind_of (P := fun _ => True) (fun _ _ _ _ => trivial) fun a _ => h a

/-- One thing is done after another one that yields something with a property. -/
theorem within_bind_of (h : Within foreseen own w) (hvalue : Yields P w)
    (h' : ∀ a, P a → Within foreseen own (f a)) : Within foreseen own (w >>= f) := by
  intro ws
  have hfirst := h ws
  rw [run_bind]
  rcases hrun : w.run.run ws with ⟨e | a, ws'⟩ <;> rw [hrun] at hfirst
  · exact hfirst
  · exact hfirst.trans (h' a (hvalue ws ws' a hrun) ws')

/-- One thing is done after the other. -/
theorem within_bind (h : Within foreseen own w) (h' : ∀ a, Within foreseen own (f a)) :
    Within foreseen own (w >>= f) :=
  within_bind_of (P := fun _ => True) h (fun _ _ _ _ => trivial) fun a _ => h' a

/-- What fails may be followed by something else. -/
theorem within_tryCatch {handle : Error → Work α} (h : Within foreseen own w)
    (h' : ∀ e, Within foreseen own (handle e)) : Within foreseen own (tryCatch w handle) := by
  intro ws
  have hfirst := h ws
  rw [run_tryCatch]
  rcases hrun : w.run.run ws with ⟨e | a, ws'⟩ <;> rw [hrun] at hfirst
  · exact hfirst.trans (h' e ws')
  · exact hfirst

/-- Something is done that may fail. -/
theorem within_attempt {w : Work Unit} (h : Within foreseen own w) :
    Within foreseen own (Work.attempt w) :=
  within_tryCatch (within_bind h fun _ => within_pure _) fun _ => within_pure _

/-- Something is done whose failure does not matter. -/
theorem within_quietly {w : Work Unit} (h : Within foreseen own w) :
    Within foreseen own (Work.quietly w) :=
  within_bind (within_attempt h) fun _ => within_pure _

/-- Something is cleared up after a failure. -/
theorem within_onFailure {cleanup : Work Unit} (h : Within foreseen own w)
    (h' : Within foreseen own cleanup) : Within foreseen own (Work.onFailure w cleanup) :=
  within_tryCatch h fun _ => within_bind (within_quietly h') fun _ => within_throw _

/-- Something is read. -/
theorem within_look (g : Files.Tree → Except Files.Error α) :
    Within foreseen own (Work.look g) := by
  refine within_bind within_get fun ws => ?_
  split
  · exact within_pure _
  · exact within_throw _

/-- Something is done for each member of a list. -/
theorem within_forM {f : α → Work PUnit} (h : ∀ a, Within foreseen own (f a)) (l : List α) :
    Within foreseen own (l.forM f) := by
  induction l with
  | nil => exact within_pure _
  | cons a l ih => exact within_bind (h a) fun _ => ih

/-- The files are changed. -/
theorem within_change {change : Files.Tree → Files.Time → Except Files.Error Files.Tree}
    (h : ∀ tree tree' now, change tree now = .ok tree' → Edits foreseen own tree tree') :
    Within foreseen own (Work.change change) := by
  intro ws
  rw [Work.change, run_bind, run_get]
  dsimp only
  cases hchange : change ws.tree ws.now with
  | error e => exact .rest
  | ok tree => exact h _ _ _ hchange

/-- Missing directories are made. -/
theorem within_makeDirs (path : String) : Within foreseen own (Work.makeDirs path) :=
  within_change fun _ _ _ h => Files.Tree.makeDirs_induction (fun _ => .rest) .trans .makeDir h

/-- A file is written. -/
theorem within_writeText {path : String} (hown : own path) (text : String) :
    Within foreseen own (Work.writeText path text) :=
  within_change fun _ _ _ h => .write hown h

/-- A file is copied. -/
theorem within_copy {path : String} (hown : own path) (source : String) :
    Within foreseen own (Work.copy source path) :=
  within_change fun _ _ _ h => .copy hown h

/-! ### Work through every outcome -/

/-- Files with the first property have the second one after the work, whether or not it fails. -/
def Turns (P Q : Files.Tree → Prop) (w : Work α) : Prop :=
  ∀ ws : Workspace, P ws.tree → Q (w.run.run ws).2.tree

/-- Files with the property keep it, whether or not the work fails. -/
abbrev Keeps (P : Files.Tree → Prop) (w : Work α) : Prop :=
  Turns P P w

section

variable {P Q R : Files.Tree → Prop} {w : Work α} {f : α → Work β}

/-- What the files are after the work, if its outcome is known. -/
theorem Turns.of_run {ws ws' : Workspace} {result : Except Error α} (h : Turns P Q w)
    (hrun : w.run.run ws = (result, ws')) (hP : P ws.tree) : Q ws'.tree := by
  have hQ := h ws hP
  rwa [hrun] at hQ

theorem turns_pure (h : ∀ tree, P tree → Q tree) (a : α) : Turns P Q (pure a : Work α) :=
  fun ws => h ws.tree

theorem keeps_get : Keeps P (get : Work Workspace) :=
  fun _ => id

theorem keeps_report (lines : List Log.Line) : Keeps P (Work.report lines) :=
  fun _ => id

/-- One thing is done after the other, unless the first one fails. -/
theorem turns_bind (h : Turns P Q w) (h' : ∀ a, Turns Q R (f a)) (hfail : ∀ tree, Q tree → R tree) :
    Turns P R (w >>= f) := by
  intro ws hws
  have hfirst := h ws hws
  rw [run_bind]
  rcases hrun : w.run.run ws with ⟨e | a, ws'⟩ <;> rw [hrun] at hfirst
  · exact hfail _ hfirst
  · exact h' a ws' hfirst

/-- The files are changed, or stay as they are. -/
theorem turns_change {change : Files.Tree → Files.Time → Except Files.Error Files.Tree}
    (hfail : ∀ tree, P tree → Q tree)
    (h : ∀ tree tree' now, P tree → change tree now = .ok tree' → Q tree') :
    Turns P Q (Work.change change) := by
  intro ws hws
  rw [run_change_snd]
  dsimp only
  cases hchange : change ws.tree ws.now with
  | error e => exact hfail _ hws
  | ok tree => exact h _ _ _ hws hchange

/-- Something is read. -/
theorem keeps_look (g : Files.Tree → Except Files.Error α) : Keeps P (Work.look g) := by
  refine turns_bind keeps_get (fun ws => ?_) fun _ => id
  split
  · exact turns_pure (fun _ => id) _
  · exact fun _ => id

/-- Something is done for each member of a list. -/
theorem keeps_foldlM {f : β → α → Work β} {l : List α} (h : ∀ b, ∀ a ∈ l, Keeps P (f b a))
    (b : β) : Keeps P (l.foldlM f b) := by
  induction l generalizing b with
  | nil => exact turns_pure (fun _ => id) b
  | cons a l ih =>
      rw [List.foldlM_cons]
      exact turns_bind (h b a List.mem_cons_self)
        (fun b => ih (fun b a ha => h b a (List.mem_cons_of_mem _ ha)) b) fun _ => id

end

/-! ### The paths of a build -/

/-- The paths that a build of an executable writes to and removes, with a directory for its
project. -/
inductive WritesAt (config : Config) (directory executable : String) : String → Prop
  | executable : WritesAt config directory executable executable
  | source (symbol : String) :
      WritesAt config directory executable (join config.srcDir (sourceName symbol))
  | keptLock : WritesAt config directory executable (lockPath config.targetDir)
  | directory : WritesAt config directory executable directory
  | manifest : WritesAt config directory executable (join directory "Cargo.toml")
  | entry : WritesAt config directory executable (join (join directory "src") "main.rs")
  | lock : WritesAt config directory executable (lockPath directory)
  | page (symbol : String) :
      WritesAt config directory executable
        (join (join (join directory "src") "pages") (sourceName symbol))

/-- What a toolchain does for an executable. -/
def Toolchain.Does (toolchain : Toolchain) (executable : String) (tree tree' : Files.Tree) :
    Prop :=
  ∃ (directory : String) (ws : Workspace), ws.tree = tree ∧
    ((toolchain directory (recordPath executable)).run.run ws).2.tree = tree'

variable {config : Config} {directory executable : String}

/-- A project directory is removed. -/
theorem within_closeProject :
    Within foreseen (WritesAt config directory executable) (closeProject directory) :=
  within_change fun _ _ _ h => .removeDirs .directory h

/-- A file is put into a project. -/
theorem within_linkOrCopy {source path : String} (hown : own path) :
    Within foreseen own (linkOrCopy source path) := by
  refine within_bind (within_look _) fun resolved => ?_
  refine within_bind (within_attempt (within_change fun _ _ _ h => .makeLink h)) fun failure => ?_
  split
  · exact within_pure _
  · exact within_copy hown _

/-- A project directory is filled. -/
theorem within_assemble (pages : List Source.EntryPage) :
    Within foreseen (WritesAt config directory executable) (assemble config directory pages) := by
  refine within_bind (within_makeDirs _) fun _ => ?_
  refine within_bind (within_writeText .manifest _) fun _ => ?_
  refine within_bind (within_writeText .entry _) fun _ => ?_
  refine within_bind within_get fun ws => ?_
  have hpages : Within foreseen (WritesAt config directory executable)
      (pages.forM fun page =>
        linkOrCopy (join config.srcDir (sourceName page.symbol))
          (join (join (join directory "src") "pages") (sourceName page.symbol))) :=
    within_forM (fun page => within_linkOrCopy (.page page.symbol)) pages
  split
  · exact within_bind (within_copy .lock _) fun _ => hpages
  · exact hpages

/-- The directory is one of those that are made for projects. -/
def IsProjectPath (config : Config) (directory : String) : Prop :=
  ∃ n, directory = projectPath (config.tmpDir.getD systemTemporary) n

/-- A fresh path for a project is one of those. -/
theorem isProjectPath_freshPath (config : Config) (tree : Files.Tree) :
    IsProjectPath config (freshPath tree (config.tmpDir.getD systemTemporary)) := by
  rw [freshPath]
  rcases hfind : ((List.range (tree.nodes.length + 1)).map
    (projectPath (config.tmpDir.getD systemTemporary))).find? (isVacant tree) with _ | path
  · exact ⟨0, rfl⟩
  · obtain ⟨n, -, rfl⟩ := List.mem_map.mp (List.mem_of_find?_eq_some hfind)
    exact ⟨n, rfl⟩

/-- A project directory is made. -/
theorem within_openProject : Within foreseen own (openProject config) := by
  have hdirectory (path : String) : Within foreseen own
      (do
        Work.change fun tree now => tree.makeDir path now
        return path) :=
    within_bind (within_change fun _ _ _ h => .makeDir h) fun _ => within_pure _
  rw [openProject]
  split
  · exact within_bind (within_makeDirs _) fun _ => within_bind within_get fun _ => hdirectory _
  · exact within_bind within_get fun _ => hdirectory _

/-- It is one of those that are made for projects. -/
theorem yields_openProject : Yields (IsProjectPath config) (openProject config) := by
  have hdirectory (ws : Workspace) : Yields (IsProjectPath config)
      (do
        let path := freshPath ws.tree (config.tmpDir.getD systemTemporary)
        Work.change fun tree now => tree.makeDir path now
        return path) :=
    yields_bind fun _ => yields_pure (isProjectPath_freshPath config ws.tree)
  rw [openProject]
  split
  · exact yields_bind fun _ => yields_bind fun ws => hdirectory ws
  · exact yields_bind fun ws => hdirectory ws

/-- The paths of a build, whichever directory its project has. -/
def MayWriteAt (config : Config) (executable path : String) : Prop :=
  ∃ directory, IsProjectPath config directory ∧ WritesAt config directory executable path

/-- Work in a project directory. -/
theorem Within.mayWriteAt (h : Within foreseen (WritesAt config directory executable) w)
    (hdirectory : IsProjectPath config directory) :
    Within foreseen (MayWriteAt config executable) w :=
  fun ws => (h ws).mono (fun _ _ => id) fun _ hpath => ⟨directory, hdirectory, hpath⟩

/-- The source of a page is written. -/
theorem within_generatePage (done : Generated) (r : Site.Request) :
    Within foreseen (MayWriteAt config executable) (generatePage config done r) := by
  have hsource : MayWriteAt config executable (join config.srcDir (sourceName r.symbol)) :=
    ⟨_, ⟨0, rfl⟩, .source r.symbol⟩
  refine within_bind within_get fun ws => ?_
  split
  · exact within_bind (within_report _) fun _ => within_pure _
  · refine within_bind (within_report _) fun _ => ?_
    split
    · exact within_bind (within_report _) fun _ => within_pure _
    · exact within_bind (within_writeText hsource _) fun _ => within_pure _

/-- A project is assembled. -/
theorem within_openAssembled (done : Generated) :
    Within foreseen (MayWriteAt config executable) (openAssembled config done executable) := by
  refine within_bind_of within_openProject yields_openProject fun directory hdirectory => ?_
  refine Within.mayWriteAt (within_bind ?_ fun _ => within_pure _) hdirectory
  refine within_onFailure (within_bind (within_assemble _) fun _ => ?_) within_closeProject
  split
  · exact within_makeDirs _
  · exact within_pure _

/-- Its directory is one of those that are made for projects. -/
theorem yields_openAssembled (done : Generated) :
    Yields (fun project => IsProjectPath config project.directory)
      (openAssembled config done executable) :=
  yields_bind_of yields_openProject fun _ hdirectory =>
    yields_bind fun _ => yields_pure hdirectory

variable {toolchain : Toolchain} {project : Project}

/-- The toolchain is run. A failure removes the project. -/
theorem within_compile (hdirectory : IsProjectPath config project.directory) :
    Within (toolchain.Does executable) (MayWriteAt config executable)
      (compile toolchain project executable) := by
  refine Within.mayWriteAt (within_onFailure ?_ within_closeProject) hdirectory
  exact fun ws => .other ⟨project.directory, ws, rfl, rfl⟩

/-- The versions are kept. -/
theorem within_keepLock :
    Within foreseen (WritesAt config directory executable) (keepLock config project) := by
  intro ws
  rw [keepLock, run_bind, run_get]
  dsimp only
  cases hcopy : ws.tree.copy (lockPath project.directory) (lockPath config.targetDir) ws.now with
  | error e => exact .rest
  | ok tree => exact .copy .keptLock hcopy

/-- The executable is put to its place. -/
theorem within_install (built : String) (hdirectory : IsProjectPath config project.directory) :
    Within foreseen (MayWriteAt config executable)
      (install config project built executable) := by
  refine Within.mayWriteAt ?_ hdirectory
  refine within_bind (within_onFailure (within_copy .executable _) within_closeProject) fun _ => ?_
  refine within_bind within_keepLock fun _ => ?_
  exact within_bind (within_quietly within_closeProject) fun _ => within_pure _

/-! ### Names -/

/-- The name of a source has a dot. -/
theorem exists_fileName?_source (base symbol : String) :
    ∃ name, fileName? (join base (sourceName symbol)) = some name ∧ '.' ∈ name.toList := by
  have happend : ∃ front, join base (sourceName symbol) = front ++ ".rs" := by
    rw [join]
    split
    · exact ⟨symbol, rfl⟩
    · split
      · exact ⟨base ++ symbol, (String.append_assoc ..).symm⟩
      · exact ⟨base ++ "/" ++ symbol, (String.append_assoc ..).symm⟩
  obtain ⟨front, hfront⟩ := happend
  obtain ⟨stem, hstem⟩ := Files.Path.exists_fileName?_append front ".rs" (by decide)
    (by decide)
  refine ⟨stem ++ ".rs", hfront ▸ hstem, ?_⟩
  rw [String.toList_append]
  exact List.mem_append_right _ (by decide)

/-- **A build keeps off the names of other executables.** All that it writes to or removes, apart
from its own executable, has a dot or an underscore in its name. -/
theorem MayWriteAt.eq_or_exists_name {path : String} (h : MayWriteAt config executable path) :
    path = executable ∨ ∃ name, fileName? path = some name ∧
      ('.' ∈ name.toList ∨ '_' ∈ name.toList) := by
  obtain ⟨_, ⟨n, rfl⟩, hpath⟩ := h
  cases hpath with
  | executable => exact Or.inl rfl
  | source symbol | page symbol =>
      obtain ⟨name, hname, hdot⟩ := exists_fileName?_source _ symbol
      exact Or.inr ⟨name, hname, Or.inl hdot⟩
  | keptLock | lock | manifest | entry =>
      exact Or.inr ⟨_, Files.Path.fileName?_join_name _ (by decide), Or.inl (by decide)⟩
  | directory =>
      refine Or.inr ⟨"rsp_" ++ toString n, ?_, Or.inr ?_⟩
      · exact Files.Path.fileName?_join_name _
          (Files.Path.isName_numbered (c := 'r') (by decide) (by decide) (by decide) n)
      · rw [String.toList_append]
        exact List.mem_append_left _ (by decide)

end LivePages.Build
