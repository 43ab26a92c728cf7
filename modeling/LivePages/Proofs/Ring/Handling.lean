import LivePages.Proofs.Build.Edits
import LivePages.Proofs.Ring.Progress

/-!
# What a Ring Does to the Files

Of the statements of a rotation only those of its build change files, and those within the paths of
a build into the current slot. Of the statements of a retirement one deletes a file, the executable
of its slot. The executables of the slots have names of their own, which no build into another
slot touches.

## Main results

* `fileName?_ne_of_mayWriteAt`: a build keeps off the executables of other slots.
* `Handling`, `Machine.carryOut_handling`: what the statements of a rotation do to the files.
* `Machine.retire_files`: what those of a retirement do.
-/

namespace LivePages.Ring

open Build (Edits Within MayWriteAt IsProjectPath)
open Files.Path (fileName?)

/-! ### Executables -/

/-- The name of an executable. -/
theorem fileName?_executablePath (exeDir : String) (i : ℕ) :
    fileName? (executablePath exeDir i) = some ("backend-" ++ toString i) :=
  Files.Path.fileName?_join_name _
    (Files.Path.isName_numbered (c := 'b') (by decide) (by decide) (by decide) i)

/-- A build into one slot keeps off the names of the executables of all others. -/
theorem fileName?_ne_of_mayWriteAt {config : Config} {path : String} {i j : ℕ} (hij : i ≠ j)
    (h : MayWriteAt config (executablePath config.exeDir i) path) :
    fileName? path ≠ fileName? (executablePath config.exeDir j) := by
  rw [fileName?_executablePath]
  rcases h.eq_or_exists_name with rfl | ⟨name, hname, hmem⟩
  · rw [fileName?_executablePath]
    exact fun heq => hij (Text.numbered_injective _ (Option.some.inj heq))
  · rw [hname]
    intro heq
    obtain rfl := Option.some.inj heq
    have hplain : ∀ c ∈ ("backend-" ++ toString j).toList, c ≠ '.' ∧ c ≠ '_' := by
      intro c hc
      rw [String.toList_append, List.mem_append] at hc
      rcases hc with hc | hc
      · have hprefix : "backend-".toList.all (fun c => c ≠ '.' ∧ c ≠ '_') = true := by decide
        exact of_decide_eq_true (List.all_eq_true.mp hprefix c hc)
      · have hdigit := Text.isDigit_of_mem_toString hc
        exact ⟨by rintro rfl; exact absurd hdigit (by decide),
          by rintro rfl; exact absurd hdigit (by decide)⟩
    rcases hmem with hmem | hmem
    · exact (hplain _ hmem).1 rfl
    · exact (hplain _ hmem).2 rfl

/-! ### Statements -/

variable {s t : Machine} {st : Statement} {world : World}

/-- The statement is part of a build. -/
def Statement.builds : Statement → Bool
  | .openSources _ | .generate _ _ | .assemble _ | .compile _ | .install _ _ => true
  | _ => false

/-- The project that a statement works on. -/
def Statement.project? : Statement → Option Build.Project
  | .compile project | .install project _ => some project
  | _ => none

/-- The projects of all tasks are in directories of their own. -/
def Machine.Housed (s : Machine) : Prop :=
  ∀ project, s.task.bind (·.project?) = some project → IsProjectPath s.config project.directory

/-- What a statement of the task that has the ring does to the files. -/
structure Handling (world : World) (s : Machine) (st : Statement) (t : Machine) : Prop where
  /-- The settings stay. -/
  config : t.config = s.config
  /-- Only builds change the files. -/
  quiet : st.builds = false → t.tree = s.tree
  /-- A build only does so within its paths, the toolchain apart. -/
  edits : Edits (world.toolchain.Does s.current.exePath)
    (MayWriteAt s.config s.current.exePath) s.tree t.tree
  /-- The next project has a directory of its own. -/
  housed : t.Housed

/-- A statement that has nothing to do with the files. -/
theorem Handling.of_tree_eq (hconfig : t.config = s.config) (htree : t.tree = s.tree)
    (hproject : t.task.bind (·.project?) = none) : Handling world s st t := by
  refine ⟨hconfig, fun _ => htree, htree ▸ .rest, ?_⟩
  intro project hnext
  exact absurd (hproject.symm.trans hnext) (by simp)

/-- A statement of a build. -/
theorem Handling.of_work {α : Type} {r u : Machine} {w : Build.Work α} {next : Statement}
    {result : Except Error α} (hconfig : r.config = s.config) (htree : r.tree = s.tree)
    (hbuilds : st.builds = true)
    (hwithin : Within (world.toolchain.Does s.current.exePath)
      (MayWriteAt s.config s.current.exePath) w)
    (hwork : r.work w = (result, u))
    (hproject : ∀ project, next.project? = some project →
      IsProjectPath s.config project.directory) : Handling world s st (u.next next) := by
  have hedits := hwithin ⟨r.tree, r.clock, []⟩
  have hu : u = { r with tree := u.tree, log := u.log } := by
    obtain ⟨tree, log, heq⟩ := r.work_eq w
    rw [hwork] at heq
    obtain rfl : u = { r with tree, log } := heq
    rfl
  have hconfig' : u.config = s.config := by rw [hu, ← hconfig]
  refine ⟨hconfig', fun hquiet => absurd (hbuilds.symm.trans hquiet) (by simp), ?_, ?_⟩
  · rw [← htree]
    have htree' : u.tree = (w.run.run ⟨r.tree, r.clock, []⟩).2.tree := by
      rw [show u = (r.work w).2 by rw [hwork]]
      rfl
    exact htree' ▸ hedits
  · intro project hnext
    show IsProjectPath u.config project.directory
    rw [hconfig']
    exact hproject project hnext

/-- What work on the files comes to. -/
theorem Machine.yields_of_work {α : Type} {P : α → Prop} {r u : Machine} {w : Build.Work α} {a : α}
    (hyields : Build.Yields P w) (hwork : r.work w = (.ok a, u)) : P a := by
  have hvalue : (w.run.run ⟨r.tree, r.clock, []⟩).1 = .ok a := congrArg Prod.fst hwork
  exact hyields ⟨r.tree, r.clock, []⟩ _ a (Prod.ext hvalue rfl)

/-- **What a statement of the task that has the ring does to the files.** -/
theorem Machine.carryOut_handling (htask : s.task = some st) (hhoused : s.Housed)
    (h : s.carryOut world st = some t) : Handling world s st t := by
  cases st with
  | scan =>
      rw [carryOut] at h
      split at h <;> obtain rfl := Option.some.inj h <;> exact .of_tree_eq rfl rfl rfl
  | check pages =>
      obtain rfl := Option.some.inj h
      simp only [check]
      split <;> exact .of_tree_eq rfl rfl rfl
  | acquire pages stale =>
      obtain ⟨u, hu, rfl⟩ := Option.map_eq_some_iff.mp h
      obtain ⟨-, hu⟩ := Option.ite_none_left_eq_some.mp hu
      obtain rfl := Option.some.inj hu
      rw [acquired]
      split <;> exact .of_tree_eq rfl rfl rfl
  | enterBuilding pages | announceBuild pages | leaveBuilding e | announceBuildFailure e
  | enterLaunching | killUnready b e | leaveLaunching e | announceLaunchFailure e
  | announceLaunch b | enterLive b | publish b | announcePublication b | handOver b | turn
  | showPosition | giveUp outcome | stopKill old | stopUnlock old | finish outcome =>
      obtain rfl := Option.some.inj h
      exact .of_tree_eq rfl rfl rfl
  | openSources pages =>
      obtain rfl := Option.some.inj h
      rw [openSources]
      split <;> rename_i hwork <;>
        exact .of_work rfl rfl rfl (Build.within_makeDirs _) hwork (by simp [Statement.project?])
  | generate waiting done =>
      obtain rfl := Option.some.inj h
      cases waiting with
      | nil => exact .of_tree_eq rfl rfl rfl
      | cons r waiting =>
          unfold generate
          dsimp only
          split <;> rename_i hwork <;>
            exact .of_work rfl rfl rfl (Build.within_generatePage done r) hwork
              (by simp [Statement.project?])
  | assemble done =>
      obtain rfl := Option.some.inj h
      rw [assemble]
      split <;> rename_i hwork
      · refine .of_work rfl rfl rfl (Build.within_openAssembled done) hwork ?_
        intro project hproject
        obtain rfl := Option.some.inj hproject
        exact yields_of_work (P := fun project => IsProjectPath s.config project.directory)
          (Build.yields_openAssembled done) hwork
      · exact .of_work rfl rfl rfl (Build.within_openAssembled done) hwork
          (by simp [Statement.project?])
  | compile project =>
      obtain rfl := Option.some.inj h
      have hproject := hhoused project (by rw [htask]; rfl)
      rw [compile]
      split <;> rename_i hwork
      · refine .of_work (r := s.record _) rfl rfl rfl (Build.within_compile hproject) hwork ?_
        intro next hnext
        obtain rfl := Option.some.inj hnext
        exact hproject
      · exact .of_work (r := s.record _) rfl rfl rfl (Build.within_compile hproject) hwork
          (by simp [Statement.project?])
  | install project built =>
      obtain rfl := Option.some.inj h
      have hproject := hhoused project (by rw [htask]; rfl)
      rw [install]
      split <;> rename_i hwork <;>
        exact .of_work rfl rfl rfl (Build.within_install built hproject) hwork
          (by simp [Statement.project?])
  | start =>
      obtain rfl := Option.some.inj h
      rw [start]
      split <;> exact .of_tree_eq rfl rfl rfl
  | examine b =>
      obtain rfl := Option.some.inj h
      rw [examine]
      split <;> exact .of_tree_eq rfl rfl rfl
  | probe b =>
      obtain rfl := Option.some.inj h
      rw [probe]
      split <;> exact .of_tree_eq rfl rfl rfl
  | awaitUnready b e | stopAwait old =>
      obtain ⟨status, -, rfl⟩ := Option.map_eq_some_iff.mp h
      exact .of_tree_eq rfl rfl rfl
  | stop =>
      obtain rfl := Option.some.inj h
      rw [stop]
      split <;> exact .of_tree_eq rfl rfl rfl
  | stopMove old next later =>
      cases later with
      | nil =>
          obtain rfl := Option.some.inj h
          exact .of_tree_eq rfl rfl rfl
      | cons q later =>
          obtain rfl := Option.some.inj h
          exact .of_tree_eq rfl rfl rfl

/-- What a statement of a retirement does to the files. -/
theorem Machine.retire_files {h : Handle} {now : Retiring} {following : Option Retiring}
    (heq : s.retire h now = some (t, following)) : t.config = s.config ∧
      (t.tree = s.tree ∨
        now = .delete ∧ s.tree.removeFile (s.slot h.slot).exePath = .ok t.tree) := by
  cases now with
  | enterDraining | enterTerminating | kill | enterCleaning | enterIdle | unlock
  | announceDraining | announceKill | announceExit status | announceRelease =>
      obtain ⟨rfl, rfl⟩ := Prod.mk.inj (Option.some.inj heq)
      exact ⟨rfl, Or.inl rfl⟩
  | await =>
      obtain ⟨status, -, hmap⟩ := Option.map_eq_some_iff.mp heq
      obtain ⟨rfl, rfl⟩ := Prod.mk.inj hmap
      exact ⟨rfl, Or.inl rfl⟩
  | delete =>
      rw [retire, delete] at heq
      cases hremove : s.tree.removeFile (s.slot h.slot).exePath with
      | error e =>
          rw [hremove] at heq
          obtain ⟨rfl, rfl⟩ := Prod.mk.inj (Option.some.inj heq)
          exact ⟨rfl, Or.inl rfl⟩
      | ok tree =>
          rw [hremove] at heq
          obtain ⟨rfl, rfl⟩ := Prod.mk.inj (Option.some.inj heq)
          exact ⟨rfl, Or.inr ⟨rfl, rfl⟩⟩
  | announceDeletion failure =>
      obtain ⟨rfl, rfl⟩ := Prod.mk.inj (Option.some.inj heq)
      cases failure <;> exact ⟨rfl, Or.inl rfl⟩

end LivePages.Ring
