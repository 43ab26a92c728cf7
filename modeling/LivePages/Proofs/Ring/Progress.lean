import LivePages.Proofs.Ring.Chronicle
import LivePages.Proofs.Ring.Ownership

/-!
# The Progress of a Rotation

What the statements of a rotation contribute to its build: which pages are still to be read, which
backend has been started, and what is entered into the books.

## Main results

* `Statement.waiting?`, `Statement.backend?`: how far a rotation has come.
* `Progress`, `Machine.carryOut_progress`: what a statement does for the build.
* `Machine.clock_apply`: every move takes some time.
-/

namespace LivePages.Ring

/-! ### How far a rotation has come -/

/-- The pages that are still to be read for the build in progress. -/
def Statement.waiting? : Statement → Option (List String)
  | .check pages | .acquire pages _ | .enterBuilding pages | .announceBuild pages
  | .openSources pages => some (Site.distinctPaths (pages.map (·.path)))
  | .generate waiting _ => some (waiting.map (·.path))
  | .assemble _ | .compile _ | .install _ _ => some []
  | _ => none

/-- The backend that has been started and is on its way to become the live one. -/
def Statement.backend? : Statement → Option ℕ
  | .examine b | .probe b | .announceLaunch b | .enterLive b | .publish b
  | .announcePublication b | .handOver b => some b
  | _ => none

/-- The pages that are compared with what was built last. -/
def Statement.compared? : Statement → Option (List Site.PageFile)
  | .check pages => some pages
  | _ => none

/-- The live backend is up to date. -/
def Statement.rests : Statement → Bool
  | .giveUp .idle | .finish .idle => true
  | _ => false

/-- A statement leaves it to the next one to read the same pages, and to see after the same
backend, or none at all. -/
structure Follows (st next : Option Statement) : Prop where
  waiting : next.bind (·.waiting?) = none ∨ next.bind (·.waiting?) = st.bind (·.waiting?)
  backend : next.bind (·.backend?) = none ∨ next.bind (·.backend?) = st.bind (·.backend?)
  compared : next.bind (·.compared?) = none ∨ next.bind (·.compared?) = st.bind (·.compared?)
  rests : next.any (·.rests) = true → st.any (·.rests) = true

/-- A task that does not go on leaves everything as it is. -/
theorem Follows.refl (st : Option Statement) : Follows st st :=
  ⟨Or.inr rfl, Or.inr rfl, Or.inr rfl, id⟩

/-- A statement that has nothing to read and nothing to see after. -/
theorem Follows.of_none {st next : Option Statement} (hwaiting : next.bind (·.waiting?) = none)
    (hbackend : next.bind (·.backend?) = none) (hcompared : next.bind (·.compared?) = none)
    (hrests : next.any (·.rests) = false) : Follows st next :=
  ⟨Or.inl hwaiting, Or.inl hbackend, Or.inl hcompared,
    fun h => absurd (hrests.symm.trans h) Bool.false_ne_true⟩

/-- A statement that has the same pages to read, and no backend to see after. -/
theorem Follows.of_waiting {st next : Statement} (hwaiting : next.waiting? = st.waiting?)
    (hbackend : next.backend? = none) (hcompared : next.compared? = none)
    (hrests : next.rests = false) : Follows (some st) (some next) :=
  ⟨Or.inr hwaiting, Or.inl hbackend, Or.inl hcompared,
    fun h => absurd (hrests.symm.trans h) Bool.false_ne_true⟩

/-- A statement that sees after the same backend. -/
theorem Follows.of_backend {st next : Statement} (hwaiting : next.waiting? = none)
    (hbackend : next.backend? = st.backend?) (hcompared : next.compared? = none)
    (hrests : next.rests = false) : Follows (some st) (some next) :=
  ⟨Or.inl hwaiting, Or.inr hbackend, Or.inl hcompared,
    fun h => absurd (hrests.symm.trans h) Bool.false_ne_true⟩

/-! ### What a statement does -/

/-- What a statement of the task that has the ring does for the build. -/
inductive Progress (s : Machine) (st : Statement) (t : Machine) : Prop
  /-- It finds the pages. -/
  | scans (found : Site.Scan) (hst : st = .scan)
      (hscan : Site.scan s.tree s.config.webRoot = .ok found)
      (htask : t.task = some (.check found.pages)) (hlive : t.live = s.live)
  /-- It finds that no page was written after what was built last. -/
  | rests (pages : List Site.PageFile) (h : Handle) (hst : st = .check pages)
      (hbefore : s.live = some h)
      (hfresh : Site.isStale s.tree (s.slot h.slot).exePath (pages.map (·.modified)) = false)
      (htask : t.task = some (.finish .idle)) (hlive : t.live = s.live)
  /-- It gives symbols to the pages. -/
  | opens (pages : List Site.PageFile) (hst : st = .openSources pages)
      (htask : t.task = some (.generate (Site.allocate (pages.map (·.path))) {}))
      (hlive : t.live = s.live)
  /-- It reads a page. -/
  | reads (r : Site.Request) (waiting : List Site.Request) (done done' : Build.Generated)
      (hst : st = .generate (r :: waiting) done) (htask : t.task = some (.generate waiting done'))
      (hlive : t.live = s.live)
  /-- It puts the executable to its place. -/
  | installs (project : Build.Project) (built : String) (hst : st = .install project built)
      (htask : t.task = some .enterLaunching) (hlive : t.live = s.live)
  /-- It starts a backend. -/
  | starts (hst : st = .start) (htask : t.task = some (.examine s.backends.length))
      (hlive : t.live = s.live) (hposition : t.position = s.position)
  /-- Its backend becomes the live one. -/
  | handsOver (b : ℕ) (hst : st = .handOver b) (htask : t.task = some .turn)
      (hlive : t.live = some (s.handleOf b))
  /-- It takes the live backend away. -/
  | leaves (h : Handle) (hst : st = .stop) (htask : t.task = some (.stopKill h))
      (hlive : t.live = none)
  /-- It goes on. -/
  | goes (hfollows : Follows (some st) t.task)
      (hposition : t.position = s.position ∨ t.task.bind (·.backend?) = none)
      (hlive : t.live = s.live) (hbooks : ∀ b : Books, b.after s st t.task = b)
      (hinstalls : st.installs t.task = false)

variable {s t : Machine} {world : World}

/-- Work on the files concerns neither the tasks nor the ring. -/
theorem Machine.of_work {α : Type} {r u : Machine} {w : Build.Work α} {result : Except Error α}
    (hwork : r.work w = (result, u)) : u.live = r.live ∧ u.position = r.position := by
  obtain ⟨tree, log, heq⟩ := r.work_eq w
  rw [hwork] at heq
  obtain rfl : u = { r with tree, log } := heq
  exact ⟨rfl, rfl⟩

/-- **What a statement of the task that has the ring does for the build**, whatever time it
takes. -/
theorem Machine.carryOut_progress {st : Statement} (h : s.carryOut world st = some t)
    (clock : Files.Time) : Progress s st { t with clock } := by
  cases st with
  | scan =>
      rw [carryOut] at h
      split at h
      · rename_i found hscan
        obtain rfl := Option.some.inj h
        exact .scans found rfl hscan rfl rfl
      · obtain rfl := Option.some.inj h
        exact .goes (.of_none rfl rfl rfl rfl) (Or.inl rfl) rfl (fun _ => rfl) rfl
  | check pages =>
      obtain rfl := Option.some.inj h
      simp only [check]
      split
      · rename_i hidle
        rw [Bool.and_eq_true, Bool.not_eq_true'] at hidle
        obtain ⟨old, hlive⟩ := Option.isSome_iff_exists.mp hidle.1
        have hbuilt : s.builtLast = (s.slot old.slot).exePath := by rw [builtLast, hlive]
        exact .rests pages old rfl hlive (hbuilt ▸ hidle.2) rfl rfl
      · exact .goes (.of_waiting rfl rfl rfl rfl) (Or.inl rfl) rfl (fun _ => rfl) rfl
  | acquire pages stale =>
      obtain ⟨u, hu, rfl⟩ := Option.map_eq_some_iff.mp h
      obtain ⟨-, hu⟩ := Option.ite_none_left_eq_some.mp hu
      obtain rfl := Option.some.inj hu
      rw [acquired]
      split
      · exact .goes (.of_none rfl rfl rfl rfl) (Or.inl rfl) rfl (fun _ => rfl) rfl
      · exact .goes (.of_waiting rfl rfl rfl rfl) (Or.inl rfl) rfl (fun _ => rfl) rfl
  | enterBuilding pages | announceBuild pages =>
      obtain rfl := Option.some.inj h
      exact .goes (.of_waiting rfl rfl rfl rfl) (Or.inl rfl) rfl (fun _ => rfl) rfl
  | openSources pages =>
      obtain rfl := Option.some.inj h
      rw [openSources]
      split <;> rename_i hwork <;> obtain ⟨hlive, hposition⟩ := of_work hwork
      · exact .opens pages rfl rfl hlive
      · exact .goes (.of_none rfl rfl rfl rfl) (Or.inl hposition) hlive (fun _ => rfl) rfl
  | generate waiting done =>
      obtain rfl := Option.some.inj h
      cases waiting with
      | nil => exact .goes (.of_waiting rfl rfl rfl rfl) (Or.inl rfl) rfl (fun _ => rfl) rfl
      | cons r waiting =>
          unfold generate
          dsimp only
          split <;> rename_i hwork <;> obtain ⟨hlive, hposition⟩ := of_work hwork
          · exact .reads r waiting done _ rfl rfl hlive
          · exact .goes (.of_none rfl rfl rfl rfl) (Or.inl hposition) hlive (fun _ => rfl) rfl
  | assemble done =>
      obtain rfl := Option.some.inj h
      rw [assemble]
      split <;> rename_i hwork <;> obtain ⟨hlive, hposition⟩ := of_work hwork
      · exact .goes (.of_waiting rfl rfl rfl rfl) (Or.inl hposition) hlive (fun _ => rfl) rfl
      · exact .goes (.of_none rfl rfl rfl rfl) (Or.inl hposition) hlive (fun _ => rfl) rfl
  | compile project =>
      obtain rfl := Option.some.inj h
      rw [compile]
      split <;> rename_i hwork <;> obtain ⟨hlive, hposition⟩ := of_work hwork
      · exact .goes (.of_waiting rfl rfl rfl rfl) (Or.inl hposition) hlive (fun _ => rfl) rfl
      · exact .goes (.of_none rfl rfl rfl rfl) (Or.inl hposition) hlive (fun _ => rfl) rfl
  | install project built =>
      obtain rfl := Option.some.inj h
      rw [install]
      split <;> rename_i hwork <;> obtain ⟨hlive, hposition⟩ := of_work hwork
      · exact .installs project built rfl rfl hlive
      · exact .goes (.of_none rfl rfl rfl rfl) (Or.inl hposition) hlive (fun _ => rfl) rfl
  | leaveBuilding e | announceBuildFailure e | enterLaunching | killUnready b e
  | leaveLaunching e | announceLaunchFailure e | showPosition | stopKill old =>
      obtain rfl := Option.some.inj h
      exact .goes (.of_none rfl rfl rfl rfl) (Or.inl rfl) rfl (fun _ => rfl) rfl
  | start =>
      obtain rfl := Option.some.inj h
      rw [start]
      split
      · exact .goes (.of_none rfl rfl rfl rfl) (Or.inl rfl) rfl (fun _ => rfl) rfl
      · exact .starts rfl rfl rfl rfl
  | examine b =>
      obtain rfl := Option.some.inj h
      rw [examine]
      split
      · exact .goes (.of_none rfl rfl rfl rfl) (Or.inl rfl) rfl (fun _ => rfl) rfl
      · exact .goes (.of_backend rfl rfl rfl rfl) (Or.inl rfl) rfl (fun _ => rfl) rfl
  | probe b =>
      obtain rfl := Option.some.inj h
      rw [probe]
      split
      · exact .goes (.of_backend rfl rfl rfl rfl) (Or.inl rfl) rfl (fun _ => rfl) rfl
      · exact .goes (.of_none rfl rfl rfl rfl) (Or.inl rfl) rfl (fun _ => rfl) rfl
  | awaitUnready b e | stopAwait old =>
      obtain ⟨status, -, rfl⟩ := Option.map_eq_some_iff.mp h
      exact .goes (.of_none rfl rfl rfl rfl) (Or.inl rfl) rfl (fun _ => rfl) rfl
  | announceLaunch b | enterLive b | publish b | announcePublication b =>
      obtain rfl := Option.some.inj h
      exact .goes (.of_backend rfl rfl rfl rfl) (Or.inl rfl) rfl (fun _ => rfl) rfl
  | handOver b =>
      obtain rfl := Option.some.inj h
      exact .handsOver b rfl rfl rfl
  | turn =>
      obtain rfl := Option.some.inj h
      exact .goes (.of_none rfl rfl rfl rfl) (Or.inr rfl) rfl (fun _ => rfl) rfl
  | giveUp outcome =>
      obtain rfl := Option.some.inj h
      refine .goes ⟨Or.inl rfl, Or.inl rfl, Or.inl rfl, ?_⟩ (Or.inl rfl) rfl (fun _ => rfl) rfl
      cases outcome <;> exact id
  | stop =>
      obtain rfl := Option.some.inj h
      rw [stop]
      split
      · exact .goes (.of_none rfl rfl rfl rfl) (Or.inl rfl) rfl (fun _ => rfl) rfl
      · rename_i old _
        exact .leaves old rfl rfl rfl
  | stopMove old next later =>
      cases later with
      | nil =>
          obtain rfl := Option.some.inj h
          exact .goes (.of_none rfl rfl rfl rfl) (Or.inl rfl) rfl (fun _ => rfl) rfl
      | cons q later =>
          obtain rfl := Option.some.inj h
          exact .goes (.of_none rfl rfl rfl rfl) (Or.inl rfl) rfl (fun _ => rfl) rfl
  | stopUnlock old =>
      obtain rfl := Option.some.inj h
      exact .goes (.of_none rfl rfl rfl rfl) (Or.inl rfl) rfl (fun _ => rfl) rfl
  | finish outcome =>
      obtain rfl := Option.some.inj h
      exact .goes (.of_none rfl rfl rfl rfl) (Or.inl rfl) rfl (fun _ => rfl) rfl

/-! ### Time -/

/-- A statement takes no time of its own. -/
theorem TaskStep.clock {strict : Bool} {st : Statement} (hstep : TaskStep strict s st t) :
    t.clock = s.clock := by
  cases hstep with
  | works _ _ hsame => exact hsame.clock
  | publishes => assumption
  | handsOver => assumption
  | turns => assumption
  | stops => assumption

/-- **Every move takes some time.** -/
theorem Machine.clock_apply (h : s.Sound) {m : Move} (heq : s.apply m = some t) :
    t.clock = s.clock + 1 := by
  obtain ⟨u, hu, rfl⟩ := Option.map_eq_some_iff.mp heq
  suffices hclock : u.clock = s.clock from congrArg (· + 1) hclock
  cases m with
  | begin | beginStop =>
      obtain ⟨-, hu⟩ := Option.ite_none_right_eq_some.mp hu
      obtain rfl := Option.some.inj hu
      rfl
  | proceed world =>
      obtain ⟨st, -, hcarry⟩ := Option.bind_eq_some_iff.mp hu
      exact (carryOut_step false (by simp) h.current hcarry).clock
  | retire i =>
      obtain ⟨m, m', os, hstep⟩ := Machine.retireAt_step false (by simp) hu
      exact hstep.clock
  | exit b status =>
      obtain ⟨B, -, hrest⟩ := Option.bind_eq_some_iff.mp hu
      split at hrest
      · exact absurd hrest (by simp)
      · obtain rfl := Option.some.inj hrest
        rfl
  | change tree =>
      obtain rfl := Option.some.inj hu
      rfl

end LivePages.Ring
