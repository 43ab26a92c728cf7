import LivePages.Proofs.Ring.Record

/-!
# Statements as Acts

What is known before each statement of each task, and what the statement does. This is all that
the invariants of the ring need to know about the statements: a statement of the task that has
the ring is an act upon the current slot, or hands a possession on, or moves the ring, and a
statement of a retirement is an act upon the slot of the replaced backend.

## Main results

* `Statement.possession?`, `Retiring.possession?`: what is known before a statement.
* `Machine.possessions`: all possessions at a moment.
* `TaskStep`, `Machine.carryOut_step`: what a statement of the task that has the ring does.
* `Machine.retire_acts`: what a statement of a retirement does.
-/

namespace LivePages.Ring

/-! ### What is known before a statement -/

/-- The knowledge about a slot without a backend. -/
def Possession.bare (i : ℕ) (phases : List Phase) : Possession :=
  ⟨i, phases, none, []⟩

/-- A state from which a slot comes to rest through such states, all changes being allowed. -/
def Phase.leads (p : Phase) : List Phase → Bool
  | [] => p = .idle
  | q :: later => p.allows q && q.leads later

/-- The first of the states to come is allowed, and the others follow. -/
theorem Phase.of_leads_cons {p q : Phase} {later : List Phase}
    (h : p.leads (q :: later) = true) : p.allows q = true ∧ q.leads later = true := by
  rw [Phase.leads, Bool.and_eq_true] at h
  exact h

/-- These are all phases. -/
theorem Phase.mem_all (p : Phase) : p ∈ Phase.all := by
  cases p <;> decide

/-- What the task that has the ring knows before a statement, when the ring stands at a slot. -/
def Statement.possession? (i : ℕ) : Statement → Option Possession
  | .scan | .check _ | .acquire _ _ | .turn | .showPosition | .stop | .finish _ => none
  | .enterBuilding _ | .announceBuildFailure _ | .announceLaunchFailure _ | .giveUp _ =>
    some (.bare i [.idle])
  | .announceBuild _ | .openSources _ | .generate _ _ | .assemble _ | .compile _
  | .install _ _ | .leaveBuilding _ => some (.bare i [.building])
  | .enterLaunching => some (.bare i [.idle, .building])
  | .start | .leaveLaunching _ => some (.bare i [.launching])
  | .examine b | .probe b | .killUnready b _ | .announceLaunch b | .enterLive b =>
    some (Handle.inStage ⟨i, b⟩ [.launching] 1)
  | .awaitUnready b _ => some ⟨i, [.launching], some b, [.started ⟨i, b⟩, .killed ⟨i, b⟩]⟩
  | .publish b => some (Handle.inStage ⟨i, b⟩ [.live] 1)
  | .announcePublication b | .handOver b => some (Handle.inStage ⟨i, b⟩ [.live] 2)
  | .stopKill h => some (h.inStage [.live] 2)
  | .stopAwait h => some (h.inStage [.live] 3)
  | .stopMove h next later => some (h.inStage (Phase.all.filter (·.leads (next :: later))) 4)
  | .stopUnlock h => some (h.inStage [.idle] 4)

/-- What a retirement knows before a statement. -/
def Retiring.possession? (h : Handle) : Retiring → Option Possession
  | .enterDraining => some (h.inStage [.live] 2)
  | .announceDraining | .enterTerminating => some (h.inStage [.draining] 2)
  | .kill => some (h.inStage [.terminating] 2)
  | .announceKill | .await => some (h.inStage [.terminating] 3)
  | .announceExit _ | .enterCleaning => some (h.inStage [.terminating] 4)
  | .delete => some (h.inStage [.cleaning] 4)
  | .announceDeletion _ | .enterIdle => some (h.inStage [.cleaning] 5)
  | .unlock => some (h.inStage [.idle] 5)
  | .announceRelease => none

/-- What a retirement knows. -/
def Retirement.possession? (r : Retirement) : Option Possession :=
  r.next.possession? r.handle

/-- A retirement knows about the slot of its backend. -/
theorem Retiring.slot_of_possession? {h : Handle} {next : Retiring} {o : Possession}
    (ho : next.possession? h = some o) : o.slot = h.slot := by
  cases next with
  | announceRelease => exact absurd ho (by simp [Retiring.possession?])
  | _ => exact (congrArg Possession.slot (Option.some.inj ho)).symm

/-- What is known of a live backend. -/
def Handle.live (h : Handle) : Possession :=
  h.inStage [.live] 2

/-- What the task that has the ring knows. -/
def Machine.taskPossession? (s : Machine) : Option Possession :=
  s.task.bind fun st => st.possession? s.position.current

/-- All possessions at a moment. -/
def Machine.possessions (s : Machine) : List Possession :=
  s.taskPossession?.toList ++
    ((s.live.map (·.live)).toList ++ s.retirements.filterMap (·.possession?))

/-! ### What a statement does -/

/-- The statements of a shutdown that has begun. -/
def Statement.stops : Statement → Bool
  | .stop | .stopKill _ | .stopAwait _ | .stopMove _ _ _ | .stopUnlock _ => true
  | _ => false

/-- The backend that is published and has not taken the place of the live one yet. -/
def Statement.fronting? : Statement → Option ℕ
  | .announcePublication b | .handOver b => some b
  | _ => none

/-- The possessions of the live backend and of the retirements, the position, the published
address and the time are the same. -/
structure Undisturbed (s t : Machine) : Prop where
  live : t.live = s.live
  retirements : t.retirements = s.retirements
  position : t.position = s.position
  published : t.published = s.published
  clock : t.clock = s.clock

/-- What the task that has the ring does with a statement. -/
inductive TaskStep (strict : Bool) (s : Machine) (st : Statement) (t : Machine) : Prop
  /-- It acts upon its own slot. -/
  | works (next : Option Statement) (htask : t.task = next) (hsame : Undisturbed s t)
      (hfronting : next.bind (·.fronting?) = st.fronting?)
      (hstops : ∀ n, next = some n → n.stops = true → st.stops = true)
      (hacts : Acts strict (st.possession? s.position.current) s.scene
        (next.bind (·.possession? s.position.current)) t.scene)
  /-- It publishes the address of the current slot. -/
  | publishes (b : ℕ) (hst : st = .publish b) (htask : t.task = some (.announcePublication b))
      (hlive : t.live = s.live) (hretirements : t.retirements = s.retirements)
      (hposition : t.position = s.position)
      (hpublished : t.published.current = some (s.slot s.position.current).addr)
      (hdeeds : t.deeds = s.deeds ++ [.published (s.handleOf b)])
      (hacts : Acts strict (st.possession? s.position.current) s.scene
        (some (s.handleOf b).live) t.scene)
      (hclock : t.clock = s.clock)
  /-- Its backend becomes the live one, and the live one is retired. -/
  | handsOver (b : ℕ) (hst : st = .handOver b) (htask : t.task = some .turn)
      (hlive : t.live = some (s.handleOf b))
      (hretirements : t.retirements =
        s.retirements ++ (s.live.map fun h => { handle := h }).toList)
      (hposition : t.position = s.position) (hpublished : t.published = s.published)
      (hscene : t.scene = s.scene) (hclock : t.clock = s.clock)
  /-- It moves the ring on. -/
  | turns (hst : st = .turn) (htask : t.task = some .showPosition) (hlive : t.live = s.live)
      (hretirements : t.retirements = s.retirements)
      (hposition : t.position.current = (s.position.current + 1) % s.slots.length)
      (hpublished : t.published = s.published) (hscene : t.scene = s.scene)
      (hclock : t.clock = s.clock)
  /-- It takes the live backend away. -/
  | stops (h : Handle) (hst : st = .stop) (hbefore : s.live = some h)
      (htask : t.task = some (.stopKill h)) (hlive : t.live = none)
      (hretirements : t.retirements = s.retirements) (hposition : t.position = s.position)
      (hscene : t.scene = s.scene) (hclock : t.clock = s.clock)

/-- Work on the files changes the files and the log. -/
theorem Machine.work_eq {α : Type} (s : Machine) (w : Build.Work α) :
    ∃ tree log, (s.work w).2 = { s with tree, log } :=
  ⟨_, _, rfl⟩

/-- The deletion of an executable changes the files at most. -/
theorem Machine.delete_eq (s : Machine) (path : String) :
    ∃ tree, (s.delete path).2 = { s with tree } := by
  rw [delete]
  split
  · exact ⟨_, rfl⟩
  · exact ⟨s.tree, rfl⟩

variable {strict : Bool} {s t : Machine} {world : World}

/-- A statement that goes on to another one. -/
theorem TaskStep.goes {st next : Statement} (htask : t.task = some next)
    (hsame : Undisturbed s t) (hfronting : next.fronting? = st.fronting?)
    (hstops : next.stops = true → st.stops = true)
    (hacts : Acts strict (st.possession? s.position.current) s.scene
      (next.possession? s.position.current) t.scene) : TaskStep strict s st t := by
  refine .works (some next) htask hsame hfronting ?_ hacts
  intro n hn
  obtain rfl := Option.some.inj hn
  exact hstops

/-- A statement that goes on after work on the files. -/
theorem TaskStep.of_work {α : Type} {st next : Statement} {w : Build.Work α} {r u : Machine}
    {result : Except Error α} (hsame : Undisturbed s r) (hwork : r.work w = (result, u))
    (hfronting : next.fronting? = st.fronting?) (hstops : next.stops = true → st.stops = true)
    (hacts : Acts strict (st.possession? s.position.current) s.scene
      (next.possession? s.position.current) r.scene) :
    TaskStep strict s st (u.next next) := by
  obtain ⟨tree, log, heq⟩ := r.work_eq w
  rw [hwork] at heq
  obtain rfl : u = { r with tree, log } := heq
  refine .goes rfl ?_ hfronting hstops hacts
  exact ⟨hsame.live, hsame.retirements, hsame.position, hsame.published, hsame.clock⟩

/-- The next deed in a life. -/
theorem Acts.live_on {c : Scene} {h : Handle} {phases : List Phase} {n : ℕ} {d : Deed}
    (hhandle : d.handle? = some h) (hkill : d ≠ .killed h)
    (hnext : h.life.take n ++ [d] = h.life.take (n + 1))
    (hconfirmed : d = .confirmed h → ∀ B, c.backends[h.backend]? = some B → B.status ≠ none) :
    Acts strict (some (h.inStage phases n)) c (some (h.inStage phases (n + 1))) (c.record d) := by
  have hcourse : OnCourse strict h (h.life.take n ++ [d]) := by
    rw [hnext]
    exact onCourse_life_take strict h (n + 1)
  have hact : Acts strict (some (h.inStage phases n)) c
      (some { h.inStage phases n with trail := h.life.take n ++ [d] }) (c.record d) :=
    .act rfl hhandle hkill hcourse hconfirmed
  rw [hnext] at hact
  exact hact

/-- A change of state in the course of a life. -/
theorem Acts.move_on {c : Scene} {h : Handle} {phases phases' : List Phase} {n : ℕ}
    {next : Phase} (hnext : ∀ p ∈ phases, p.allows next = true ∧ next ∈ phases') :
    Acts strict (some (h.inStage phases n)) c (some (h.inStage phases' n))
      (c.move h.slot next) :=
  Acts.move (o := h.inStage phases n) hnext

/-- A change of state of a slot without a backend. -/
theorem Acts.move_bare {c : Scene} {i : ℕ} {phases phases' : List Phase} {next : Phase}
    (hnext : ∀ p ∈ phases, p.allows next = true ∧ next ∈ phases') :
    Acts strict (some (.bare i phases)) c (some (.bare i phases')) (c.move i next) :=
  Acts.move (o := .bare i phases) hnext

/-- A backend has ended whose status is known. -/
theorem Machine.ended_of_status? {b : ℕ} {status : ExitStatus} (h : s.status? b = some status)
    (B : Backend) (hB : s.backends[b]? = some B) : B.status ≠ none := by
  intro hnone
  rw [Machine.status?, hB] at h
  exact absurd (h.symm.trans hnone) (by simp)

/-- **What the task that has the ring does with a statement.** -/
theorem Machine.carryOut_step (strict : Bool) {st : Statement}
    (hstrict : strict = true → st.stops = false)
    (hcurrent : s.position.current < s.slots.length) (h : s.carryOut world st = some t) :
    TaskStep strict s st t := by
  cases st with
  | scan =>
      rw [carryOut] at h
      split at h <;> obtain rfl := Option.some.inj h <;>
        exact .goes rfl ⟨rfl, rfl, rfl, rfl, rfl⟩ rfl id .rest
  | check pages =>
      obtain rfl := Option.some.inj h
      simp only [check]
      split <;> exact .goes rfl ⟨rfl, rfl, rfl, rfl, rfl⟩ rfl id .rest
  | acquire pages stale =>
      obtain ⟨u, hu, rfl⟩ := Option.map_eq_some_iff.mp h
      rw [lock?] at hu
      split at hu
      · exact absurd hu (by simp)
      · rename_i hfree
        obtain rfl := Option.some.inj hu
        rw [Bool.not_eq_true] at hfree
        have htake : Acts strict none s.scene (some (.bare s.position.current [.idle])) _ :=
          .take hcurrent hfree
        rw [acquired]
        split
        · refine .goes rfl ⟨rfl, rfl, rfl, rfl, rfl⟩ rfl id (htake.trans (.widen ?_))
          simp [Possession.bare]
        · exact .goes rfl ⟨rfl, rfl, rfl, rfl, rfl⟩ rfl id htake
  | enterBuilding pages =>
      obtain rfl := Option.some.inj h
      exact .goes rfl ⟨rfl, rfl, rfl, rfl, rfl⟩ rfl id (.move_bare (by decide))
  | announceBuild pages =>
      obtain rfl := Option.some.inj h
      exact .goes rfl ⟨rfl, rfl, rfl, rfl, rfl⟩ rfl id .rest
  | openSources pages =>
      obtain rfl := Option.some.inj h
      rw [openSources]
      split <;> rename_i hwork <;> exact .of_work ⟨rfl, rfl, rfl, rfl, rfl⟩ hwork rfl id .rest
  | generate waiting done =>
      obtain rfl := Option.some.inj h
      cases waiting with
      | nil => exact .goes rfl ⟨rfl, rfl, rfl, rfl, rfl⟩ rfl id .rest
      | cons r waiting =>
          unfold generate
          dsimp only
          split <;> rename_i hwork <;> exact .of_work ⟨rfl, rfl, rfl, rfl, rfl⟩ hwork rfl id .rest
  | assemble done =>
      obtain rfl := Option.some.inj h
      rw [assemble]
      split <;> rename_i hwork <;> exact .of_work ⟨rfl, rfl, rfl, rfl, rfl⟩ hwork rfl id .rest
  | compile project =>
      obtain rfl := Option.some.inj h
      have hnote : Acts strict (some (.bare s.position.current [.building])) s.scene
          (some (.bare s.position.current [.building]))
          (s.record (.compiled s.position.current (project.pages.map (·.symbol)))).scene :=
        .note rfl (by simp)
      rw [compile]
      split <;> rename_i hwork <;>
        exact .of_work (r := s.record _) ⟨rfl, rfl, rfl, rfl, rfl⟩ hwork rfl id hnote
  | install project built =>
      obtain rfl := Option.some.inj h
      rw [install]
      split <;> rename_i hwork
      · exact .of_work ⟨rfl, rfl, rfl, rfl, rfl⟩ hwork rfl id (.widen (by simp [Possession.bare]))
      · exact .of_work ⟨rfl, rfl, rfl, rfl, rfl⟩ hwork rfl id .rest
  | leaveBuilding e =>
      obtain rfl := Option.some.inj h
      exact .goes rfl ⟨rfl, rfl, rfl, rfl, rfl⟩ rfl id (.move_bare (by decide))
  | announceBuildFailure e | announceLaunchFailure e | announceLaunch b
  | announcePublication b | showPosition =>
      obtain rfl := Option.some.inj h
      exact .goes rfl ⟨rfl, rfl, rfl, rfl, rfl⟩ rfl id .rest
  | enterLaunching =>
      obtain rfl := Option.some.inj h
      exact .goes rfl ⟨rfl, rfl, rfl, rfl, rfl⟩ rfl id (.move_bare (by decide))
  | start =>
      obtain rfl := Option.some.inj h
      have hnote : Acts strict (some (.bare s.position.current [.launching])) s.scene
          (some (.bare s.position.current [.launching]))
          (s.record (.tried s.current.exePath s.current.addr)).scene :=
        .note rfl (by simp)
      rw [start]
      split
      · exact .goes rfl ⟨rfl, rfl, rfl, rfl, rfl⟩ rfl id hnote
      · refine .goes rfl ⟨rfl, rfl, rfl, rfl, rfl⟩ rfl id (hnote.trans ?_)
        exact .start (o := .bare s.position.current [.launching]) rfl rfl rfl
  | examine b =>
      obtain rfl := Option.some.inj h
      rw [examine]
      split <;> exact .goes rfl ⟨rfl, rfl, rfl, rfl, rfl⟩ rfl id .rest
  | probe b =>
      obtain rfl := Option.some.inj h
      rw [probe]
      split <;> exact .goes rfl ⟨rfl, rfl, rfl, rfl, rfl⟩ rfl id .rest
  | killUnready b e =>
      obtain rfl := Option.some.inj h
      refine .goes rfl ⟨rfl, rfl, rfl, rfl, rfl⟩ rfl id ?_
      exact .kill (o := Handle.inStage ⟨_, b⟩ [.launching] 1) rfl (onCourse_unready _ _ 2)
        (by simp [Handle.inStage, Handle.life])
  | awaitUnready b e =>
      obtain ⟨status, hstatus, rfl⟩ := Option.map_eq_some_iff.mp h
      refine .goes rfl ⟨rfl, rfl, rfl, rfl, rfl⟩ rfl id (.trans (.act rfl rfl (by simp)
        (onCourse_unready _ _ 3) fun _ => s.ended_of_status? hstatus) (.forget ?_ ?_))
      · intro k hk
        obtain rfl := Option.some.inj hk
        exact List.mem_append_right _ List.mem_cons_self
      · simp
  | leaveLaunching e =>
      obtain rfl := Option.some.inj h
      exact .goes rfl ⟨rfl, rfl, rfl, rfl, rfl⟩ rfl id (.move_bare (by decide))
  | enterLive b =>
      obtain rfl := Option.some.inj h
      exact .goes rfl ⟨rfl, rfl, rfl, rfl, rfl⟩ rfl id (.move_on (by decide))
  | publish b =>
      obtain rfl := Option.some.inj h
      exact .publishes b rfl rfl rfl rfl rfl rfl rfl (.live_on rfl (by simp) rfl (by simp)) rfl
  | handOver b =>
      obtain rfl := Option.some.inj h
      refine .handsOver b rfl rfl rfl ?_ rfl rfl rfl rfl
      rw [handOver]
      cases s.live with
      | none => exact (List.append_nil _).symm
      | some old => rfl
  | turn =>
      obtain rfl := Option.some.inj h
      exact .turns rfl rfl rfl rfl rfl rfl rfl rfl
  | giveUp outcome =>
      obtain rfl := Option.some.inj h
      refine .goes rfl ⟨rfl, rfl, rfl, rfl, rfl⟩ rfl id ?_
      exact .release rfl (by simp [Possession.bare]) (by simp [Possession.bare])
  | stop =>
      obtain rfl := Option.some.inj h
      rw [stop]
      cases hlive : s.live with
      | none => exact .goes rfl ⟨rfl, rfl, rfl, rfl, rfl⟩ rfl (by decide) .rest
      | some old => exact .stops old rfl hlive rfl rfl rfl rfl rfl rfl
  | stopKill old =>
      obtain rfl := Option.some.inj h
      refine .goes rfl ⟨rfl, rfl, rfl, rfl, rfl⟩ rfl id ?_
      exact .kill (o := old.inStage [.live] 2) rfl (onCourse_life_take _ _ 3)
        (fun hs => absurd (hstrict hs) (by simp [Statement.stops]))
  | stopAwait old =>
      obtain ⟨status, hstatus, rfl⟩ := Option.map_eq_some_iff.mp h
      refine .goes rfl ⟨rfl, rfl, rfl, rfl, rfl⟩ rfl id (.trans (.live_on rfl (by simp) rfl
        fun _ => s.ended_of_status? hstatus) (.widen (o := old.inStage [.live] 4) ?_))
      show [Phase.live] ⊆ _
      decide
  | stopMove old next later =>
      cases later with
      | nil =>
          obtain rfl := Option.some.inj h
          refine .goes rfl ⟨rfl, rfl, rfl, rfl, rfl⟩ rfl id (.move_on ?_)
          intro p hp
          obtain ⟨hallows, hidle⟩ := Phase.of_leads_cons (List.mem_filter.mp hp).2
          exact ⟨hallows, List.mem_singleton.mpr (of_decide_eq_true hidle)⟩
      | cons q later =>
          obtain rfl := Option.some.inj h
          refine .goes rfl ⟨rfl, rfl, rfl, rfl, rfl⟩ rfl id (.move_on ?_)
          intro p hp
          obtain ⟨hallows, hleads⟩ := Phase.of_leads_cons (List.mem_filter.mp hp).2
          exact ⟨hallows, List.mem_filter.mpr ⟨next.mem_all, hleads⟩⟩
  | stopUnlock old =>
      obtain rfl := Option.some.inj h
      obtain rfl : strict = false := by
        cases strict with
        | false => rfl
        | true => exact hstrict rfl
      refine .goes rfl ⟨rfl, rfl, rfl, rfl, rfl⟩ rfl (by simp [Statement.stops]) (.trans
        (.act (o := old.inStage [.idle] 4) rfl rfl (by simp) (onCourse_stopped _) (by simp))
        (.release rfl ?_ ?_)) <;>
      · intro k hk
        obtain rfl := Option.some.inj hk
        simp [Handle.inStage, Handle.life]
  | finish outcome =>
      obtain rfl := Option.some.inj h
      exact .works none rfl ⟨rfl, rfl, rfl, rfl, rfl⟩ rfl (by simp) .rest

/-- **What a statement of a retirement does.** Strictly taken it is a retirement of a backend that
has a successor. -/
theorem Machine.retire_acts {h : Handle} {now : Retiring} {following : Option Retiring}
    (hstrict : strict = true → Succeeded s.deeds h)
    (heq : s.retire h now = some (t, following)) :
    t.task = s.task ∧ Undisturbed s t ∧ Acts strict (now.possession? h) s.scene
      (following.bind (·.possession? h)) t.scene := by
  cases now with
  | enterDraining | enterTerminating | enterCleaning | enterIdle =>
      obtain ⟨rfl, rfl⟩ := Prod.mk.inj (Option.some.inj heq)
      exact ⟨rfl, ⟨rfl, rfl, rfl, rfl, rfl⟩, .move_on (by decide)⟩
  | announceDraining | announceKill | announceExit status | announceRelease =>
      obtain ⟨rfl, rfl⟩ := Prod.mk.inj (Option.some.inj heq)
      exact ⟨rfl, ⟨rfl, rfl, rfl, rfl, rfl⟩, .rest⟩
  | kill =>
      obtain ⟨rfl, rfl⟩ := Prod.mk.inj (Option.some.inj heq)
      refine ⟨rfl, ⟨rfl, rfl, rfl, rfl, rfl⟩, ?_⟩
      exact .kill (o := h.inStage [.terminating] 2) rfl (onCourse_life_take _ _ 3)
        (fun hs _ => hstrict hs)
  | await =>
      obtain ⟨status, hstatus, hmap⟩ := Option.map_eq_some_iff.mp heq
      obtain ⟨rfl, rfl⟩ := Prod.mk.inj hmap
      exact ⟨rfl, ⟨rfl, rfl, rfl, rfl, rfl⟩,
        .live_on rfl (by simp) rfl fun _ => s.ended_of_status? hstatus⟩
  | delete =>
      obtain ⟨tree, htree⟩ := s.delete_eq (s.slot h.slot).exePath
      rcases hdelete : s.delete (s.slot h.slot).exePath with ⟨failure, u⟩
      rw [hdelete] at htree
      rw [retire, hdelete] at heq
      obtain ⟨rfl, rfl⟩ := Prod.mk.inj (Option.some.inj heq)
      obtain rfl : u = { s with tree } := htree
      exact ⟨rfl, ⟨rfl, rfl, rfl, rfl, rfl⟩, .live_on rfl (by simp) rfl (by simp)⟩
  | announceDeletion failure =>
      obtain ⟨rfl, rfl⟩ := Prod.mk.inj (Option.some.inj heq)
      cases failure <;> exact ⟨rfl, ⟨rfl, rfl, rfl, rfl, rfl⟩, .rest⟩
  | unlock =>
      obtain ⟨rfl, rfl⟩ := Prod.mk.inj (Option.some.inj heq)
      refine ⟨rfl, ⟨rfl, rfl, rfl, rfl, rfl⟩, .trans
        (.live_on (n := 5) (d := .unlocked h) rfl (by simp) rfl (by simp))
        (.release rfl ?_ ?_)⟩ <;>
      · intro k hk
        obtain rfl := Option.some.inj hk
        simp [Handle.inStage, Handle.life]

end LivePages.Ring
