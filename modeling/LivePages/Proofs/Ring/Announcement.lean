import LivePages.Proofs.Ring.Custody
import LivePages.Proofs.Ring.Turns

/-!
# What a Ring Lets Others Know

Those outside of a ring see its events, the published address, and how the tasks end that had the
ring. A statement tells one event at most. An address is published by one statement of a rotation
and told by the next. So the published address is that of the last publication on record, and
every publication is told once.

## Main results

* `Statement.Leads`: which statements of a task follow each other.
* `Machine.exists_of_builds`: what a statement of a build does.
* `Statement.event?`, `Retiring.event?`: the event that a statement tells.
* `Telling`, `Machine.carryOut_telling`, `Machine.retire_telling`: what a statement lets others
  know.
* `Machine.Aside`, `Machine.apply_cases`: what all other moves let them know.
* `Machine.Announced`, `Machine.Announced.apply`: the published address and the events follow from
  the publications on record.
-/

namespace LivePages.Ring

/-! ### The order of the statements -/

/-- Which statements of the task that has the ring follow each other. -/
inductive Statement.Leads : Statement → Statement → Prop
  | scan (pages : List Site.PageFile) : Leads .scan (.check pages)
  | scanFailure (e : Error) : Leads .scan (.finish (.failed e))
  | idle (pages : List Site.PageFile) : Leads (.check pages) (.finish .idle)
  | check (pages : List Site.PageFile) (stale : Bool) : Leads (.check pages) (.acquire pages stale)
  | reuse (pages : List Site.PageFile) (stale : Bool) : Leads (.acquire pages stale) .enterLaunching
  | acquire (pages : List Site.PageFile) (stale : Bool) :
      Leads (.acquire pages stale) (.enterBuilding pages)
  | enterBuilding (pages : List Site.PageFile) : Leads (.enterBuilding pages) (.announceBuild pages)
  | announceBuild (pages : List Site.PageFile) : Leads (.announceBuild pages) (.openSources pages)
  | openSources (pages : List Site.PageFile) (waiting : List Site.Request) :
      Leads (.openSources pages) (.generate waiting {})
  | generate (r : Site.Request) (waiting : List Site.Request) (done done' : Build.Generated) :
      Leads (.generate (r :: waiting) done) (.generate waiting done')
  | generated (done : Build.Generated) : Leads (.generate [] done) (.assemble done)
  | assemble (done : Build.Generated) (project : Build.Project) :
      Leads (.assemble done) (.compile project)
  | compile (project : Build.Project) (built : String) :
      Leads (.compile project) (.install project built)
  | install (project : Build.Project) (built : String) :
      Leads (.install project built) .enterLaunching
  | buildFailure (st : Statement) (e : Error) (h : st.builds = true) : Leads st (.leaveBuilding e)
  | leaveBuilding (e : Error) : Leads (.leaveBuilding e) (.announceBuildFailure e)
  | announceBuildFailure (e : Error) : Leads (.announceBuildFailure e) (.giveUp .buildFailed)
  | enterLaunching : Leads .enterLaunching .start
  | start (b : ℕ) : Leads .start (.examine b)
  | startFailure (e : Error) : Leads .start (.leaveLaunching e)
  | examine (b : ℕ) : Leads (.examine b) (.probe b)
  | earlyExit (b : ℕ) (e : Error) : Leads (.examine b) (.killUnready b e)
  | probe (b : ℕ) : Leads (.probe b) (.announceLaunch b)
  | probeFailure (b : ℕ) (e : Error) : Leads (.probe b) (.killUnready b e)
  | killUnready (b : ℕ) (e : Error) : Leads (.killUnready b e) (.awaitUnready b e)
  | awaitUnready (b : ℕ) (e : Error) : Leads (.awaitUnready b e) (.leaveLaunching e)
  | leaveLaunching (e : Error) : Leads (.leaveLaunching e) (.announceLaunchFailure e)
  | announceLaunchFailure (e : Error) : Leads (.announceLaunchFailure e) (.giveUp .launchFailed)
  | announceLaunch (b : ℕ) : Leads (.announceLaunch b) (.enterLive b)
  | enterLive (b : ℕ) : Leads (.enterLive b) (.publish b)
  | publish (b : ℕ) : Leads (.publish b) (.announcePublication b)
  | announcePublication (b : ℕ) : Leads (.announcePublication b) (.handOver b)
  | handOver (b : ℕ) : Leads (.handOver b) .turn
  | turn : Leads .turn .showPosition
  | showPosition : Leads .showPosition (.finish .rotated)
  | giveUp (outcome : Outcome) : Leads (.giveUp outcome) (.finish outcome)
  | stopNothing : Leads .stop (.finish .stopped)
  | stop (h : Handle) : Leads .stop (.stopKill h)
  | stopKill (h : Handle) : Leads (.stopKill h) (.stopAwait h)
  | stopAwait (h : Handle) :
      Leads (.stopAwait h) (.stopMove h .draining [.terminating, .cleaning, .idle])
  | stopMove (h : Handle) (p q : Phase) (later : List Phase) :
      Leads (.stopMove h p (q :: later)) (.stopMove h q later)
  | stopMoved (h : Handle) (p : Phase) : Leads (.stopMove h p []) (.stopUnlock h)
  | stopUnlock (h : Handle) : Leads (.stopUnlock h) (.finish .stopped)

section

variable {s t : Machine} {st : Statement} {world : World}

/-- **A statement of a build works on the files and goes on**, whether or not a deed that is no
backend's is put on record before. -/
theorem Machine.exists_of_builds (hbuilds : st.builds = true)
    (h : s.carryOut world st = some t) :
    ∃ r tree log next, (r = s ∨ ∃ d, d.handle? = none ∧ r = s.record d) ∧
      t = ({ r with tree, log } : Machine).next next ∧ st.Leads next := by
  have hworks {α : Type} {r u : Machine} {w : Build.Work α} {result : Except Error α}
      {next : Statement} (hr : r = s ∨ ∃ d, d.handle? = none ∧ r = s.record d)
      (hwork : r.work w = (result, u)) (hleads : st.Leads next) :
      ∃ r tree log following, (r = s ∨ ∃ d, d.handle? = none ∧ r = s.record d) ∧
        u.next next = ({ r with tree, log } : Machine).next following ∧ st.Leads following := by
    obtain ⟨tree, log, heq⟩ := r.work_eq w
    rw [hwork] at heq
    exact ⟨r, tree, log, next, hr, congrArg (·.next next) heq, hleads⟩
  cases st with
  | openSources pages =>
      obtain rfl := Option.some.inj h
      rw [openSources]
      split <;> rename_i hwork
      · exact hworks (.inl rfl) hwork (.openSources pages _)
      · exact hworks (.inl rfl) hwork (.buildFailure _ _ rfl)
  | generate waiting done =>
      obtain rfl := Option.some.inj h
      cases waiting with
      | nil => exact ⟨s, s.tree, _, _, .inl rfl, rfl, .generated done⟩
      | cons r waiting =>
          unfold generate
          dsimp only
          split <;> rename_i hwork
          · exact hworks (.inl rfl) hwork (.generate r waiting done _)
          · exact hworks (.inl rfl) hwork (.buildFailure _ _ rfl)
  | assemble done =>
      obtain rfl := Option.some.inj h
      rw [assemble]
      split <;> rename_i hwork
      · exact hworks (.inl rfl) hwork (.assemble done _)
      · exact hworks (.inl rfl) hwork (.buildFailure _ _ rfl)
  | compile project =>
      obtain rfl := Option.some.inj h
      rw [compile]
      split <;> rename_i hwork
      · exact hworks (.inr ⟨_, rfl, rfl⟩) hwork (.compile project _)
      · exact hworks (.inr ⟨_, rfl, rfl⟩) hwork (.buildFailure _ _ rfl)
  | install project built =>
      obtain rfl := Option.some.inj h
      rw [install]
      split <;> rename_i hwork
      · exact hworks (.inl rfl) hwork (.install project built)
      · exact hworks (.inl rfl) hwork (.buildFailure _ _ rfl)
  | _ => exact absurd hbuilds Bool.false_ne_true

end

/-! ### Events -/

/-- The event that a statement of the task that has the ring tells about the current slot. -/
def Statement.event? (slot : Slot) (i : ℕ) : Statement → Option Event
  | .announceBuild _ => some (.buildStarted i)
  | .announceBuildFailure e => some (.buildFailed i e.message)
  | .announceLaunchFailure e => some (.launchFailed i e.message)
  | .announceLaunch _ => some (.launched i slot.addr)
  | .announcePublication _ => some (.published i slot.addr)
  | _ => none

/-- The event that a statement of a retirement tells about its slot. -/
def Retiring.event? (i : ℕ) : Retiring → Option Event
  | .announceDraining => some (.draining i)
  | .announceKill => some (.terminated i)
  | .announceExit status => some (.exited i status.code?)
  | .announceDeletion none => some (.deleted i)
  | .announceDeletion (some e) => some (.deleteFailed i e.message)
  | .announceRelease => some (.released i)
  | _ => none

/-- The slot and the address that an event publishes. -/
def Event.publication? : Event → Option (ℕ × String)
  | .published i addr => some (i, addr)
  | _ => none

/-- The publications among events, in their order. -/
def toldPublications (events : List Event) : List (ℕ × String) :=
  events.filterMap (·.publication?)

/-- The publications among some events and others after them. -/
theorem toldPublications_append (events more : List Event) :
    toldPublications (events ++ more) = toldPublications events ++ toldPublications more :=
  List.filterMap_append

/-- No statement of a retirement publishes anything. -/
theorem Retiring.toldPublications_event? (i : ℕ) (now : Retiring) :
    toldPublications (now.event? i).toList = [] := by
  cases now with
  | announceDeletion failure => cases failure <;> rfl
  | _ => rfl

/-! ### Statements -/

/-- The statement publishes the address of the current slot. -/
def Statement.publishes : Statement → Bool
  | .publish _ => true
  | _ => false

/-- The statement tells that an address has been published. -/
def Statement.announces : Statement → Bool
  | .announcePublication _ => true
  | _ => false

/-- One statement publishes. -/
theorem Statement.exists_of_publishes {st : Statement} (h : st.publishes = true) :
    ∃ b, st = .publish b := by
  cases st with
  | publish b => exact ⟨b, rfl⟩
  | _ => exact absurd h Bool.false_ne_true

/-- One statement tells of it. -/
theorem Statement.exists_of_announces {st : Statement} (h : st.announces = true) :
    ∃ b, st = .announcePublication b := by
  cases st with
  | announcePublication b => exact ⟨b, rfl⟩
  | _ => exact absurd h Bool.false_ne_true

/-- The publications among what a statement tells. -/
theorem Statement.toldPublications_event? (slot : Slot) (i : ℕ) (st : Statement) :
    toldPublications (st.event? slot i).toList = if st.announces then [(i, slot.addr)] else [] := by
  cases st <;> rfl

/-- How the task ends with a statement. -/
def Statement.outcome? : Statement → Option Outcome
  | .finish outcome => some outcome
  | _ => none

/-- A statement of a build tells nothing, and publishes nothing. -/
theorem Statement.quiet_of_builds {st : Statement} (h : st.builds = true) :
    (∀ slot i, st.event? slot i = none) ∧ st.publishes = false ∧ st.outcome? = none := by
  cases st with
  | openSources | generate | assemble | compile | install => exact ⟨fun _ _ => rfl, rfl, rfl⟩
  | _ => exact absurd h Bool.false_ne_true

/-- **A publication is told next**, and nothing else is. -/
theorem Statement.Leads.announces {st next : Statement} (h : st.Leads next) :
    next.announces = st.publishes := by
  cases h with
  | buildFailure _ _ hbuilds => exact (quiet_of_builds hbuilds).2.1.symm
  | _ => rfl

/-- A statement that goes on is no last one. -/
theorem Statement.Leads.outcome? {st next : Statement} (h : st.Leads next) :
    st.outcome? = none := by
  cases h with
  | buildFailure _ _ hbuilds => exact (quiet_of_builds hbuilds).2.2
  | _ => rfl

/-- What a statement of the task that has the ring lets others know. -/
structure Telling (s : Machine) (st : Statement) (t : Machine) : Prop where
  /-- It tells its event. -/
  events : t.events = s.events ++ (st.event? s.current s.position.current).toList
  /-- Only a publication changes the published address. -/
  published : t.published =
    if st.publishes then s.published.publish s.current.addr else s.published
  /-- A publication is told next. -/
  announces : t.task.any (·.announces) = st.publishes
  /-- A task ends with its last statement. -/
  outcomes : t.outcomes = s.outcomes ++ st.outcome?.toList
  /-- It has a next statement before. -/
  ends : t.task.isNone = st.outcome?.isSome
  /-- The next statement is one that may follow. -/
  leads : ∀ next, t.task = some next → st.Leads next

variable {s t : Machine} {st : Statement} {world : World}

/-- A statement that goes on to another one. -/
theorem Telling.goes {next : Statement}
    (hevents : t.events = s.events ++ (st.event? s.current s.position.current).toList)
    (hpublished : t.published =
      if st.publishes then s.published.publish s.current.addr else s.published)
    (houtcomes : t.outcomes = s.outcomes) (htask : t.task = some next)
    (hleads : st.Leads next) : Telling s st t where
  events := hevents
  published := hpublished
  announces := by rw [htask, ← hleads.announces]; rfl
  outcomes := by rw [hleads.outcome?, houtcomes]; exact (List.append_nil _).symm
  ends := by rw [htask, hleads.outcome?]; rfl
  leads following hfollowing := by
    obtain rfl := Option.some.inj (htask.symm.trans hfollowing)
    exact hleads

/-- A statement that goes on and tells nothing. -/
theorem Telling.quiet {next : Statement} (hquiet : st.event? s.current s.position.current = none)
    (hevents : t.events = s.events) (hpublished : t.published =
      if st.publishes then s.published.publish s.current.addr else s.published)
    (houtcomes : t.outcomes = s.outcomes) (htask : t.task = some next)
    (hleads : st.Leads next) : Telling s st t := by
  refine .goes ?_ hpublished houtcomes htask hleads
  rw [hquiet, hevents]
  exact (List.append_nil _).symm

/-- **What a statement of the task that has the ring lets others know.** -/
theorem Machine.carryOut_telling (h : s.carryOut world st = some t) : Telling s st t := by
  cases st with
  | scan =>
      rw [carryOut] at h
      split at h <;> obtain rfl := Option.some.inj h
      · exact .quiet rfl rfl rfl rfl rfl (.scan _)
      · exact .quiet rfl rfl rfl rfl rfl (.scanFailure _)
  | check pages =>
      obtain rfl := Option.some.inj h
      simp only [check]
      split
      · exact .quiet rfl rfl rfl rfl rfl (.idle pages)
      · exact .quiet rfl rfl rfl rfl rfl (.check pages _)
  | acquire pages stale =>
      obtain ⟨u, hu, rfl⟩ := Option.map_eq_some_iff.mp h
      obtain ⟨-, hu⟩ := Option.ite_none_left_eq_some.mp hu
      obtain rfl := Option.some.inj hu
      rw [acquired]
      split
      · exact .quiet rfl rfl rfl rfl rfl (.reuse pages stale)
      · exact .quiet rfl rfl rfl rfl rfl (.acquire pages stale)
  | announceBuild pages | announceLaunch b | announceBuildFailure e | announceLaunchFailure e
  | announcePublication b =>
      obtain rfl := Option.some.inj h
      exact .goes rfl rfl rfl rfl (by constructor)
  | enterBuilding pages | leaveBuilding e | enterLaunching | killUnready b e | leaveLaunching e
  | enterLive b | handOver b | turn | showPosition | giveUp own | stopKill old | stopUnlock old =>
      obtain rfl := Option.some.inj h
      exact .quiet rfl rfl rfl rfl rfl (by constructor)
  | openSources | generate | assemble | compile | install =>
      obtain ⟨r, tree, log, next, hr, rfl, hleads⟩ := exists_of_builds rfl h
      rcases hr with rfl | ⟨d, -, rfl⟩ <;> exact .quiet rfl rfl rfl rfl rfl hleads
  | start =>
      obtain rfl := Option.some.inj h
      rw [start]
      split
      · exact .quiet rfl rfl rfl rfl rfl (.startFailure _)
      · exact .quiet rfl rfl rfl rfl rfl (.start _)
  | examine b =>
      obtain rfl := Option.some.inj h
      rw [examine]
      split
      · exact .quiet rfl rfl rfl rfl rfl (.earlyExit b _)
      · exact .quiet rfl rfl rfl rfl rfl (.examine b)
  | probe b =>
      obtain rfl := Option.some.inj h
      rw [probe]
      split
      · exact .quiet rfl rfl rfl rfl rfl (.probe b)
      · exact .quiet rfl rfl rfl rfl rfl (.probeFailure b _)
  | awaitUnready b e | stopAwait old =>
      obtain ⟨status, -, rfl⟩ := Option.map_eq_some_iff.mp h
      exact .quiet rfl rfl rfl rfl rfl (by constructor)
  | publish b =>
      obtain rfl := Option.some.inj h
      exact .quiet rfl rfl rfl rfl rfl (.publish b)
  | stop =>
      obtain rfl := Option.some.inj h
      rw [stop]
      split
      · exact .quiet rfl rfl rfl rfl rfl .stopNothing
      · exact .quiet rfl rfl rfl rfl rfl (.stop _)
  | stopMove old next later =>
      cases later with
      | nil =>
          obtain rfl := Option.some.inj h
          exact .quiet rfl rfl rfl rfl rfl (.stopMoved old next)
      | cons q later =>
          obtain rfl := Option.some.inj h
          exact .quiet rfl rfl rfl rfl rfl (.stopMove old next q later)
  | finish outcome =>
      obtain rfl := Option.some.inj h
      exact ⟨(List.append_nil _).symm, rfl, rfl, rfl, rfl, by simp [finish]⟩

/-- A task has one last statement. -/
theorem Statement.eq_finish_of_outcome? {outcome : Outcome} (h : st.outcome? = some outcome) :
    st = .finish outcome := by
  cases st with
  | finish own => exact congrArg Statement.finish (Option.some.inj h)
  | _ => exact absurd h (by simp [Statement.outcome?])

/-- A task that does not end with a statement has a next one. -/
theorem Telling.exists_next (h : Telling s st t) (hends : st.outcome? = none) :
    ∃ next, t.task = some next := by
  refine Option.ne_none_iff_exists'.mp fun hidle => ?_
  have := h.ends
  rw [hidle, hends] at this
  exact absurd this (by decide)

/-- A task that ends does so with its last statement. -/
theorem Telling.exists_finish (h : Telling s st t) (hnone : t.task = none) :
    ∃ outcome, st = .finish outcome := by
  have hends := h.ends
  rw [hnone] at hends
  obtain ⟨outcome, houtcome⟩ := Option.isSome_iff_exists.mp hends.symm
  exact ⟨outcome, Statement.eq_finish_of_outcome? houtcome⟩

/-- What a statement of a retirement lets others know: its event. -/
theorem Machine.retire_telling {h : Handle} {now : Retiring} {following : Option Retiring}
    (heq : s.retire h now = some (t, following)) :
    t.events = s.events ++ (now.event? h.slot).toList ∧ t.outcomes = s.outcomes := by
  have hquiet : s.events = s.events ++ [] := (List.append_nil _).symm
  cases now with
  | enterDraining | enterTerminating | kill | enterCleaning | enterIdle | unlock =>
      obtain ⟨rfl, rfl⟩ := Prod.mk.inj (Option.some.inj heq)
      exact ⟨hquiet, rfl⟩
  | announceDraining | announceKill | announceExit status | announceRelease =>
      obtain ⟨rfl, rfl⟩ := Prod.mk.inj (Option.some.inj heq)
      exact ⟨rfl, rfl⟩
  | await =>
      obtain ⟨status, -, hmap⟩ := Option.map_eq_some_iff.mp heq
      obtain ⟨rfl, rfl⟩ := Prod.mk.inj hmap
      exact ⟨hquiet, rfl⟩
  | delete =>
      obtain ⟨tree, htree⟩ := s.delete_eq (s.slot h.slot).exePath
      rcases hdelete : s.delete (s.slot h.slot).exePath with ⟨failure, u⟩
      rw [hdelete] at htree
      rw [retire, hdelete] at heq
      obtain ⟨rfl, rfl⟩ := Prod.mk.inj (Option.some.inj heq)
      obtain rfl : u = { s with tree } := htree
      exact ⟨hquiet, rfl⟩
  | announceDeletion failure =>
      obtain ⟨rfl, rfl⟩ := Prod.mk.inj (Option.some.inj heq)
      cases failure <;> exact ⟨rfl, rfl⟩

/-! ### Moves -/

/-- A move that is no statement of the task that has the ring lets others know no more than what a
retirement tells. -/
structure Machine.Aside (s t : Machine) : Prop where
  /-- At most a task begins. -/
  task : t.task = s.task ∨ s.task = none ∧ (t.task = some .scan ∨ t.task = some .stop)
  steady : s.Steady t
  published : t.published = s.published
  outcomes : t.outcomes = s.outcomes
  events : ∃ told, t.events = s.events ++ told ∧ toldPublications told = []
  addrs : t.slots.map (·.addr) = s.slots.map (·.addr)
  /-- No backend becomes live, and no retirement begins. -/
  retains : ∀ g, t.Retains g → s.Retains g

/-- A move that nobody is told of. -/
theorem Machine.Aside.quiet
    (htask : t.task = s.task ∨ s.task = none ∧ (t.task = some .scan ∨ t.task = some .stop))
    (hsteady : s.Steady t) (hpublished : t.published = s.published)
    (houtcomes : t.outcomes = s.outcomes) (hevents : t.events = s.events)
    (hslots : t.slots = s.slots) (hretirements : t.retirements = s.retirements) : s.Aside t where
  task := htask
  steady := hsteady
  published := hpublished
  outcomes := houtcomes
  events := ⟨[], by rw [hevents, List.append_nil], rfl⟩
  addrs := by rw [hslots]
  retains g hr := by
    rw [Retains, hsteady.live, hretirements] at hr
    exact hr

/-- The moves of everybody else. -/
theorem Machine.apply_aside {m : Move} (hm : ∀ world, m ≠ .proceed world)
    (heq : s.apply m = some t) : s.Aside t := by
  obtain ⟨u, hu, rfl⟩ := Option.map_eq_some_iff.mp heq
  suffices haside : s.Aside u from
    ⟨haside.task, haside.steady.trans (.of_deeds rfl rfl rfl rfl rfl), haside.published,
      haside.outcomes, haside.events, haside.addrs, haside.retains⟩
  cases m with
  | begin | beginStop =>
      obtain ⟨hnone, hu⟩ := Option.ite_none_right_eq_some.mp hu
      obtain rfl := Option.some.inj hu
      refine .quiet (Or.inr ⟨Option.isNone_iff_eq_none.mp hnone, ?_⟩)
        (.of_deeds rfl rfl rfl rfl rfl) rfl rfl rfl rfl rfl
      first | exact Or.inl rfl | exact Or.inr rfl
  | proceed world => exact absurd rfl (hm world)
  | retire i =>
      obtain ⟨_, _, _, hstep⟩ := Machine.retireAt_step false (by simp) hu
      obtain ⟨r, following, v, -, hv, rfl⟩ := Machine.exists_of_retireAt hu
      obtain ⟨hevents, houtcomes⟩ := Machine.retire_telling hv
      have hsteady : s.Steady v := Machine.retire_steady hv
      exact ⟨Or.inl hstep.task, hsteady.trans (.of_deeds rfl rfl rfl rfl rfl), hstep.published,
        houtcomes, ⟨_, hevents, r.next.toldPublications_event? _⟩, hstep.acts.addrs,
        fun _ => retains_of_retireAt hu⟩
  | exit b status =>
      obtain ⟨B, -, hrest⟩ := Option.bind_eq_some_iff.mp hu
      split at hrest
      · exact absurd hrest (by simp)
      · obtain rfl := Option.some.inj hrest
        exact .quiet (Or.inl rfl) (.of_deeds rfl rfl rfl rfl rfl) rfl rfl rfl rfl rfl
  | change tree =>
      obtain rfl := Option.some.inj hu
      exact .quiet (Or.inl rfl) (.of_deeds rfl rfl rfl rfl rfl) rfl rfl rfl rfl rfl

/-- A statement of the task that has the ring, or another move. -/
theorem Machine.apply_cases {m : Move} (heq : s.apply m = some t) :
    s.Aside t ∨ ∃ world st u, m = .proceed world ∧ s.task = some st ∧
      s.carryOut world st = some u ∧ t = { u with clock := u.clock + 1 } := by
  cases m with
  | proceed world =>
      obtain ⟨u, hu, rfl⟩ := Option.map_eq_some_iff.mp heq
      obtain ⟨st, htask, hcarry⟩ := Option.bind_eq_some_iff.mp hu
      exact Or.inr ⟨world, st, u, rfl, htask, hcarry, rfl⟩
  | _ => exact Or.inl (Machine.apply_aside (by simp) heq)

/-! ### The publications on record -/

/-- The publication that the task that has the ring is about to tell. -/
def Machine.untold (s : Machine) : List (ℕ × String) :=
  if s.task.any (·.announces) then [(s.position.current, s.current.addr)] else []

/-- What others know of the publications follows from the record of them. -/
structure Machine.Announced (addrs : List String) (s : Machine) : Prop where
  /-- The addresses of the slots stay. -/
  slots : s.slots.map (·.addr) = addrs
  /-- The published address is that of the last publication. -/
  published : s.published =
    (publications s.deeds).foldl (fun live i => live.publish (addrs.getD i "")) {}
  /-- All publications have been told, but for one that is told next. -/
  told : toldPublications s.events ++ s.untold =
    (publications s.deeds).map fun i => (i, addrs.getD i "")

variable {addrs : List String}

/-- The address of a slot. -/
theorem Machine.Announced.addr_slot (h : s.Announced addrs) (i : ℕ) :
    (s.slot i).addr = addrs.getD i "" := by
  rw [slot, List.getD_eq_getElem?_getD, List.getD_eq_getElem?_getD, ← h.slots, List.getElem?_map]
  cases s.slots[i]? <;> rfl

/-- A new ring has published nothing. -/
theorem Machine.Announced.new {config : Config} {tree : Files.Tree} {clock : Files.Time}
    (hnew : Machine.new config tree clock = .ok s) : s.Announced config.backend.addrs := by
  obtain ⟨-, rfl⟩ := Machine.new_eq_ok hnew
  exact ⟨Slot.map_addr_ring config, rfl, rfl⟩

/-- Others do not publish anything. -/
theorem Machine.Aside.announced (haside : s.Aside t) (h : s.Announced addrs) :
    t.Announced addrs where
  slots := haside.addrs.trans h.slots
  published := by rw [haside.published, haside.steady.publications, h.published]
  told := by
    obtain ⟨told, hevents, hnone⟩ := haside.events
    have huntold : t.untold = s.untold := by
      rw [untold, untold, current, current, haside.steady.position, Machine.addr_slot haside.addrs]
      rcases haside.task with htask | ⟨hnone, htask | htask⟩
      · rw [htask]
      · rw [htask, hnone]
        rfl
      · rw [htask, hnone]
        rfl
    rw [hevents, toldPublications_append, hnone, List.append_nil, huntold,
      haside.steady.publications]
    exact h.told

/-- A statement puts a publication on record if and only if it publishes an address. -/
theorem Telling.publications_eq (h : Telling s st t) (hturning : Turning s st t) :
    publications t.deeds =
      publications s.deeds ++ if st.publishes then [s.position.current] else [] := by
  have hquiet (hpublishes : st.publishes = false) : publications s.deeds =
      publications s.deeds ++ if st.publishes then [s.position.current] else [] := by
    rw [hpublishes]
    exact (List.append_nil _).symm
  cases hturning with
  | stays hstage hsame =>
      rw [hsame.publications]
      refine hquiet (Bool.eq_false_iff.mpr fun hpublishes => ?_)
      -- the next statement would be at the same stage, but it tells of the publication
      have hannounces := h.announces
      rw [hpublishes] at hannounces
      obtain ⟨next, hnext, htells⟩ := (Option.any_eq_true _ _).mp hannounces
      obtain ⟨b, rfl⟩ := Statement.exists_of_publishes hpublishes
      obtain ⟨k, rfl⟩ := Statement.exists_of_announces htells
      exact absurd (Machine.stage_of_some hnext ▸ hstage) (by simp [Statement.stage])
  | publishes b hst _ _ _ _ _ hdeeds =>
      rw [hdeeds, publications_concat_published, hst]
      rfl
  | handsOver b hst _ _ _ _ _ hdeeds | turns hst _ _ _ _ _ hdeeds | shows hst _ _ _ _ _ hdeeds
  | finishes hst _ _ _ _ _ hdeeds | stops hst _ _ _ _ _ hdeeds =>
      rw [hdeeds]
      exact hquiet (hst ▸ rfl)

/-- **No statement of the task that has the ring violates the invariant.** -/
theorem Telling.announced (htelling : Telling s st t) (hturning : Turning s st t)
    (htask : s.task = some st) (haddrs : t.slots.map (·.addr) = s.slots.map (·.addr))
    (hposition : st.publishes = true → t.position = s.position) (h : s.Announced addrs) :
    t.Announced addrs := by
  have hpublications := htelling.publications_eq hturning
  have htold : toldPublications t.events = toldPublications s.events ++ s.untold := by
    rw [htelling.events, toldPublications_append, Statement.toldPublications_event?,
      Machine.untold, htask]
    rfl
  refine ⟨haddrs.trans h.slots, ?_, ?_⟩
  · rw [htelling.published, hpublications, h.published]
    cases st.publishes with
    | false => rw [if_neg Bool.false_ne_true, if_neg Bool.false_ne_true, List.append_nil]
    | true => rw [if_pos rfl, if_pos rfl, List.foldl_concat, Machine.current, h.addr_slot]
  · rw [htold, h.told, hpublications, List.map_append, Machine.untold, htelling.announces]
    cases hpublishes : st.publishes with
    | false => rfl
    | true =>
        rw [if_pos rfl, if_pos rfl, hposition hpublishes, Machine.current, hposition hpublishes,
          Machine.addr_slot haddrs, h.addr_slot]
        rfl

/-- **No move violates the invariant.** -/
theorem Machine.Announced.apply (h : s.Announced addrs) (hsound : s.Sound) {m : Move}
    (heq : s.apply m = some t) : t.Announced addrs := by
  rcases Machine.apply_cases heq with haside | ⟨world, st, u, rfl, htask, hcarry, rfl⟩
  · exact haside.announced h
  · have hstep := carryOut_step false (by simp) hsound.current hcarry
    obtain ⟨m, m', os, -, -, hacts⟩ := hstep.exists_acts htask
    have hu : u.Announced addrs := by
      refine (carryOut_telling hcarry).announced (carryOut_turning hcarry) htask hacts.addrs ?_ h
      intro hpublishes
      obtain ⟨b, rfl⟩ := Statement.exists_of_publishes hpublishes
      obtain rfl := Option.some.inj hcarry
      rfl
    exact ⟨hu.slots, hu.published, hu.told⟩

/-- The invariant holds in every state that a ring comes to. -/
theorem Machine.Announced.of_run {config : Config} {tree : Files.Tree} {clock : Files.Time}
    {moves : List Move} (hnew : Machine.new config tree clock = .ok s)
    (hrun : s.run moves = some t) : t.Announced config.backend.addrs := by
  suffices hall : t.Sound ∧ t.Announced config.backend.addrs from hall.2
  refine Machine.run_induction
    (P := fun u => u.Sound ∧ u.Announced config.backend.addrs) ?_ ⟨.new hnew, .new hnew⟩ hrun
  rintro m - u v ⟨hsound, hannounced⟩ heq
  exact ⟨hsound.apply heq, hannounced.apply hsound heq⟩

/-- Events are only added. -/
theorem Machine.events_isPrefix_of_run {moves : List Move} (hrun : s.run moves = some t) :
    s.events <+: t.events := by
  refine Machine.run_induction (P := fun u => s.events <+: u.events) ?_ List.prefix_rfl hrun
  intro m _ u v hu heq
  rcases Machine.apply_cases heq with haside | ⟨world, st, w, rfl, -, hcarry, rfl⟩
  · obtain ⟨told, hevents, -⟩ := haside.events
    exact hevents ▸ hu.trans (List.prefix_append _ _)
  · exact (carryOut_telling hcarry).events ▸ hu.trans (List.prefix_append _ _)

end LivePages.Ring
