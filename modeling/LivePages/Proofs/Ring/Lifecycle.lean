import LivePages.Proofs.Ring.Announcement
import LivePages.Proofs.Ring.Rounds

/-!
# The Life of a Slot as Others Hear of It

The events of one slot are told by two tasks: by the rotation that builds into it and starts its
backend, and by the retirement of that backend. Whoever owns the slot knows what others have heard
of it, and goes on from there; a slot that nobody owns is told of no more. So the events of a slot
are those of rounds that follow each other.

A retirement gives the slot up first and tells that it is free again after that. In between a
rotation may take the slot and tell of the next round. What remains is that every slot is said to
be free as often as a deletion was told before, unless a retirement of it still goes on.

## Main results

* `Statement.told`, `Retiring.told`: what others have heard of a slot before a statement.
* `Informed`: the owners of the slots are right about it.
* `Machine.Owing`: how often slots have been said to be free.
* `slot_lifecycle`: the events of a slot.
* `release_overtaken`: a slot that is said to be free in the middle of its next round.
-/

namespace LivePages.Ring

/-! ### What is told, and what follows from it -/

/-- Whoever has heard so much has heard so much more after an event, if there is one. -/
def Told.Follows (i : ℕ) (told : Told) (e : Option Event) (told' : Told) : Prop :=
  ∀ events, Heard i events told → Heard i (events ++ e.toList) told'

section

variable {i : ℕ} {told told' : Told} {e : Event}

/-- Nothing is heard. -/
theorem Told.Follows.quiet (i : ℕ) (told : Told) : told.Follows i none told := by
  intro events h
  rw [Option.toList_none, List.append_nil]
  exact h

/-- The next event of the slot is heard. -/
theorem Told.Hears.follows (he : told.Hears i e told') : told.Follows i (some e) told' :=
  fun _ h => h.hears he

/-- An event is heard that does not count. -/
theorem Told.Follows.aside {e : Option Event} (he : ∀ a ∈ e, a.tells i = false) (told : Told) :
    told.Follows i e told := by
  cases e with
  | none => exact .quiet i told
  | some a => exact fun _ h => h.aside (he a rfl)

end

/-! ### Statements -/

/-- What others may have heard of the current slot before a statement of the task that has it. -/
def Statement.told : Statement → List Told
  | .scan | .check _ | .acquire _ _ | .enterBuilding _ | .announceBuild _ | .giveUp _ | .turn
  | .showPosition | .stop | .finish _ => [.nothing]
  | .openSources _ | .generate _ _ | .assemble _ | .compile _ | .install _ _ | .leaveBuilding _
  | .announceBuildFailure _ => [.build]
  | .enterLaunching | .start | .examine _ | .probe _ | .killUnready _ _ | .awaitUnready _ _
  | .leaveLaunching _ | .announceLaunchFailure _ | .announceLaunch _ => [.nothing, .build]
  | .enterLive _ | .publish _ | .announcePublication _ => [.launch]
  | .handOver _ | .stopKill _ | .stopAwait _ | .stopMove _ _ _ | .stopUnlock _ => [.publication]

/-- What others have heard of the slot of a retired backend before a statement. -/
def Retiring.told : Retiring → Told
  | .enterDraining | .announceDraining => .publication
  | .enterTerminating | .kill | .announceKill => .draining
  | .await | .announceExit _ => .kill
  | .enterCleaning | .delete | .announceDeletion _ => .exit
  | .enterIdle | .unlock | .announceRelease => .nothing

variable {i : ℕ} {e : Event} {slot : Slot} {st next : Statement}

/-- During a build others have heard that it has begun. -/
theorem Statement.told_of_builds (h : st.builds = true) : st.told = [.build] := by
  cases st with
  | openSources | generate | assemble | compile | install => rfl
  | _ => exact absurd h Bool.false_ne_true

/-- The events that a statement tells are about the current slot. -/
theorem Statement.slot_of_event? (h : st.event? slot i = some e) : e.slot = i := by
  cases st with
  | announceBuild | announceBuildFailure | announceLaunchFailure | announceLaunch
  | announcePublication =>
      obtain rfl := Option.some.inj h
      rfl
  | _ => exact absurd h (by simp [event?])

/-- What a task knows before a statement it knows about the current slot. -/
theorem Statement.slot_of_possession? {o : Possession} (hst : st.stops = false)
    (h : st.possession? i = some o) : o.slot = i := by
  cases st with
  | scan | check | acquire | turn | showPosition | stop | finish =>
      exact absurd h (by simp [possession?])
  | stopKill | stopAwait | stopMove | stopUnlock => exact absurd hst (by simp [stops])
  | _ =>
      obtain rfl := Option.some.inj h
      rfl

/-- A task that has no slot tells nothing. -/
theorem Statement.quiet_of_possession? (h : st.possession? i = none) :
    st.told = [.nothing] ∧ ∀ slot, st.event? slot i = none := by
  cases st with
  | scan | check | acquire | turn | showPosition | stop | finish => exact ⟨rfl, fun _ => rfl⟩
  | _ => exact absurd h (by simp [possession?])

/-- **A statement tells what may be heard next.** -/
theorem Statement.Leads.follows (h : st.Leads next) (hst : st.stops = false)
    (hhand : ∀ b, st ≠ .handOver b) :
    ∀ told ∈ st.told, ∃ told' ∈ next.told, told.Follows i (st.event? slot i) told' := by
  intro told htold
  have hquiet (hsub : st.told ⊆ next.told) (hevent : st.event? slot i = none) :
      ∃ told' ∈ next.told, told.Follows i (st.event? slot i) told' :=
    ⟨told, hsub htold, hevent ▸ .quiet i told⟩
  cases h with
  | announceBuild pages =>
      obtain rfl := List.mem_singleton.mp htold
      exact ⟨_, List.mem_cons_self, Told.Hears.buildStarted.follows⟩
  | announceBuildFailure e =>
      obtain rfl := List.mem_singleton.mp htold
      exact ⟨_, List.mem_cons_self, (Told.Hears.buildFailed _).follows⟩
  | announceLaunchFailure e =>
      have htold : told = .nothing ∨ told = .build := by simpa [Statement.told] using htold
      exact ⟨_, List.mem_cons_self, (Told.Hears.launchFailed htold _).follows⟩
  | announceLaunch b =>
      have htold : told = .nothing ∨ told = .build := by simpa [Statement.told] using htold
      exact ⟨_, List.mem_cons_self, (Told.Hears.launched htold _).follows⟩
  | announcePublication b =>
      obtain rfl := List.mem_singleton.mp htold
      exact ⟨_, List.mem_cons_self, (Told.Hears.published _).follows⟩
  | buildFailure _ e hbuilds =>
      refine hquiet ?_ ((quiet_of_builds hbuilds).1 slot i)
      rw [told_of_builds hbuilds]
      exact List.Subset.refl _
  | handOver b => exact absurd rfl (hhand b)
  | stopNothing | stop | stopKill | stopAwait | stopMove | stopMoved | stopUnlock =>
      exact absurd hst (by simp [Statement.stops])
  | _ => exact hquiet (by simp [Statement.told]) rfl

/-- Which statements of a retirement follow each other. -/
inductive Retiring.Leads : Retiring → Option Retiring → Prop
  | enterDraining : Leads .enterDraining (some .announceDraining)
  | announceDraining : Leads .announceDraining (some .enterTerminating)
  | enterTerminating : Leads .enterTerminating (some .kill)
  | kill : Leads .kill (some .announceKill)
  | announceKill : Leads .announceKill (some .await)
  | await (status : ExitStatus) : Leads .await (some (.announceExit status))
  | announceExit (status : ExitStatus) : Leads (.announceExit status) (some .enterCleaning)
  | enterCleaning : Leads .enterCleaning (some .delete)
  | delete (failure : Option Files.Error) : Leads .delete (some (.announceDeletion failure))
  | announceDeletion (failure : Option Files.Error) :
      Leads (.announceDeletion failure) (some .enterIdle)
  | enterIdle : Leads .enterIdle (some .unlock)
  | unlock : Leads .unlock (some .announceRelease)
  | announceRelease : Leads .announceRelease none

variable {s t : Machine} {now : Retiring} {following : Option Retiring}

/-- A retirement goes on with the statement that follows. -/
theorem Machine.retire_leads {h : Handle} (heq : s.retire h now = some (t, following)) :
    now.Leads following := by
  cases now with
  | await =>
      obtain ⟨status, -, hmap⟩ := Option.map_eq_some_iff.mp heq
      obtain ⟨-, rfl⟩ := Prod.mk.inj hmap
      exact .await status
  | _ =>
      obtain ⟨-, rfl⟩ := Prod.mk.inj (Option.some.inj heq)
      constructor

/-- The events that a statement of a retirement tells are about its slot. -/
theorem Retiring.slot_of_event? (h : now.event? i = some e) : e.slot = i := by
  cases now with
  | announceDeletion failure => cases failure <;> obtain rfl := Option.some.inj h <;> rfl
  | announceDraining | announceKill | announceExit | announceRelease =>
      obtain rfl := Option.some.inj h
      rfl
  | _ => exact absurd h (by simp [event?])

/-- **A statement of a retirement tells what may be heard next.** -/
theorem Retiring.Leads.follows (h : now.Leads following) : now.told.Follows i (now.event? i)
    ((following.map (·.told)).getD .nothing) := by
  cases h with
  | announceDraining => exact Told.Hears.draining.follows
  | announceKill => exact Told.Hears.terminated.follows
  | announceExit status => exact (Told.Hears.exited _).follows
  | announceDeletion failure =>
      cases failure <;> exact (Told.Hears.deleted (by simp [Event.deletes])).follows
  | announceRelease => exact .aside (by simp [event?]) _
  | _ => exact .quiet i _

/-! ### The owners of the slots -/

/-- A slot that somebody owns, and what others may have heard of it. -/
structure Charge where
  /-- The slot. -/
  slot : ℕ
  /-- What they may have heard. -/
  told : List Told

/-- The slot that the task that has the ring owns before a statement. -/
def Statement.charge? (i : ℕ) (st : Statement) : Option Charge :=
  (st.possession? i).map fun o => ⟨o.slot, st.told⟩

/-- The slot that a retirement owns. -/
def Retirement.charge? (r : Retirement) : Option Charge :=
  r.possession?.map fun o => ⟨o.slot, [r.next.told]⟩

/-- The slot of a live backend. -/
def Handle.charge (h : Handle) : Charge :=
  ⟨h.slot, [.publication]⟩

/-- All slots that somebody owns. -/
def Machine.charges (s : Machine) : List Charge :=
  (s.task.bind (·.charge? s.position.current)).toList ++
    ((s.live.map (·.charge)).toList ++ s.retirements.filterMap (·.charge?))

/-- These are the slots of the possessions. -/
theorem Machine.map_slot_charges (s : Machine) :
    s.charges.map (·.slot) = s.possessions.map (·.slot) := by
  have htask : (s.task.bind (·.charge? s.position.current)).toList.map (·.slot) =
      s.taskPossession?.toList.map (·.slot) := by
    rw [taskPossession?]
    cases s.task with
    | none => rfl
    | some st =>
        rw [Option.bind_some, Option.bind_some, Statement.charge?]
        cases st.possession? s.position.current <;> rfl
  have hlive : (s.live.map (·.charge)).toList.map (·.slot) =
      (s.live.map (·.live)).toList.map (·.slot) := by
    cases s.live <;> rfl
  have hretirements : (s.retirements.filterMap (·.charge?)).map (·.slot) =
      (s.retirements.filterMap (·.possession?)).map (·.slot) := by
    rw [List.map_filterMap, List.map_filterMap]
    refine List.filterMap_congr fun r _ => ?_
    rw [Retirement.charge?, Option.map_map]
    rfl
  rw [charges, possessions, List.map_append, List.map_append, List.map_append, List.map_append,
    htask, hlive, hretirements]

/-- No slot has two owners. -/
theorem Machine.Sound.nodup_charges (h : s.Sound) : (s.charges.map (·.slot)).Nodup := by
  rw [s.map_slot_charges]
  exact h.owned.apart

/-- The owners of the slots are right about what others have heard of them, and others know of no
round in a slot that nobody owns. -/
structure Informed (events : List Event) (cs : List Charge) : Prop where
  told : ∀ c ∈ cs, ∃ told ∈ c.told, Heard c.slot events told
  rest : ∀ i, i ∉ cs.map (·.slot) → Heard i events .nothing

variable {events : List Event} {c : Charge} {cs cs' : List Charge}

/-- The order of the owners does not matter. -/
theorem Informed.perm (h : Informed events cs) (hp : cs.Perm cs') : Informed events cs' where
  told c hc := h.told c (hp.mem_iff.mpr hc)
  rest i hi := h.rest i fun hmem => hi ((hp.map _).mem_iff.mp hmem)

/-- The owner of a slot tells an event of it, or none. -/
theorem Informed.replace {e : Option Event} {told : List Told}
    (h : Informed events (c :: cs)) (hnew : c.slot ∉ cs.map (·.slot))
    (hfollows : ∀ x ∈ c.told, ∃ y ∈ told, x.Follows c.slot e y)
    (haside : ∀ j ≠ c.slot, ∀ a ∈ e, a.tells j = false) :
    Informed (events ++ e.toList) (⟨c.slot, told⟩ :: cs) where
  told d hd := by
    rcases List.mem_cons.mp hd with rfl | hmem
    · obtain ⟨x, hx, hheard⟩ := h.told c List.mem_cons_self
      obtain ⟨y, hy, hfollow⟩ := hfollows x hx
      exact ⟨y, hy, hfollow events hheard⟩
    · obtain ⟨x, hx, hheard⟩ := h.told d (List.mem_cons_of_mem _ hmem)
      have hne : d.slot ≠ c.slot := fun heq => hnew (heq ▸ List.mem_map_of_mem hmem)
      exact ⟨x, hx, Told.Follows.aside (haside _ hne) x events hheard⟩
  rest j hj := by
    have hne : j ≠ c.slot := fun heq => hj (heq ▸ List.mem_cons_self)
    exact Told.Follows.aside (haside j hne) _ events (h.rest j hj)

/-- A slot gets an owner, who tells an event of it, or none. -/
theorem Informed.take {e : Option Event} {told : List Told} (h : Informed events cs)
    (hnew : i ∉ cs.map (·.slot)) (hfollows : ∃ y ∈ told, Told.Follows i .nothing e y)
    (haside : ∀ j ≠ i, ∀ a ∈ e, a.tells j = false) :
    Informed (events ++ e.toList) (⟨i, told⟩ :: cs) where
  told d hd := by
    rcases List.mem_cons.mp hd with rfl | hmem
    · obtain ⟨y, hy, hfollow⟩ := hfollows
      exact ⟨y, hy, hfollow events (h.rest i hnew)⟩
    · obtain ⟨x, hx, hheard⟩ := h.told d hmem
      have hne : d.slot ≠ i := fun heq => hnew (heq ▸ List.mem_map_of_mem hmem)
      exact ⟨x, hx, Told.Follows.aside (haside _ hne) x events hheard⟩
  rest j hj := by
    rw [List.map_cons, List.mem_cons, not_or] at hj
    exact Told.Follows.aside (haside j hj.1) _ events (h.rest j hj.2)

/-- An event is told that does not count. -/
theorem Informed.aside {e : Option Event} (h : Informed events cs)
    (he : ∀ a ∈ e, ∀ j, a.tells j = false) : Informed (events ++ e.toList) cs where
  told d hd := by
    obtain ⟨x, hx, hheard⟩ := h.told d hd
    exact ⟨x, hx, Told.Follows.aside (fun a ha => he a ha _) x events hheard⟩
  rest j hj := Told.Follows.aside (fun a ha => he a ha j) _ events (h.rest j hj)

/-- A slot loses its owner, who knows that the round is over. -/
theorem Informed.release (h : Informed events (c :: cs)) (htold : c.told = [.nothing]) :
    Informed events cs where
  told d hd := h.told d (List.mem_cons_of_mem _ hd)
  rest j hj := by
    by_cases hc : j = c.slot
    · obtain ⟨x, hx, hheard⟩ := h.told c List.mem_cons_self
      rw [htold, List.mem_singleton] at hx
      rw [hc, ← hx]
      exact hheard
    · refine h.rest j ?_
      rw [List.map_cons, List.mem_cons, not_or]
      exact ⟨hc, hj⟩

/-- **Whoever tells of a slot what may be heard next leaves the owners right.** Of a slot that it
does not own it tells nothing. -/
theorem Informed.step {m m' : Option Charge} {e : Option Event} {told told' : List Told}
    (h : Informed events (m.toList ++ cs)) (hapart : ((m.toList ++ cs).map (·.slot)).Nodup)
    (hapart' : ((m'.toList ++ cs).map (·.slot)).Nodup)
    (hbefore : m = some ⟨i, told⟩ ∨
      m = none ∧ told = [.nothing] ∧ ∀ a ∈ e, ∀ j, a.tells j = false)
    (hafter : m' = some ⟨i, told'⟩ ∨ m' = none ∧ told' = [.nothing])
    (hfollows : ∀ x ∈ told, ∃ y ∈ told', x.Follows i e y)
    (haside : ∀ j ≠ i, ∀ a ∈ e, a.tells j = false) :
    Informed (events ++ e.toList) (m'.toList ++ cs) := by
  rcases hbefore with rfl | ⟨rfl, rfl, hquiet⟩
  · have hreplaced := h.replace (List.nodup_cons.mp hapart).1 hfollows haside
    rcases hafter with rfl | ⟨rfl, rfl⟩
    · exact hreplaced
    · exact hreplaced.release rfl
  · rcases hafter with rfl | ⟨rfl, rfl⟩
    · exact h.take (List.nodup_cons.mp hapart').1 (hfollows _ List.mem_cons_self) haside
    · exact h.aside hquiet

/-! ### Moves -/

/-- A task owns the current slot before a statement, or knows of no round, and tells nothing. -/
theorem Statement.charge?_cases (hst : st.stops = false) :
    st.charge? i = some ⟨i, st.told⟩ ∨
      st.charge? i = none ∧ st.told = [.nothing] ∧ ∀ slot, st.event? slot i = none := by
  rw [charge?]
  cases ho : st.possession? i with
  | none => exact Or.inr ⟨rfl, quiet_of_possession? ho⟩
  | some o => exact Or.inl (by rw [Option.map_some, slot_of_possession? hst ho])

/-- A retirement owns its slot before a statement, or knows of no round, and tells nothing that
counts. -/
theorem Retirement.charge?_cases (r : Retirement) :
    r.charge? = some ⟨r.handle.slot, [r.next.told]⟩ ∨
      r.charge? = none ∧ [r.next.told] = [.nothing] ∧
        ∀ e ∈ r.next.event? r.handle.slot, ∀ j, e.tells j = false := by
  rw [charge?, possession?]
  cases hnext : r.next with
  | announceRelease => exact Or.inr ⟨rfl, rfl, by simp [Retiring.event?]⟩
  | _ => exact Or.inl rfl

/-- A retirement owns its slot after a statement, or knows of no round. -/
theorem Retirement.charge?_following_cases (r : Retirement) (following : Option Retiring) :
    (following.bind fun next => { r with next }.charge?) =
        some ⟨r.handle.slot, [(following.map (·.told)).getD .nothing]⟩ ∨
      (following.bind fun next => { r with next }.charge?) = none ∧
        [(following.map (·.told)).getD .nothing] = [.nothing] := by
  cases following with
  | none => exact Or.inr ⟨rfl, rfl⟩
  | some next => exact (charge?_cases { r with next }).imp_right fun h => ⟨h.1, h.2.1⟩

/-- The owned slots of a ring whose task is about to carry out a statement. -/
theorem Machine.charges_of_task (h : s.task = some st) :
    s.charges = (st.charge? s.position.current).toList ++
      ((s.live.map (·.charge)).toList ++ s.retirements.filterMap (·.charge?)) := by
  rw [charges, h]
  rfl

/-- When a backend takes the place of the live one, the slots change hands. -/
theorem Machine.charges_handOver {b : ℕ} (htask : s.task = some (.handOver b))
    (htask' : t.task = some .turn) (hlive : t.live = some (s.handleOf b))
    (hretirements : t.retirements =
      s.retirements ++ (s.live.map fun h => { handle := h }).toList) :
    s.charges.Perm t.charges := by
  rw [charges_of_task htask, charges_of_task htask', hlive, hretirements, List.filterMap_append]
  cases s.live with
  | none => exact List.Perm.of_eq (by simp; rfl)
  | some old => exact (List.perm_append_singleton old.charge _).symm.cons _

/-- Nobody hears anything, and the owners are the same. -/
theorem Informed.congr (h : Informed s.events s.charges) (hevents : t.events = s.events)
    (hcharges : s.charges.Perm t.charges) : Informed t.events t.charges :=
  hevents ▸ h.perm hcharges

/-- The owners stay right when a task goes on and hands no slot over. -/
theorem Telling.informed (htelling : Telling s st t) (htask : s.task = some st)
    (hst : st.stops = false) (hhand : ∀ b, st ≠ .handOver b) (hnext : t.task = some next)
    (hstops : next.stops = false) (hlive : t.live = s.live)
    (hretirements : t.retirements = s.retirements)
    (hcharge : next.charge? t.position.current = next.charge? s.position.current)
    (hsound : s.Sound) (hsound' : t.Sound) (h : Informed s.events s.charges) :
    Informed t.events t.charges := by
  have hapart := hsound.nodup_charges
  have hapart' := hsound'.nodup_charges
  rw [Machine.charges_of_task htask] at h hapart
  rw [Machine.charges_of_task hnext, hlive, hretirements, hcharge] at hapart' ⊢
  rw [htelling.events]
  refine h.step hapart hapart' ?_ ?_ ((htelling.leads next hnext).follows hst hhand) ?_
  · refine (Statement.charge?_cases hst).imp_right ?_
    rintro ⟨hnone, htold, hquiet⟩
    exact ⟨hnone, htold, by simp [hquiet]⟩
  · exact (Statement.charge?_cases hstops).imp_right fun hfree => ⟨hfree.1, hfree.2.1⟩
  · intro j hne e he
    exact Event.tells_of_ne (Statement.slot_of_event? he ▸ hne)

/-- **The owners stay right when the task that has the ring carries out a statement.** -/
theorem TaskStep.informed (hstep : TaskStep true s st t) (htelling : Telling s st t)
    (htask : s.task = some st) (hst : st.stops = false) (hsound : s.Sound) (hsound' : t.Sound)
    (h : Informed s.events s.charges) : Informed t.events t.charges := by
  have hstops {next : Statement} (hnext : t.task = some next) : next.stops = false :=
    hstep.stops_eq_false hst hnext
  cases hstep with
  | works next hnext hsame hfronting =>
      cases next with
      | none =>
          obtain ⟨outcome, rfl⟩ := htelling.exists_finish hnext
          refine h.congr (htelling.events.trans (List.append_nil _)) (.of_eq ?_)
          rw [Machine.charges, Machine.charges, htask, hnext, hsame.live, hsame.retirements]
          rfl
      | some next =>
          refine htelling.informed htask hst ?_ hnext (hstops hnext) hsame.live hsame.retirements
            (by rw [hsame.position]) hsound hsound' h
          -- the new backend would be about to become the live one after the handing over, too
          rintro b rfl
          cases htelling.leads next hnext <;>
            exact absurd hfronting (by simp [Statement.fronting?])
  | publishes b hst' hnext hlive hretirements hposition =>
      exact htelling.informed htask hst (by simp [hst']) hnext rfl hlive hretirements
        (by rw [hposition]) hsound hsound' h
  | handsOver b hst' hnext hlive hretirements =>
      subst hst'
      exact h.congr (htelling.events.trans (List.append_nil _))
        (Machine.charges_handOver htask hnext hlive hretirements)
  | turns hst' hnext hlive hretirements =>
      exact htelling.informed htask hst (by simp [hst']) hnext rfl hlive hretirements rfl hsound
        hsound' h
  | stops old hst' =>
      subst hst'
      exact absurd hst (by simp [Statement.stops])

/-- **The owners stay right when a retirement carries out a statement.** -/
theorem Machine.informed_retireAt {k : ℕ} (heq : s.retireAt k = some t) (hsound : s.Sound)
    (hsound' : t.Sound) (h : Informed s.events s.charges) : Informed t.events t.charges := by
  obtain ⟨r, following, u, hr, hu, rfl⟩ := Machine.exists_of_retireAt heq
  obtain ⟨htask, hsame, -⟩ : _ ∧ _ ∧ Acts false _ _ _ _ := retire_acts (by simp) hu
  have hr' : u.retirements[k]? = some r := hsame.retirements ▸ hr
  have hcharges : s.charges = u.charges := by
    rw [charges, charges, htask, hsame.position, hsame.live, hsame.retirements]
  -- the slot of the retirement first, the slots of all others after it
  let others := (u.task.bind (·.charge? u.position.current)).toList ++
    ((u.live.map (·.charge)).toList ++ (u.retirements.eraseIdx k).filterMap (·.charge?))
  have hbefore : s.charges.Perm (r.charge?.toList ++ others) :=
    hcharges ▸ perm_append_of_perm (Retirement.perm_of_getElem? (·.charge?) hr')
  have hafter : ({ u with retirements := Retirement.goOn u.retirements k r following } :
      Machine).charges.Perm
        ((following.bind fun next => { r with next }.charge?).toList ++ others) :=
    perm_append_of_perm (Retirement.goOn_perm (·.charge?) hr' following)
  refine Informed.perm ?_ hafter.symm
  rw [show u.events = _ from (retire_telling hu).1]
  refine (h.perm hbefore).step ((hbefore.map _).nodup_iff.mp hsound.nodup_charges)
    ((hafter.map _).nodup_iff.mp hsound'.nodup_charges) r.charge?_cases
    (r.charge?_following_cases following) ?_ ?_
  · simpa using (retire_leads hu).follows
  · intro j hne e he
    exact Event.tells_of_ne (Retiring.slot_of_event? he ▸ hne)

/-! ### How often a slot is said to be free -/

/-- A retirement has told of the deletion, and not yet that the slot is free again. -/
def Retiring.owes : Retiring → Bool
  | .enterIdle | .unlock | .announceRelease => true
  | _ => false

/-- A retirement still has to tell that a slot is free again of whose deletion it has told. -/
def Retirement.owes (i : ℕ) (r : Retirement) : Bool :=
  r.handle.slot = i && r.next.owes

/-- How often it is still to be told that a slot is free again. -/
def Machine.owed (s : Machine) (i : ℕ) : ℕ :=
  s.retirements.countP (·.owes i)

/-- A slot is said to be free as often as a deletion was told before, but for what is still to be
told. -/
structure Machine.Owing (s : Machine) : Prop where
  settled : ∀ i, s.events.count (.released i) + s.owed i = s.events.countP (·.deletes i)
  late : ∀ i told, told <+: s.events → told.count (.released i) ≤ told.countP (·.deletes i)

/-- An event that pays what is owed, or adds to it. -/
theorem Machine.Owing.tells {e : Option Event} (h : s.Owing)
    (hevents : t.events = s.events ++ e.toList)
    (howed : ∀ i, e.toList.count (.released i) + t.owed i =
      e.toList.countP (·.deletes i) + s.owed i) : t.Owing := by
  have hsettled (i : ℕ) :
      t.events.count (.released i) + t.owed i = t.events.countP (·.deletes i) := by
    have hbefore := h.settled i
    have hpaid := howed i
    rw [hevents, List.count_append, List.countP_append]
    omega
  refine ⟨hsettled, fun i told htold => ?_⟩
  cases e with
  | none =>
      rw [hevents, Option.toList_none, List.append_nil] at htold
      exact h.late i told htold
  | some e =>
      rw [hevents, Option.toList_some, List.prefix_concat_iff] at htold
      rcases htold with rfl | htold
      · have := hsettled i
        rw [hevents] at this
        exact Nat.le_of_add_right_le this.le
      · exact h.late i told htold

/-- A retirement owes from the deletion on until it tells that the slot is free again. -/
theorem Retiring.Leads.owes {r : Retirement} (h : r.next.Leads following) (i : ℕ) :
    (r.next.event? r.handle.slot).toList.count (.released i) +
        (following.map fun next => { r with next }).toList.countP (·.owes i) =
      (r.next.event? r.handle.slot).toList.countP (·.deletes i) + [r].countP (·.owes i) := by
  obtain ⟨handle, next⟩ := r
  by_cases hi : handle.slot = i
  · cases h with
    | announceDeletion failure =>
        cases failure <;> simp [hi, event?, Event.deletes, Retirement.owes, Retiring.owes]
    | _ => simp [hi, event?, Event.deletes, Retirement.owes, Retiring.owes]
  · cases h with
    | announceDeletion failure =>
        cases failure <;> simp [hi, event?, Event.deletes, Retirement.owes]
    | _ => simp [hi, event?, Event.deletes, Retirement.owes]

/-- What is owed does not change with a statement of a task that has the ring. -/
theorem TaskStep.owed {strict : Bool} (hstep : TaskStep strict s st t) (i : ℕ) :
    t.owed i = s.owed i := by
  cases hstep with
  | works _ _ hsame => rw [Machine.owed, Machine.owed, hsame.retirements]
  | publishes _ _ _ _ hretirements | turns _ _ _ hretirements
  | stops _ _ _ _ _ hretirements => rw [Machine.owed, Machine.owed, hretirements]
  | handsOver _ _ _ _ hretirements =>
      rw [Machine.owed, Machine.owed, hretirements, List.countP_append]
      cases s.live <;> simp [Retirement.owes, Retiring.owes]

/-- **What is owed is right when the task that has the ring carries out a statement.** -/
theorem TaskStep.owing {strict : Bool} (hstep : TaskStep strict s st t)
    (htelling : Telling s st t) (h : s.Owing) : t.Owing := by
  refine h.tells htelling.events fun i => ?_
  rw [hstep.owed i]
  cases st <;> simp [Statement.event?, Event.deletes]

/-- **What is owed is right when a retirement carries out a statement.** -/
theorem Machine.owing_retireAt {k : ℕ} (heq : s.retireAt k = some t) (h : s.Owing) : t.Owing := by
  obtain ⟨r, following, u, hr, hu, rfl⟩ := Machine.exists_of_retireAt heq
  obtain ⟨-, hsame, -⟩ : _ ∧ _ ∧ Acts false _ _ _ _ := retire_acts (by simp) hu
  refine h.tells (retire_telling hu).1 fun i => ?_
  have howes := (retire_leads hu).owes i
  have hbefore := (Retirement.perm_eraseIdx hr).countP_eq (·.owes i)
  have hafter := (Retirement.goOn_perm_eraseIdx hr following).countP_eq (·.owes i)
  rw [List.countP_append] at hafter
  rw [List.countP_cons] at hbefore
  rw [List.countP_singleton] at howes
  show _ + (Retirement.goOn u.retirements k r following).countP (·.owes i) =
    _ + s.retirements.countP (·.owes i)
  rw [hsame.retirements]
  omega

/-! ### The events of a slot -/

/-- What others hear of a slot. -/
structure Machine.Lifecycle (s : Machine) (i : ℕ) : Prop where
  /-- They hear of rounds that follow each other. -/
  rounds : InRounds [] i (s.events.filter (·.tells i))
  /-- They do not hear that it is free more often than they have heard of a deletion before. -/
  late : ∀ told, told <+: s.events → told.count (.released i) ≤ told.countP (·.deletes i)
  /-- They hear it as often, unless a retirement of the slot goes on. -/
  settled : (∀ r ∈ s.retirements, r.handle.slot ≠ i) →
    s.events.count (.released i) = s.events.countP (·.deletes i)

/-- The owners are right about the slots, and what is owed is right. -/
structure Machine.Candid (s : Machine) : Prop where
  relay : s.Relay
  informed : Informed s.events s.charges
  owing : s.Owing

/-- A new ring has told nothing. -/
theorem Machine.Candid.new {config : Config} {tree : Files.Tree} {clock : Files.Time}
    (hnew : Machine.new config tree clock = .ok s) : s.Candid := by
  refine ⟨.new hnew, ?_, ?_⟩ <;> obtain ⟨-, rfl⟩ := Machine.new_eq_ok hnew
  · exact ⟨by simp [charges], fun i _ => .nothing⟩
  refine ⟨fun i => rfl, ?_⟩
  intro i told htold
  rw [List.prefix_nil.mp htold]
  exact Nat.le_refl _

/-- **No move but a shutdown violates the invariant.** -/
theorem Machine.Candid.apply (h : s.Candid) {m : Move} (hm : m ≠ .beginStop)
    (heq : s.apply m = some t) : t.Candid := by
  have hrelay := h.relay.apply hm heq
  obtain ⟨u, hu, rfl⟩ := Option.map_eq_some_iff.mp heq
  have hsound : u.Sound := hrelay.sound.congr rfl rfl rfl rfl rfl
  have hquiet (hevents : u.events = s.events) (hcharges : u.charges = s.charges)
      (hretirements : u.retirements = s.retirements) : Informed u.events u.charges ∧ u.Owing := by
    refine ⟨h.informed.congr hevents (.of_eq hcharges.symm), ?_⟩
    refine h.owing.tells (e := none) (hevents.trans (List.append_nil _).symm) fun i => ?_
    rw [owed, owed, hretirements]
    rfl
  suffices hcandid : Informed u.events u.charges ∧ u.Owing from
    ⟨hrelay, hcandid.1, hcandid.2.settled, hcandid.2.late⟩
  cases m with
  | begin =>
      obtain ⟨hnone, hu⟩ := Option.ite_none_right_eq_some.mp hu
      obtain rfl := Option.some.inj hu
      refine hquiet rfl ?_ rfl
      rw [charges, charges, Option.isNone_iff_eq_none.mp hnone]
      rfl
  | beginStop => exact absurd rfl hm
  | proceed world =>
      obtain ⟨st, htask, hcarry⟩ := Option.bind_eq_some_iff.mp hu
      have hst := h.relay.going st htask
      have hstep := carryOut_step true (fun _ => hst) h.relay.sound.current hcarry
      have htelling := carryOut_telling hcarry
      exact ⟨hstep.informed htelling htask hst h.relay.sound hsound h.informed,
        hstep.owing htelling h.owing⟩
  | retire k =>
      exact ⟨informed_retireAt hu h.relay.sound hsound h.informed, owing_retireAt hu h.owing⟩
  | exit b status =>
      obtain ⟨B, -, hrest⟩ := Option.bind_eq_some_iff.mp hu
      obtain ⟨-, hrest⟩ := Option.ite_none_left_eq_some.mp hrest
      obtain rfl := Option.some.inj hrest
      exact hquiet rfl rfl rfl
  | change tree =>
      obtain rfl := Option.some.inj hu
      exact hquiet rfl rfl rfl

/-- The invariant holds in every state that a ring comes to which is not stopped. -/
theorem Machine.Candid.of_run {config : Config} {tree : Files.Tree} {clock : Files.Time}
    {moves : List Move} (hnew : Machine.new config tree clock = .ok s)
    (hstop : .beginStop ∉ moves) (hrun : s.run moves = some t) : t.Candid := by
  refine Machine.run_induction ?_ (.new hnew) hrun
  intro m hm u v hu heq
  exact hu.apply (fun h => hstop (h ▸ hm)) heq

/-- Others have heard something of every slot. -/
theorem Informed.exists_heard (h : Informed events cs) (i : ℕ) : ∃ told, Heard i events told := by
  by_cases hi : i ∈ cs.map (·.slot)
  · obtain ⟨c, hc, rfl⟩ := List.mem_map.mp hi
    obtain ⟨told, -, hheard⟩ := h.told c hc
    exact ⟨told, hheard⟩
  · exact ⟨.nothing, h.rest i hi⟩

/-- **The life of a slot.** However the statements of rotations and retirements follow each other,
as long as the ring is not stopped: the events of a slot, apart from those that say that it is free
again, are those of rounds that follow each other; and it is said to be free as often as a
deletion was told before, once no retirement of the slot goes on. -/
theorem slot_lifecycle {config : Config} {tree : Files.Tree} {clock : Files.Time}
    {moves : List Move} (hnew : Machine.new config tree clock = .ok s)
    (hstop : .beginStop ∉ moves) (hrun : s.run moves = some t) (i : ℕ) : t.Lifecycle i := by
  have hcandid := Machine.Candid.of_run hnew hstop hrun
  obtain ⟨told, hheard⟩ := hcandid.informed.exists_heard i
  refine ⟨hheard.inRounds, hcandid.owing.late i, fun hnone => ?_⟩
  have howed : t.owed i = 0 := by
    rw [Machine.owed, List.countP_eq_zero]
    intro r hr
    simp [Retirement.owes, hnone r hr]
  have hsettled := hcandid.owing.settled i
  rwa [howed, Nat.add_zero] at hsettled

/-- A ring that rotates twice. -/
theorem slot_lifecycle_rotating : ∃ s t,
    Machine.new Sample.config (Sample.site 'a' 3) 10 = .ok s ∧ .beginStop ∉ Sample.moves ∧
      s.run Sample.moves = some t ∧ t.Lifecycle 0 := by
  have hstop : .beginStop ∉ Sample.moves := by simp [Sample.moves, Sample.rotation]
  obtain ⟨s, t, hnew, hrun, -⟩ := Sample.exists_run
  exact ⟨s, t, hnew, hstop, hrun, slot_lifecycle hnew hstop hrun 0⟩

namespace Sample

/-- Two rotations, and the retirement of the first backend up to where its slot is given up. Before
it goes on, a third rotation takes the slot and tells of its build. -/
def overtaking : List Move :=
  rotation ++ [.change (site 'b' 34)] ++ rotation ++ List.replicate 5 (.retire 0) ++
    [.exit 0 (.killed 9)] ++ List.replicate 7 (.retire 0) ++ [.change (site 'c' 90), .begin] ++
      List.replicate 5 (.proceed world) ++ [.retire 0]

/-- What others hear of the first slot meanwhile. -/
def overheard : List Event :=
  [.buildStarted 0, .launched 0 "127.0.0.1:1", .published 0 "127.0.0.1:1", .draining 0,
    .terminated 0, .exited 0 none, .deleteFailed 0 "No such file or directory (os error 2)",
    .buildStarted 0, .released 0]

/-- All this is possible. -/
theorem exists_overtaking : ∃ s t, Machine.new config (site 'a' 3) 10 = .ok s ∧
    s.run overtaking = some t ∧ t.events.filter (·.slot = 0) = overheard := by
  obtain ⟨s, hs, t, hrun, hevents⟩ :
      ∃ s ∈ (Machine.new config (site 'a' 3) 10).toOption, ∃ t ∈ s.run overtaking,
        t.events.filter (·.slot = 0) = overheard := by
    decide +kernel
  exact ⟨s, t, Machine.new_of_mem_toOption hs, hrun, hevents⟩

end Sample

/-- **A slot may be said to be free in the middle of its next round**, so that its events are not
those of rounds that end with this. -/
theorem release_overtaken : ∃ s t, Machine.new Sample.config (Sample.site 'a' 3) 10 = .ok s ∧
    .beginStop ∉ Sample.overtaking ∧ s.run Sample.overtaking = some t ∧
      ¬ InRounds [.released 0] 0 (t.events.filter (·.slot = 0)) := by
  have hstop : .beginStop ∉ Sample.overtaking := by simp [Sample.overtaking, Sample.rotation]
  obtain ⟨s, t, hnew, hrun, hevents⟩ := Sample.exists_overtaking
  refine ⟨s, t, hnew, hstop, hrun, ?_⟩
  rw [hevents, Sample.overheard]
  rintro ⟨rounds, hrounds, rest, hrest⟩
  have hbuilds {build : List Event} (hbuild : build <+: [.buildStarted 0]) :
      build = [] ∨ build = [.buildStarted 0] := by
    rcases List.prefix_cons_iff.mp hbuild with rfl | ⟨more, rfl, hmore⟩
    · exact Or.inl rfl
    · exact Or.inr (by rw [List.prefix_nil.mp hmore])
  cases rounds with
  | nil => exact absurd hrest (by simp)
  | cons r rounds =>
      rw [List.flatten_cons] at hrest
      -- the first round would have to end where the second one has begun
      cases hrounds r List.mem_cons_self with
      | buildFailed reason => exact absurd hrest (by simp)
      | launchFailed hbuild reason =>
          rcases hbuilds hbuild with rfl | rfl <;> exact absurd hrest (by simp)
      | retired hbuild addr addr' code hdeletion =>
          rcases hbuilds hbuild with rfl | rfl <;> exact absurd hrest (by simp)

end LivePages.Ring
