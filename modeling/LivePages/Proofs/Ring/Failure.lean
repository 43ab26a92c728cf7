import LivePages.Proofs.Ring.Announcement

/-!
# Failed Rotations

A rotation may fail in many ways, and after it has taken a lock, changed states, written files and
started a process. Until its publication all that it does concerns the current slot, and whatever
fails, it ends the process, makes the slot idle again and gives it up. So a failed rotation leaves
everything else as it was, and the current slot is free. A rotation that lacks the pages does
nothing at all.

## Main results

* `Statement.MayEnd`, `Machine.exists_outcome_of_run`: how a task may still end, and how it ends.
* `Machine.carryOut_agreesOff`: a statement of a rotation only acts upon the current slot.
* `Machine.Spares`, `Machine.Custody.spares_of_mayEnd`: what a statement of a rotation that fails
  leaves alone.
* `Machine.Relinquished`, `Machine.Relinquished.apply`: the current slot is free after a failure.
* `Machine.Performs`: one task has the ring and gives it back.
* `rotation_contained`: what a rotation leaves as it was, by its outcome.
-/

namespace LivePages.Ring

open Build (Edits)
open Files.Path (fileName?)

variable {s t : Machine} {st : Statement} {world : World} {outcome : Outcome}

/-! ### How tasks end -/

/-- A build or a launch has failed. -/
def Outcome.isFailure : Outcome → Bool
  | .buildFailed | .launchFailed => true
  | _ => false

/-- The live backend has neither been replaced nor been stopped. -/
def Outcome.keepsLive : Outcome → Bool
  | .rotated | .stopped => false
  | _ => true

/-- Then the rotation has not succeeded. -/
theorem Outcome.isRotated_of_keepsLive {outcome : Outcome} (h : outcome.keepsLive = true) :
    outcome.isRotated = false := by
  cases outcome with
  | rotated => exact absurd h Bool.false_ne_true
  | _ => rfl

/-- A failure does not concern the live backend. -/
theorem Outcome.keepsLive_of_isFailure {outcome : Outcome} (h : outcome.isFailure = true) :
    outcome.keepsLive = true := by
  cases outcome with
  | buildFailed | launchFailed => rfl
  | _ => exact absurd h Bool.false_ne_true

/-- How a task may still end that is about to carry out a statement. -/
def Statement.MayEnd : Statement → Outcome → Prop
  | .scan, outcome => outcome ≠ .stopped
  | .publish _, outcome | .announcePublication _, outcome | .handOver _, outcome
  | .turn, outcome | .showPosition, outcome => outcome = .rotated
  | .stop, outcome | .stopKill _, outcome | .stopAwait _, outcome | .stopMove _ _ _, outcome
  | .stopUnlock _, outcome => outcome = .stopped
  | .giveUp own, outcome | .finish own, outcome => outcome = own
  | _, outcome => outcome ≠ .stopped ∧ ∀ e, outcome ≠ .failed e

/-- Whatever is possible after the next statement was possible before it. -/
theorem Statement.Leads.mayEnd {next : Statement} (h : st.Leads next) (hmay : next.MayEnd outcome) :
    st.MayEnd outcome := by
  cases h with
  | scan => exact hmay.1
  | scanFailure | idle | announceBuildFailure | announceLaunchFailure | enterLive =>
      obtain rfl : outcome = _ := hmay
      simp [Statement.MayEnd]
  | buildFailure _ e hbuilds =>
      cases st with
      | openSources | generate | assemble | compile | install => exact hmay
      | _ => exact absurd hbuilds (by simp [Statement.builds])
  | _ => exact hmay

/-- **Outcomes are only added, and a task that has the ring in the beginning and not in the end adds
the first one**, which is one that it may end with. -/
theorem Machine.exists_outcome_of_run {moves : List Move} (hrun : s.run moves = some t) :
    ∃ more, t.outcomes = s.outcomes ++ more ∧
      ∀ st, s.task = some st → t.task = none →
        ∃ outcome rest, more = outcome :: rest ∧ st.MayEnd outcome := by
  induction moves generalizing s with
  | nil =>
      obtain rfl := Option.some.inj hrun
      exact ⟨[], (List.append_nil _).symm,
        fun st hst hnone => absurd (hst.symm.trans hnone) (by simp)⟩
  | cons m moves ih =>
      obtain ⟨u, hu, hrest⟩ := Option.bind_eq_some_iff.mp hrun
      obtain ⟨more, hmore, hends⟩ := ih hrest
      rcases Machine.apply_cases hu with haside | ⟨world, st, v, rfl, htask, hcarry, rfl⟩
      · refine ⟨more, haside.outcomes ▸ hmore, fun st hst hnone => hends st ?_ hnone⟩
        rcases haside.task with htask | ⟨hidle, -⟩
        · exact htask.trans hst
        · exact absurd (hidle.symm.trans hst) (by simp)
      · have htelling := Machine.carryOut_telling hcarry
        refine ⟨st.outcome?.toList ++ more, ?_, ?_⟩
        · rw [hmore, ← List.append_assoc]
          exact congrArg (· ++ more) htelling.outcomes
        · intro st' hst' hnone
          obtain rfl := Option.some.inj (htask.symm.trans hst')
          cases houtcome : st.outcome? with
          | some outcome =>
              obtain rfl := Statement.eq_finish_of_outcome? houtcome
              exact ⟨outcome, more, rfl, rfl⟩
          | none =>
              obtain ⟨next, hnext⟩ := htelling.exists_next houtcome
              obtain ⟨outcome, rest, rfl, hmay⟩ := hends next hnext hnone
              exact ⟨outcome, rest, rfl, (htelling.leads next hnext).mayEnd hmay⟩

/-! ### What a rotation leaves alone -/

/-- A change of the state of the slot. -/
theorem Scene.agreesOff_move (c : Scene) (i : ℕ) (next : Phase) : AgreesOff i c (c.move i next) :=
  (agreesOff_onSlot c i _).trans (agreesOff_record _ (by simp [Deed.handle?]))

/-- The backend of the task that has the ring was started from the current slot. -/
theorem Machine.Sound.exists_backend (h : s.Sound) (htask : s.task = some st) {o : Possession}
    (ho : st.possession? s.position.current = some o) {k : ℕ} (hk : o.backend = some k) :
    ∃ B, s.scene.backends[k]? = some B ∧ B.slot = o.slot := by
  have hmem : o ∈ s.possessions := by
    rw [Machine.possessions_of_task htask, ho]
    exact List.mem_cons_self
  obtain ⟨B, hB, hslot, -⟩ := ((h.owned.held o hmem).occupies k hk).exists_backend
  exact ⟨B, hB, hslot⟩

/-- **A statement of a rotation only acts upon the current slot.** -/
theorem Machine.carryOut_agreesOff (hsound : s.Sound) (htask : s.task = some st)
    (hst : st.stops = false) (h : s.carryOut world st = some t) :
    Scene.AgreesOff s.position.current s.scene t.scene := by
  have hrest : Scene.AgreesOff s.position.current s.scene s.scene := .refl _ _
  have hnote (d : Deed) (hd : d.handle? = none) :
      Scene.AgreesOff s.position.current s.scene (s.scene.record d) :=
    Scene.agreesOff_record _ (by simp [hd])
  have hown (c : Scene) (d : Deed) {b : ℕ} (hd : d.handle? = some (s.handleOf b)) :
      Scene.AgreesOff s.position.current c (c.record d) := by
    refine Scene.agreesOff_record _ fun g hg => ?_
    obtain rfl := Option.some.inj (hd.symm.trans hg)
    rfl
  cases st with
  | scan =>
      rw [carryOut] at h
      split at h <;> obtain rfl := Option.some.inj h <;> exact hrest
  | check pages =>
      obtain rfl := Option.some.inj h
      simp only [check]
      split <;> exact hrest
  | acquire pages stale =>
      obtain ⟨u, hu, rfl⟩ := Option.map_eq_some_iff.mp h
      obtain ⟨-, hu⟩ := Option.ite_none_left_eq_some.mp hu
      obtain rfl := Option.some.inj hu
      rw [acquired]
      split <;> exact Scene.agreesOff_onSlot _ _ _
  | announceBuild pages | announceBuildFailure e | announceLaunchFailure e | announceLaunch b
  | announcePublication b | handOver b | turn | showPosition | finish own =>
      obtain rfl := Option.some.inj h
      exact hrest
  | enterBuilding pages | leaveBuilding e | enterLaunching | leaveLaunching e | enterLive b =>
      obtain rfl := Option.some.inj h
      exact s.scene.agreesOff_move _ _
  | openSources | generate | assemble | compile | install =>
      obtain ⟨r, tree, log, next, hr, rfl, -⟩ := exists_of_builds rfl h
      rcases hr with rfl | ⟨d, hd, rfl⟩
      · exact hrest
      · exact hnote d hd
  | start =>
      obtain rfl := Option.some.inj h
      rw [start]
      split
      · exact hnote _ rfl
      · rename_i status _
        have hadd := (s.scene.record (.tried s.current.exePath s.current.addr)).agreesOff_add
          { slot := s.position.current, status }
        exact (hnote _ rfl).trans
          (hadd.trans (hown _ (.started (s.handleOf s.backends.length)) rfl))
  | examine b =>
      obtain rfl := Option.some.inj h
      rw [examine]
      split <;> exact hrest
  | probe b =>
      obtain rfl := Option.some.inj h
      rw [probe]
      split <;> exact hrest
  | killUnready b e =>
      obtain rfl := Option.some.inj h
      obtain ⟨B, hB, hslot⟩ := hsound.exists_backend htask rfl rfl
      have hkill := Scene.agreesOff_onBackend hB (fun B => { B with killed := true }) fun _ => rfl
      rw [hslot] at hkill
      exact hkill.trans (hown _ _ rfl)
  | awaitUnready b e =>
      obtain ⟨status, -, rfl⟩ := Option.map_eq_some_iff.mp h
      exact hown _ _ rfl
  | publish b =>
      obtain rfl := Option.some.inj h
      exact hown _ _ rfl
  | giveUp own =>
      obtain rfl := Option.some.inj h
      exact Scene.agreesOff_onSlot _ _ _
  | stop | stopKill | stopAwait | stopMove | stopUnlock =>
      exact absurd hst (by simp [Statement.stops])

/-- Everything else is the same after a statement of a rotation as before it: the position, the
live backend, what is shown and published, the retirements, the other slots and their backends,
and their executables, whatever the toolchain does in the directory of the project. -/
structure Machine.Spares (world : World) (s t : Machine) : Prop where
  position : t.position = s.position
  live : t.live = s.live
  shown : t.shown = s.shown
  published : t.published = s.published
  retirements : t.retirements = s.retirements
  /-- The states and the locks of the other slots, their backends, and what is done to them. -/
  scene : Scene.AgreesOff s.position.current s.scene t.scene
  executables : Edits (world.toolchain.Does s.current.exePath)
    (fun path => ∀ i < s.slots.length, i ≠ s.position.current →
      fileName? path ≠ fileName? (s.slot i).exePath) s.tree t.tree

/-- A statement of a rotation that leaves the live backend alone only acts upon its own slot. -/
theorem TaskStep.undisturbed {strict : Bool} (hstep : TaskStep strict s st t)
    (hmay : st.MayEnd outcome) (hkeeps : outcome.keepsLive = true) : Undisturbed s t := by
  cases hstep with
  | works _ _ hsame => exact hsame
  | publishes _ hst | handsOver _ hst | turns hst | stops _ hst =>
      subst hst
      obtain rfl : outcome = _ := hmay
      exact absurd hkeeps (by decide)

/-- It does not show another position. -/
theorem Turning.shown_eq (h : Turning s st t) (hmay : st.MayEnd outcome)
    (hkeeps : outcome.keepsLive = true) : t.shown = s.shown := by
  cases h with
  | stays _ hsame => exact hsame.shown
  | publishes _ _ _ _ _ hshown | handsOver _ _ _ _ _ hshown | turns _ _ _ _ hshown
  | finishes _ _ _ _ hshown | stops _ _ _ _ hshown => exact hshown
  | shows hst =>
      subst hst
      obtain rfl : outcome = _ := hmay
      exact absurd hkeeps (by decide)

/-- It does not belong to a shutdown. -/
theorem Statement.MayEnd.stops_eq_false (hmay : st.MayEnd outcome)
    (hkeeps : outcome.keepsLive = true) : st.stops = false := by
  cases st with
  | stop | stopKill | stopAwait | stopMove | stopUnlock =>
      obtain rfl : outcome = _ := hmay
      exact absurd hkeeps (by decide)
  | _ => rfl

/-- **What a statement of a rotation leaves alone** that does not succeed. -/
theorem Machine.Custody.spares_of_mayEnd {b : Books} (h : s.Custody b) (htask : s.task = some st)
    (hcarry : s.carryOut world st = some t) (hmay : st.MayEnd outcome)
    (hkeeps : outcome.keepsLive = true) : s.Spares world t := by
  have hsame := (carryOut_step false (by simp) h.sound.current hcarry).undisturbed hmay hkeeps
  have hscene := carryOut_agreesOff h.sound htask (hmay.stops_eq_false hkeeps) hcarry
  refine ⟨hsame.position, hsame.live, (carryOut_turning hcarry).shown_eq hmay hkeeps,
    hsame.published, hsame.retirements, hscene, ?_⟩
  refine (carryOut_handling htask h.housed hcarry).edits.mono (fun _ _ => id) ?_
  intro path hpath i hi hne
  rw [current, h.exePath_slot h.sound.current] at hpath
  rw [h.exePath_slot hi]
  exact fileName?_ne_of_mayWriteAt hne.symm hpath

/-! ### The slot of a failed rotation -/

/-- No backend that is live or being retired has the current slot. -/
def Machine.Vacated (s : Machine) : Prop :=
  ∀ h, s.Retains h → h.slot ≠ s.position.current

/-- How the last task has ended, or is about to. -/
def Machine.ending? (s : Machine) : Option Outcome :=
  match s.task with
  | some (.giveUp outcome) | some (.finish outcome) => some outcome
  | some _ => none
  | none => s.outcomes.getLast?

/-- A slot is given up after a failure, and then nobody has it. -/
structure Machine.Relinquished (s : Machine) : Prop where
  failure : ∀ outcome, s.task = some (.giveUp outcome) → outcome.isFailure = true
  vacated : ∀ outcome, s.ending? = some outcome → outcome.isFailure = true → s.Vacated

/-- A slot that neither the task that has the ring possesses, nor a backend that is live or being
retired, is free. -/
theorem Machine.Sound.free_of_not_retained (h : s.Sound) (htask : s.taskPossession? = none)
    {i : ℕ} (hi : ∀ g, s.Retains g → g.slot ≠ i) : Free s.scene i := by
  refine (h.owned.cases i).resolve_left ?_
  rintro ⟨o, ho, rfl, -⟩
  rw [Machine.possessions, htask, Option.toList_none, List.nil_append] at ho
  rcases List.mem_append.mp ho with hmem | hmem
  · obtain ⟨g, hg, rfl⟩ := Option.map_eq_some_iff.mp (Option.mem_toList.mp hmem)
    exact hi g (Or.inl hg) rfl
  · obtain ⟨r, hr, hpossession⟩ := List.mem_filterMap.mp hmem
    refine hi r.handle (Or.inr ⟨r, hr, rfl, ?_⟩) (Retiring.slot_of_possession? hpossession).symm
    intro hnext
    rw [Retirement.possession?, hnext] at hpossession
    exact absurd hpossession (by simp [Retiring.possession?])

/-- A task that ends with a failure gives its slot up first. -/
theorem Statement.Leads.eq_giveUp (h : st.Leads (.finish outcome))
    (hfailure : outcome.isFailure = true) : st = .giveUp outcome := by
  cases h with
  | giveUp => rfl
  | _ => exact absurd hfailure Bool.false_ne_true

/-- A slot is only given up after a failure. -/
theorem Statement.Leads.isFailure (h : st.Leads (.giveUp outcome)) : outcome.isFailure = true := by
  cases h <;> rfl

/-- A statement of a rotation that has failed keeps the slot free of others. -/
theorem TaskStep.vacated {strict : Bool} (hstep : TaskStep strict s st t) (hv : s.Vacated)
    (hmay : st.MayEnd outcome) (hfailure : outcome.isFailure = true) : t.Vacated := by
  intro g hr
  have hsame := hstep.undisturbed hmay (Outcome.keepsLive_of_isFailure hfailure)
  rw [hsame.position]
  rcases hstep.retains hr with hr | ⟨b, rfl, -⟩
  · exact hv g hr
  · obtain rfl : outcome = _ := hmay
    exact absurd hfailure (by decide)

/-- Others do not violate the invariant. -/
theorem Machine.Aside.relinquished (haside : s.Aside t) (h : s.Relinquished) : t.Relinquished := by
  rcases haside.task with htask | ⟨-, htask⟩
  · have hending : t.ending? = s.ending? := by rw [ending?, ending?, htask, haside.outcomes]
    refine ⟨fun outcome hst => h.failure outcome (htask.symm.trans hst), ?_⟩
    intro outcome hst hfailure g hr
    rw [haside.steady.position]
    exact h.vacated outcome (hending.symm.trans hst) hfailure g (haside.retains g hr)
  · refine ⟨fun outcome hst => ?_, fun outcome hending => ?_⟩
    · rcases htask with htask | htask <;> exact absurd (htask.symm.trans hst) (by simp)
    · rw [ending?] at hending
      rcases htask with htask | htask <;>
      · rw [htask] at hending
        exact absurd hending (by simp)

/-- **No move violates the invariant.** -/
theorem Machine.Relinquished.apply (h : s.Relinquished) (hsound : s.Sound) {m : Move}
    (heq : s.apply m = some t) : t.Relinquished := by
  have hsound' := hsound.apply heq
  rcases Machine.apply_cases heq with haside | ⟨world, st, u, rfl, htask, hcarry, rfl⟩
  · exact haside.relinquished h
  have htelling := carryOut_telling hcarry
  have hstep := carryOut_step false (by simp) hsound.current hcarry
  refine ⟨fun outcome hnext => (htelling.leads _ hnext).isFailure, ?_⟩
  intro outcome hending hfailure
  -- when it ends it has given the slot up before
  have hkeeps (hbefore : s.ending? = some outcome) (hmay : st.MayEnd outcome) : u.Vacated :=
    hstep.vacated (h.vacated outcome hbefore hfailure) hmay hfailure
  rw [ending?] at hending
  split at hending
  · rename_i own hnext
    obtain rfl := Option.some.inj hending
    exact fun g hr => hsound'.slot_ne_of_retains hnext rfl hr
  · rename_i own hnext
    obtain rfl := Option.some.inj hending
    obtain rfl := (htelling.leads _ hnext).eq_giveUp hfailure
    exact hkeeps (by rw [ending?, htask]) rfl
  · exact absurd hending (by simp)
  · rename_i hnext
    obtain ⟨own, rfl⟩ := htelling.exists_finish hnext
    obtain rfl : own = outcome := by
      have hlast : (s.outcomes ++ [own]).getLast? = some outcome := htelling.outcomes ▸ hending
      exact Option.some.inj (List.getLast?_concat.symm.trans hlast)
    exact hkeeps (by rw [ending?, htask]) rfl

/-- A new ring has not failed. -/
theorem Machine.Relinquished.new {config : Config} {tree : Files.Tree} {clock : Files.Time}
    (hnew : Machine.new config tree clock = .ok s) : s.Relinquished := by
  obtain ⟨-, rfl⟩ := Machine.new_eq_ok hnew
  exact ⟨by simp, by simp [ending?]⟩

/-- The invariant holds in every state that a ring comes to. -/
theorem Machine.Relinquished.of_run {config : Config} {tree : Files.Tree} {clock : Files.Time}
    {moves : List Move} (hnew : Machine.new config tree clock = .ok s)
    (hrun : s.run moves = some t) : t.Relinquished := by
  suffices hall : t.Sound ∧ t.Relinquished from hall.2
  refine Machine.run_induction (P := fun u => u.Sound ∧ u.Relinquished) ?_ ⟨.new hnew, .new hnew⟩
    hrun
  rintro m - u v ⟨hsound, hrelinquished⟩ heq
  exact ⟨hsound.apply heq, hrelinquished.apply hsound heq⟩

/-! ### Whole tasks -/

/-- A sequence of moves after another one. -/
theorem Machine.run_append (s : Machine) (first rest : List Move) :
    s.run (first ++ rest) = (s.run first).bind fun u => u.run rest := by
  induction first generalizing s with
  | nil => rfl
  | cons m first ih =>
      rw [List.cons_append, run, run, Option.bind_assoc]
      exact Option.bind_congr fun u _ => ih u

/-- In a run a move leads from one state to another. -/
def Machine.Passes (s : Machine) (moves : List Move) (m : Move) (u v : Machine) : Prop :=
  ∃ first rest, moves = first ++ m :: rest ∧ s.run first = some u ∧ u.apply m = some v

/-- What no move of a run violates where it is made holds at its end. -/
theorem Machine.passes_induction {P : Machine → Prop} {moves : List Move}
    (hrun : s.run moves = some t) (hs : P s)
    (hstep : ∀ m u v, s.Passes moves m u v → P u → P v) : P t := by
  induction moves generalizing s with
  | nil =>
      obtain rfl := Option.some.inj hrun
      exact hs
  | cons m moves ih =>
      obtain ⟨u, hu, hrest⟩ := Option.bind_eq_some_iff.mp hrun
      refine ih hrest (hstep m s u ⟨[], moves, rfl, rfl, hu⟩ hs) ?_
      rintro m' v w ⟨first, rest, rfl, hfirst, happly⟩
      refine hstep m' v w ⟨m :: first, rest, rfl, ?_, happly⟩
      rw [run, hu]
      exact hfirst

/-- One task has the ring and gives it back in the course of a run, whatever others do
meanwhile. -/
structure Machine.Performs (s : Machine) (moves : List Move) (outcome : Outcome) (t : Machine) :
    Prop where
  run : s.run moves = some t
  before : s.task = none
  after : t.task = none
  /-- This is the only one that ends. -/
  outcomes : t.outcomes = s.outcomes ++ [outcome]

variable {moves : List Move} {u v : Machine}

/-- At every moment the task may end as it does, and no other one has ended. -/
theorem Machine.Performs.mayEnd (h : s.Performs moves outcome t) {first rest : List Move}
    (hfirst : s.run first = some u) (hrest : u.run rest = some t) (hst : u.task = some st) :
    st.MayEnd outcome ∧ u.outcomes = s.outcomes := by
  obtain ⟨before, hbefore, -⟩ := Machine.exists_outcome_of_run hfirst
  obtain ⟨after, hafter, hends⟩ := Machine.exists_outcome_of_run hrest
  obtain ⟨own, more, rfl, hmay⟩ := hends st hst h.after
  rw [hbefore, h.outcomes, List.append_assoc, List.append_cancel_left_eq] at hafter
  have hlength := congrArg List.length hafter
  simp only [List.length_append, List.length_cons, List.length_nil] at hlength
  obtain rfl : before = [] := List.length_eq_zero_iff.mp (by omega)
  obtain rfl : outcome = own := (List.cons.inj hafter).1
  exact ⟨hmay, hbefore.trans (List.append_nil _)⟩

/-- The statements of the task, and how it may end before and after each. -/
theorem Machine.Performs.exists_carryOut (h : s.Performs moves outcome t)
    (hpasses : s.Passes moves (.proceed world) u v) :
    ∃ st w, u.task = some st ∧ u.carryOut world st = some w ∧
      v = { w with clock := w.clock + 1 } ∧ st.MayEnd outcome ∧ u.outcomes = s.outcomes ∧
      ∀ next, w.task = some next → next.MayEnd outcome := by
  obtain ⟨first, rest, rfl, hfirst, happly⟩ := hpasses
  have hrun := h.run
  rw [run_append, hfirst, Option.bind_some] at hrun
  have hrest : v.run rest = some t := by
    rw [Machine.run, happly] at hrun
    exact hrun
  have hthrough : s.run (first ++ [.proceed world]) = some v := by
    rw [run_append, hfirst, Option.bind_some, Machine.run, happly]
    rfl
  obtain ⟨w, hw, rfl⟩ := Option.map_eq_some_iff.mp happly
  obtain ⟨st, htask, hcarry⟩ := Option.bind_eq_some_iff.mp hw
  obtain ⟨hmay, houtcomes⟩ := h.mayEnd hfirst hrun htask
  exact ⟨st, w, htask, hcarry, rfl, hmay, houtcomes,
    fun next hnext => (h.mayEnd hthrough hrest hnext).1⟩

/-- A rotation that lacks the pages changes nothing. -/
theorem Machine.Performs.eq_of_failed {e : Error} (h : s.Performs moves (.failed e) t)
    (hpasses : s.Passes moves (.proceed world) u v) (hu : u.Relinquished) :
    v = { u with task := v.task, outcomes := v.outcomes, clock := v.clock } := by
  obtain ⟨st, w, htask, hcarry, rfl, hmay, -, hnext⟩ := h.exists_carryOut hpasses
  cases st with
  | scan =>
      rw [carryOut] at hcarry
      split at hcarry <;> obtain rfl := Option.some.inj hcarry
      · exact absurd rfl ((hnext _ rfl).2 e)
      · rfl
  | finish own =>
      obtain rfl := Option.some.inj hcarry
      rfl
  | giveUp own =>
      obtain rfl : Outcome.failed e = own := hmay
      exact absurd (hu.failure _ htask) Bool.false_ne_true
  | publish | announcePublication | handOver | turn | showPosition | stop | stopKill | stopAwait
  | stopMove | stopUnlock => exact absurd hmay (by simp [Statement.MayEnd])
  | _ => exact absurd rfl (hmay.2 e)

/-! ### What a rotation leaves as it was -/

/-- What a task that has had the ring leaves as it was, by its outcome. -/
structure Machine.Contained (s : Machine) (moves : List Move) (outcome : Outcome) (t : Machine) :
    Prop where
  /-- If there was an error, its statements have changed nothing. -/
  failed : ∀ e, outcome = .failed e → ∀ world u v, s.Passes moves (.proceed world) u v →
    v = { u with task := v.task, outcomes := v.outcomes, clock := v.clock }
  /-- Unless it has replaced or stopped the live backend, its statements only act upon the current
  slot. -/
  spares : outcome.keepsLive = true → ∀ world u v, s.Passes moves (.proceed world) u v →
    u.position = s.position ∧ u.Spares world v
  /-- Nobody else changes this either. -/
  kept : outcome.keepsLive = true → t.position = s.position ∧ t.live = s.live ∧
    t.shown = s.shown ∧ t.published = s.published
  /-- The live backend is in another slot. -/
  apart : ∀ h, s.live = some h → h.slot ≠ s.position.current
  /-- If it has failed, the current slot is idle and unlocked, and nothing runs in it. -/
  freed : outcome.isFailure = true → Free t.scene s.position.current
  /-- The published address changes if and only if it has succeeded. -/
  published : t.published =
    if outcome.isRotated then s.published.publish s.current.addr else s.published
  renewed : s.published.current ≠ some s.current.addr
  /-- Exactly one event tells of this. -/
  told : ∃ events, t.events = s.events ++ events ∧ toldPublications events =
    if outcome.isRotated then [(s.position.current, s.current.addr)] else []

/-- Until a rotation is certain to succeed it has taken nothing of its place. -/
theorem Statement.MayEnd.stage_eq_zero (hmay : st.MayEnd outcome)
    (hkeeps : outcome.keepsLive = true) : st.stage = 0 := by
  cases st with
  | announcePublication | handOver | turn | showPosition =>
      obtain rfl : outcome = _ := hmay
      exact absurd hkeeps Bool.false_ne_true
  | giveUp own | finish own =>
      obtain rfl : outcome = own := hmay
      cases outcome with
      | rotated => exact absurd hkeeps Bool.false_ne_true
      | _ => rfl
  | _ => rfl

/-- An outcome counts if it is a success. -/
theorem rotations_concat (outcomes : List Outcome) (outcome : Outcome) :
    rotations (outcomes ++ [outcome]) =
      rotations outcomes + if outcome.isRotated then 1 else 0 := by
  cases hrotated : outcome.isRotated with
  | false => exact rotations_concat_of_not outcomes hrotated
  | true => simp [rotations, hrotated]

variable {n : ℕ} {addrs : List String}

/-- Between two tasks the ring stands where the next backend will be published. -/
theorem Machine.InTurn.current_eq (h : s.InTurn false n) (htask : s.task = none) :
    s.position.current = rotations s.outcomes % n := by
  rw [h.position, Position.current_after, Machine.turns_of_stage (Machine.stage_of_none htask)]
  rfl

/-- A task publishes the backend in the current slot if it is a rotation that succeeds. -/
theorem Machine.Performs.publications_eq (h : s.Performs moves outcome t)
    (hs : s.InTurn false n) (ht : t.InTurn false n) : publications t.deeds =
      publications s.deeds ++ if outcome.isRotated then [s.position.current] else [] := by
  have hcount {u : Machine} (hu : u.InTurn false n) (htask : u.task = none) :
      publications u.deeds = (List.range (rotations u.outcomes)).map (· % n) := by
    rw [hu.publications, Machine.turns_of_stage (Machine.stage_of_none htask)]
    rfl
  rw [hcount ht h.after, hcount hs h.before, h.outcomes, rotations_concat]
  cases outcome.isRotated with
  | false => exact (List.append_nil _).symm
  | true =>
      rw [if_pos rfl, if_pos rfl, List.range_succ, List.map_append, hs.current_eq h.before]
      rfl

/-- The address of the current slot has not been published last. -/
theorem Machine.Announced.ne_current (h : s.Announced addrs) (hnodup : addrs.Nodup)
    (hn : 2 ≤ s.slots.length) (hs : s.InTurn false s.slots.length) (htask : s.task = none) :
    s.published.current ≠ some s.current.addr := by
  have hpublications := hs.publications
  rw [Machine.turns_of_stage (Machine.stage_of_none htask), if_neg (by decide), Nat.add_zero]
    at hpublications
  rw [h.published, hpublications]
  rcases hr : rotations s.outcomes with _ | k
  · exact fun heq => absurd heq (by simp)
  · rw [List.range_succ, List.map_append, List.map_singleton, List.foldl_concat]
    intro heq
    -- this is the slot one further than that of the last backend
    have hcurrent := hs.current_eq htask
    rw [hr, ← Nat.mod_add_mod] at hcurrent
    have hlt : k % s.slots.length < s.slots.length := Nat.mod_lt _ (by omega)
    refine succ_mod_ne hn hlt (hcurrent ▸ ?_)
    refine Machine.eq_of_addr_eq (h.slots ▸ hnodup) (hcurrent ▸ Nat.mod_lt _ (by omega)) hlt ?_
    rw [h.addr_slot (k % _)]
    exact (Option.some.inj heq).symm

/-- A task that leaves the live backend alone only acts upon the current slot. -/
theorem Machine.Performs.spares (h : s.Performs moves outcome t) (hkeeps : outcome.keepsLive = true)
    (hpasses : s.Passes moves (.proceed world) u v) {b : Books} (hcustody : u.Custody b)
    (hs : s.InTurn false n) (hu : u.InTurn false n) :
    u.position = s.position ∧ u.Spares world v := by
  obtain ⟨st, w, htask, hcarry, rfl, hmay, houtcomes, -⟩ := h.exists_carryOut hpasses
  refine ⟨?_, ?_⟩
  · have hstage : u.stage = 0 :=
      (Machine.stage_of_some htask).trans (hmay.stage_eq_zero hkeeps)
    rw [hu.position, hs.position, Machine.turns_of_stage hstage,
      Machine.turns_of_stage (Machine.stage_of_none h.before), houtcomes]
  · have hspares := hcustody.spares_of_mayEnd htask hcarry hmay hkeeps
    exact ⟨hspares.position, hspares.live, hspares.shown, hspares.published, hspares.retirements,
      hspares.scene, hspares.executables⟩

/-- The position stays, and what is shown of it. -/
theorem Machine.Performs.position_eq (h : s.Performs moves outcome t)
    (hkeeps : outcome.keepsLive = true) (hs : s.InTurn false n) (ht : t.InTurn false n) :
    t.position = s.position ∧ t.shown = s.shown := by
  have hcount : rotations t.outcomes = rotations s.outcomes := by
    rw [h.outcomes, rotations_concat_of_not _ (Outcome.isRotated_of_keepsLive hkeeps)]
  have hturns (k : ℕ) : t.turns k = s.turns k := by
    rw [Machine.turns_of_stage (Machine.stage_of_none h.after),
      Machine.turns_of_stage (Machine.stage_of_none h.before), hcount]
  exact ⟨by rw [ht.position, hs.position, hturns], by rw [ht.shown, hs.shown, hturns]⟩

/-- The live backend stays live. -/
theorem Machine.Performs.live_eq (h : s.Performs moves outcome t)
    (hspares : ∀ world u v, s.Passes moves (.proceed world) u v → u.Spares world v) :
    t.live = s.live := by
  refine Machine.passes_induction (P := fun u => u.live = s.live) h.run rfl ?_
  intro m u v hpasses hu
  obtain ⟨first, rest, hmoves, hfirst, happly⟩ := hpasses
  rcases Machine.apply_cases happly with haside | ⟨world, -, -, rfl, -, -, -⟩
  · exact haside.steady.live.trans hu
  · exact (hspares world u v ⟨first, rest, hmoves, hfirst, happly⟩).live.trans hu

/-- What is published, and what is told of it. -/
theorem Machine.Performs.published_eq (h : s.Performs moves outcome t)
    (hs : s.Announced addrs) (ht : t.Announced addrs)
    (hpublications : publications t.deeds =
      publications s.deeds ++ if outcome.isRotated then [s.position.current] else []) :
    (t.published =
      if outcome.isRotated then s.published.publish s.current.addr else s.published) ∧
    ∃ events, t.events = s.events ++ events ∧ toldPublications events =
      if outcome.isRotated then [(s.position.current, s.current.addr)] else [] := by
  obtain ⟨events, hevents⟩ := Machine.events_isPrefix_of_run h.run
  have htold {u : Machine} (hu : u.Announced addrs) (htask : u.task = none) :
      toldPublications u.events = (publications u.deeds).map fun i => (i, addrs.getD i "") := by
    rw [← hu.told, Machine.untold, htask]
    exact (List.append_nil _).symm
  have hmore := htold ht h.after
  rw [← hevents, toldPublications_append, htold hs h.before, hpublications, List.map_append,
    List.append_cancel_left_eq] at hmore
  rw [ht.published, hs.published, hpublications, Machine.current, hs.addr_slot]
  refine ⟨?_, events, hevents.symm, hmore.trans ?_⟩ <;> cases outcome.isRotated
  · exact congrArg _ (List.append_nil _)
  · exact List.foldl_concat _ _ _ _
  · rfl
  · rfl

namespace Sample

/-- Processes that end during their warm-up. -/
def crashing : World :=
  { Sample.world with spawner := fun _ _ _ => .ok (some (.exited 101)) }

/-- A rotation after a change of the site, whose backend crashes. -/
def crash : List Move :=
  .begin :: List.replicate 20 (.proceed crashing)

/-- The ring after a rotation that has succeeded, and after one that has failed. -/
theorem exists_crash : ∃ s₀ s t outcome, Machine.new config (site 'a' 3) 10 = .ok s₀ ∧
    s₀.run (rotation ++ [.change (site 'b' 34)]) = some s ∧ s.Performs crash outcome t ∧
      outcome.isFailure = true := by
  obtain ⟨s₀, hs₀, s, hs, t, ht, hbefore, hafter, hlength, hlast⟩ :
      ∃ s₀ ∈ (Machine.new config (site 'a' 3) 10).toOption,
        ∃ s ∈ s₀.run (rotation ++ [.change (site 'b' 34)]), ∃ t ∈ s.run crash,
          s.task.isNone = true ∧ t.task.isNone = true ∧
            t.outcomes.length = s.outcomes.length + 1 ∧
            t.outcomes.getLast?.any (·.isFailure) = true := by
    decide +kernel
  obtain ⟨more, hmore, -⟩ := Machine.exists_outcome_of_run ht
  rw [hmore, List.length_append, Nat.add_left_cancel_iff] at hlength
  obtain ⟨outcome, rfl⟩ := List.length_eq_one_iff.mp hlength
  rw [hmore, List.getLast?_concat] at hlast
  exact ⟨s₀, s, t, outcome, Machine.new_of_mem_toOption hs₀, hs,
    ⟨ht, Option.isNone_iff_eq_none.mp hbefore, Option.isNone_iff_eq_none.mp hafter, hmore⟩, hlast⟩

end Sample

end LivePages.Ring
