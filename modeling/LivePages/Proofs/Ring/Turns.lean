import LivePages.Proofs.Ring.Succession
import LivePages.Ring.Status

/-!
# The Turns of the Ring

Every rotation that succeeds publishes the backend in one slot and moves the ring on to the next
one. The position is kept three times: in the ring itself, in what is shown of it, and in the
published address. A rotation brings them up to date one after the other, and whatever fails
before its publication leaves all three alone. So between rotations they agree, and say how many
rotations have succeeded, up to whole rounds.

As there are two slots or more, the slot of the live backend is never the one that the next
backend is built into. A rotation that waits for a lock therefore waits for a retirement.

## Main results

* `Turning`, `Machine.carryOut_turning`: what a statement does to the position.
* `Machine.InTurn`: the invariant. All copies of the position follow from the number of rotations
  that have succeeded, and from how far the present one has come.
* `Machine.InTurn.apply`: no move violates it.
* `ring_order`: the order of the ring, what a rotation waits for, and what is shown.
-/

namespace LivePages.Ring

/-! ### Publications and rotations -/

/-- The slot of the backend that a deed publishes. -/
def Deed.publication? : Deed → Option ℕ
  | .published h => some h.slot
  | _ => none

/-- The slots of the backends that have been published, in this order. -/
def publications (deeds : List Deed) : List ℕ :=
  deeds.filterMap (·.publication?)

/-- Other deeds do not count. -/
theorem publications_concat_of_none {d : Deed} (deeds : List Deed) (hd : d.publication? = none) :
    publications (deeds ++ [d]) = publications deeds := by
  simp [publications, hd]

/-- The next backend is published. -/
theorem publications_concat_published (deeds : List Deed) (h : Handle) :
    publications (deeds ++ [.published h]) = publications deeds ++ [h.slot] := by
  simp [publications, Deed.publication?]

/-- A rotation has succeeded. -/
def Outcome.isRotated : Outcome → Bool
  | .rotated => true
  | _ => false

/-- The number of rotations that have succeeded. -/
def rotations (outcomes : List Outcome) : ℕ :=
  outcomes.countP (·.isRotated)

/-- One more rotation has succeeded. -/
theorem rotations_concat_rotated (outcomes : List Outcome) :
    rotations (outcomes ++ [.rotated]) = rotations outcomes + 1 := by
  simp [rotations, Outcome.isRotated]

/-- Other outcomes do not count. -/
theorem rotations_concat_of_not {o : Outcome} (outcomes : List Outcome)
    (ho : o.isRotated = false) : rotations (outcomes ++ [o]) = rotations outcomes := by
  simp [rotations, ho]

/-! ### Positions -/

/-- The position of a ring of `n` slots after so many turns. -/
def Position.after (n : ℕ) : ℕ → Position
  | 0 => {}
  | k + 1 => ⟨(k + 1) % n, some (k % n)⟩

@[simp] theorem Position.last_after_zero (n : ℕ) : (after n 0).last = none := rfl
@[simp] theorem Position.last_after_succ (n k : ℕ) : (after n (k + 1)).last = some (k % n) := rfl

/-- The turns go round the ring. -/
@[simp] theorem Position.current_after (n k : ℕ) : (after n k).current = k % n := by
  cases k with
  | zero => exact (Nat.zero_mod n).symm
  | succ k => rfl

/-- The ring stands one slot further than that of the last backend. -/
theorem Position.current_after_of_last {n k i : ℕ} (h : (after n k).last = some i) :
    (after n k).current = (i + 1) % n := by
  cases k with
  | zero => exact absurd h (by simp)
  | succ k =>
      obtain rfl : k % n = i := Option.some.inj h
      simp

/-- In a ring of two slots or more that is another slot. -/
theorem succ_mod_ne {n i : ℕ} (hn : 2 ≤ n) (hi : i < n) : (i + 1) % n ≠ i := by
  rcases Nat.lt_or_ge (i + 1) n with hlt | hge
  · rw [Nat.mod_eq_of_lt hlt]
    omega
  · have hend : i + 1 = n := by omega
    rw [hend, Nat.mod_self]
    omega

/-! ### How far a rotation has come -/

/-- How much of a rotation has taken place before a statement: the publication, the handing over,
the turn of the ring, and its being shown. -/
def Statement.stage : Statement → ℕ
  | .announcePublication _ | .handOver _ => 1
  | .turn => 2
  | .showPosition => 3
  | .giveUp .rotated | .finish .rotated => 4
  | _ => 0

/-- How much of the present rotation has taken place. -/
def Machine.stage (s : Machine) : ℕ :=
  (s.task.map (·.stage)).getD 0

/-- How often the ring has come to a stage. -/
def Machine.turns (s : Machine) (stage : ℕ) : ℕ :=
  rotations s.outcomes + if stage ≤ s.stage then 1 else 0

variable {s t : Machine} {st : Statement} {world : World}

@[simp] theorem Machine.stage_of_none (h : s.task = none) : s.stage = 0 := by
  simp [stage, h]

@[simp] theorem Machine.stage_of_some (h : s.task = some st) : s.stage = st.stage := by
  simp [stage, h]

/-- Nothing happens to the position and to what it goes by. -/
structure Machine.Steady (s t : Machine) : Prop where
  live : t.live = s.live
  position : t.position = s.position
  shown : t.shown = s.shown
  outcomes : rotations t.outcomes = rotations s.outcomes
  publications : Ring.publications t.deeds = Ring.publications s.deeds

/-- What is neither on record nor an outcome. -/
theorem Machine.Steady.of_deeds (hlive : t.live = s.live) (hposition : t.position = s.position)
    (hshown : t.shown = s.shown) (houtcomes : t.outcomes = s.outcomes)
    (hdeeds : t.deeds = s.deeds) : s.Steady t :=
  ⟨hlive, hposition, hshown, by rw [houtcomes], by rw [hdeeds]⟩

/-- A deed that is no publication. -/
theorem Machine.Steady.of_deed {d : Deed} (hd : d.publication? = none)
    (hlive : t.live = s.live) (hposition : t.position = s.position) (hshown : t.shown = s.shown)
    (houtcomes : t.outcomes = s.outcomes) (hdeeds : t.deeds = s.deeds ++ [d]) : s.Steady t :=
  ⟨hlive, hposition, hshown, by rw [houtcomes],
    by rw [hdeeds, publications_concat_of_none _ hd]⟩

/-- One thing after the other. -/
theorem Machine.Steady.trans {u : Machine} (h : s.Steady t) (h' : t.Steady u) : s.Steady u where
  live := h'.live.trans h.live
  position := h'.position.trans h.position
  shown := h'.shown.trans h.shown
  outcomes := h'.outcomes.trans h.outcomes
  publications := h'.publications.trans h.publications

/-- Work on the files. -/
theorem Machine.steady_of_work {α : Type} {r u : Machine} {w : Build.Work α}
    {result : Except Error α} (hwork : r.work w = (result, u)) : r.Steady u := by
  obtain ⟨tree, log, heq⟩ := r.work_eq w
  rw [hwork] at heq
  obtain rfl : u = { r with tree, log } := heq
  exact .of_deeds rfl rfl rfl rfl rfl

/-! ### What a statement does to the position -/

/-- What a statement of the task that has the ring does to the position. -/
inductive Turning (s : Machine) (st : Statement) (t : Machine) : Prop
  /-- It leaves it alone. -/
  | stays (hstage : t.stage = st.stage) (hsame : s.Steady t)
  /-- It publishes the backend in the current slot. -/
  | publishes (b : ℕ) (hst : st = .publish b) (hstage : t.stage = 1) (hlive : t.live = s.live)
      (hposition : t.position = s.position) (hshown : t.shown = s.shown)
      (houtcomes : t.outcomes = s.outcomes)
      (hdeeds : t.deeds = s.deeds ++ [.published (s.handleOf b)])
  /-- That backend becomes the live one. -/
  | handsOver (b : ℕ) (hst : st = .handOver b) (hstage : t.stage = 2)
      (hlive : t.live = some (s.handleOf b)) (hposition : t.position = s.position)
      (hshown : t.shown = s.shown) (houtcomes : t.outcomes = s.outcomes)
      (hdeeds : t.deeds = s.deeds)
  /-- It moves the ring on. -/
  | turns (hst : st = .turn) (hstage : t.stage = 3) (hlive : t.live = s.live)
      (hposition : t.position =
        ⟨(s.position.current + 1) % s.slots.length, some s.position.current⟩)
      (hshown : t.shown = s.shown) (houtcomes : t.outcomes = s.outcomes)
      (hdeeds : t.deeds = s.deeds)
  /-- It shows the new position. -/
  | shows (hst : st = .showPosition) (hstage : t.stage = 4) (hlive : t.live = s.live)
      (hposition : t.position = s.position) (hshown : t.shown = s.position)
      (houtcomes : t.outcomes = s.outcomes) (hdeeds : t.deeds = s.deeds)
  /-- It ends the rotation. -/
  | finishes (hst : st = .finish .rotated) (hstage : t.stage = 0) (hlive : t.live = s.live)
      (hposition : t.position = s.position) (hshown : t.shown = s.shown)
      (houtcomes : t.outcomes = s.outcomes ++ [.rotated]) (hdeeds : t.deeds = s.deeds)
  /-- It takes the live backend away. -/
  | stops (hst : st = .stop) (hstage : t.stage = 0) (hlive : t.live = none)
      (hposition : t.position = s.position) (hshown : t.shown = s.shown)
      (houtcomes : t.outcomes = s.outcomes) (hdeeds : t.deeds = s.deeds)

/-- A statement that concerns neither the position nor the record. -/
theorem Turning.quiet (hstage : t.stage = st.stage) (hlive : t.live = s.live)
    (hposition : t.position = s.position) (hshown : t.shown = s.shown)
    (houtcomes : t.outcomes = s.outcomes) (hdeeds : t.deeds = s.deeds) : Turning s st t :=
  .stays hstage (.of_deeds hlive hposition hshown houtcomes hdeeds)

/-- A statement that leaves something on record which is no publication. -/
theorem Turning.noted {d : Deed} (hstage : t.stage = st.stage) (hd : d.publication? = none)
    (hlive : t.live = s.live) (hposition : t.position = s.position) (hshown : t.shown = s.shown)
    (houtcomes : t.outcomes = s.outcomes) (hdeeds : t.deeds = s.deeds ++ [d]) : Turning s st t :=
  .stays hstage (.of_deed hd hlive hposition hshown houtcomes hdeeds)

/-- A statement that goes on after work on the files. -/
theorem Turning.of_work {α : Type} {r u : Machine} {w : Build.Work α} {next : Statement}
    {result : Except Error α} (hstage : next.stage = st.stage) (hsame : s.Steady r)
    (hwork : r.work w = (result, u)) : Turning s st (u.next next) :=
  .stays hstage (hsame.trans ((Machine.steady_of_work hwork).trans (.of_deeds rfl rfl rfl rfl rfl)))

/-- **What a statement of the task that has the ring does to the position.** -/
theorem Machine.carryOut_turning (h : s.carryOut world st = some t) : Turning s st t := by
  have hself : s.Steady s := .of_deeds rfl rfl rfl rfl rfl
  cases st with
  | scan =>
      rw [carryOut] at h
      split at h <;> obtain rfl := Option.some.inj h <;> exact .quiet rfl rfl rfl rfl rfl rfl
  | check pages =>
      obtain rfl := Option.some.inj h
      simp only [check]
      split <;> exact .quiet rfl rfl rfl rfl rfl rfl
  | acquire pages stale =>
      obtain ⟨u, hu, rfl⟩ := Option.map_eq_some_iff.mp h
      obtain ⟨-, hu⟩ := Option.ite_none_left_eq_some.mp hu
      obtain rfl := Option.some.inj hu
      rw [acquired]
      split <;> exact .quiet rfl rfl rfl rfl rfl rfl
  | announceBuild pages | announceBuildFailure e | announceLaunchFailure e | announceLaunch b
  | announcePublication b =>
      obtain rfl := Option.some.inj h
      exact .quiet rfl rfl rfl rfl rfl rfl
  | enterBuilding pages | leaveBuilding e | enterLaunching | killUnready b e | leaveLaunching e
  | enterLive b | stopKill old =>
      obtain rfl := Option.some.inj h
      exact .noted rfl rfl rfl rfl rfl rfl rfl
  | openSources pages =>
      obtain rfl := Option.some.inj h
      rw [openSources]
      split <;> rename_i hwork <;> exact .of_work rfl hself hwork
  | generate waiting done =>
      obtain rfl := Option.some.inj h
      cases waiting with
      | nil => exact .quiet rfl rfl rfl rfl rfl rfl
      | cons r waiting =>
          unfold generate
          dsimp only
          split <;> rename_i hwork <;> exact .of_work rfl hself hwork
  | assemble done =>
      obtain rfl := Option.some.inj h
      rw [assemble]
      split <;> rename_i hwork <;> exact .of_work rfl hself hwork
  | compile project =>
      obtain rfl := Option.some.inj h
      rw [compile]
      split <;> rename_i hwork <;>
        exact .of_work rfl (.of_deed (t := s.record _) rfl rfl rfl rfl rfl rfl) hwork
  | install project built =>
      obtain rfl := Option.some.inj h
      rw [install]
      split <;> rename_i hwork <;> exact .of_work rfl hself hwork
  | start =>
      obtain rfl := Option.some.inj h
      have htried : s.Steady (s.record (.tried s.current.exePath s.current.addr)) :=
        .of_deed rfl rfl rfl rfl rfl rfl
      rw [start]
      split
      · exact .stays rfl (htried.trans (.of_deeds rfl rfl rfl rfl rfl))
      · exact .stays rfl (htried.trans (.of_deed (d := .started _) rfl rfl rfl rfl rfl rfl))
  | examine b =>
      obtain rfl := Option.some.inj h
      rw [examine]
      split <;> exact .quiet rfl rfl rfl rfl rfl rfl
  | probe b =>
      obtain rfl := Option.some.inj h
      rw [probe]
      split <;> exact .quiet rfl rfl rfl rfl rfl rfl
  | awaitUnready b e | stopAwait old =>
      obtain ⟨status, -, rfl⟩ := Option.map_eq_some_iff.mp h
      exact .noted rfl rfl rfl rfl rfl rfl rfl
  | publish b =>
      obtain rfl := Option.some.inj h
      exact .publishes b rfl rfl rfl rfl rfl rfl rfl
  | handOver b =>
      obtain rfl := Option.some.inj h
      exact .handsOver b rfl rfl rfl rfl rfl rfl rfl
  | turn =>
      obtain rfl := Option.some.inj h
      exact .turns rfl rfl rfl rfl rfl rfl rfl
  | showPosition =>
      obtain rfl := Option.some.inj h
      exact .shows rfl rfl rfl rfl rfl rfl rfl
  | giveUp outcome =>
      obtain rfl := Option.some.inj h
      refine .quiet ?_ rfl rfl rfl rfl rfl
      cases outcome <;> rfl
  | stop =>
      obtain rfl := Option.some.inj h
      rw [stop]
      split
      · exact .quiet rfl rfl rfl rfl rfl rfl
      · exact .stops rfl rfl rfl rfl rfl rfl rfl
  | stopMove old next later =>
      cases later with
      | nil =>
          obtain rfl := Option.some.inj h
          exact .noted rfl rfl rfl rfl rfl rfl rfl
      | cons q later =>
          obtain rfl := Option.some.inj h
          exact .noted rfl rfl rfl rfl rfl rfl rfl
  | stopUnlock old =>
      obtain rfl := Option.some.inj h
      exact .noted rfl rfl rfl rfl rfl rfl rfl
  | finish outcome =>
      obtain rfl := Option.some.inj h
      cases outcome with
      | rotated => exact .finishes rfl rfl rfl rfl rfl rfl rfl
      | idle | buildFailed | launchFailed | failed e | stopped =>
          exact .stays rfl ⟨rfl, rfl, rfl, rotations_concat_of_not _ rfl, rfl⟩

/-- A statement of a retirement leaves the position alone. -/
theorem Machine.retire_steady {h : Handle} {now : Retiring} {following : Option Retiring}
    (heq : s.retire h now = some (t, following)) : s.Steady t := by
  cases now with
  | enterDraining | enterTerminating | kill | enterCleaning | enterIdle | unlock =>
      obtain ⟨rfl, rfl⟩ := Prod.mk.inj (Option.some.inj heq)
      exact .of_deed rfl rfl rfl rfl rfl rfl
  | announceDraining | announceKill | announceExit status | announceRelease =>
      obtain ⟨rfl, rfl⟩ := Prod.mk.inj (Option.some.inj heq)
      exact .of_deeds rfl rfl rfl rfl rfl
  | await =>
      obtain ⟨status, -, hmap⟩ := Option.map_eq_some_iff.mp heq
      obtain ⟨rfl, rfl⟩ := Prod.mk.inj hmap
      exact .of_deed rfl rfl rfl rfl rfl rfl
  | delete =>
      obtain ⟨tree, htree⟩ := s.delete_eq (s.slot h.slot).exePath
      rcases hdelete : s.delete (s.slot h.slot).exePath with ⟨failure, u⟩
      rw [hdelete] at htree
      rw [retire, hdelete] at heq
      obtain ⟨rfl, rfl⟩ := Prod.mk.inj (Option.some.inj heq)
      obtain rfl : u = { s with tree } := htree
      exact .of_deed rfl rfl rfl rfl rfl rfl
  | announceDeletion failure =>
      obtain ⟨rfl, rfl⟩ := Prod.mk.inj (Option.some.inj heq)
      cases failure <;> exact .of_deeds rfl rfl rfl rfl rfl

/-! ### The invariant -/

/-- All copies of the position follow from the number of rotations that have succeeded, and from
how far the present one has come. Strictly taken there is no shutdown. -/
structure Machine.InTurn (strict : Bool) (n : ℕ) (s : Machine) : Prop where
  /-- The slots are published in turn. -/
  publications : Ring.publications s.deeds = (List.range (s.turns 1)).map (· % n)
  /-- The live backend is the one that was handed over last, unless a shutdown has taken it
  away. -/
  live : s.live.map (·.slot) = (Position.after n (s.turns 2)).last ∨
    strict = false ∧ s.live = none
  /-- The position of the ring. -/
  position : s.position = .after n (s.turns 3)
  /-- What is shown of it. -/
  shown : s.shown = .after n (s.turns 4)
  /-- Strictly taken, no shutdown has begun. -/
  going : strict = true → ∀ st, s.task = some st → st.stops = false

variable {strict : Bool} {n : ℕ}

/-- A new ring stands at its first slot. -/
theorem Machine.InTurn.new {config : Config} {tree : Files.Tree} {clock : Files.Time}
    (hnew : Machine.new config tree clock = .ok s) : s.InTurn strict n := by
  obtain ⟨-, rfl⟩ := Machine.new_eq_ok hnew
  exact ⟨rfl, Or.inl rfl, rfl, rfl, by simp⟩

/-- While the stage is the same, nothing happens to the position. -/
theorem Machine.InTurn.congr (h : s.InTurn strict n) (hsame : s.Steady t)
    (hstage : t.stage = s.stage)
    (hgoing : strict = true → ∀ st, t.task = some st → st.stops = false) : t.InTurn strict n := by
  have hturns (m : ℕ) : t.turns m = s.turns m := by rw [turns, turns, hstage, hsame.outcomes]
  refine ⟨?_, ?_, ?_, ?_, hgoing⟩
  · rw [hsame.publications, hturns]
    exact h.publications
  · rw [hsame.live, hturns]
    exact h.live
  · rw [hsame.position, hturns]
    exact h.position
  · rw [hsame.shown, hturns]
    exact h.shown

/-- How often the ring has come to a stage, when it is at another one. -/
theorem Machine.turns_of_stage {m : ℕ} (hstage : s.stage = m) (stage : ℕ) :
    s.turns stage = rotations s.outcomes + if stage ≤ m then 1 else 0 := by
  rw [turns, hstage]

/-- The invariant for a known stage of a known rotation. -/
theorem Machine.InTurn.of_stage {m r : ℕ} (hstage : s.stage = m) (hr : rotations s.outcomes = r)
    (hpublications : Ring.publications s.deeds =
      (List.range (r + if 1 ≤ m then 1 else 0)).map (· % n))
    (hlive : s.live.map (·.slot) = (Position.after n (r + if 2 ≤ m then 1 else 0)).last ∨
      strict = false ∧ s.live = none)
    (hposition : s.position = .after n (r + if 3 ≤ m then 1 else 0))
    (hshown : s.shown = .after n (r + if 4 ≤ m then 1 else 0))
    (hgoing : strict = true → ∀ st, s.task = some st → st.stops = false) :
    s.InTurn strict n := by
  have hturns := Machine.turns_of_stage hstage
  rw [hr] at hturns
  exact ⟨by rwa [hturns], by rwa [hturns], by rwa [hturns], by rwa [hturns], hgoing⟩

/-- **No statement of the task that has the ring violates the invariant.** -/
theorem Turning.inTurn (hturning : Turning s st t) (htask : s.task = some st)
    (h : s.InTurn strict n) (hsize : s.slots.length = n)
    (hgoing : strict = true → ∀ st, t.task = some st → st.stops = false) : t.InTurn strict n := by
  have hbefore := Machine.stage_of_some htask
  have hturns := Machine.turns_of_stage hbefore
  obtain ⟨hpublications, hlive', hposition', hshown', hgoing'⟩ := h
  rw [hturns] at hpublications hlive' hposition' hshown'
  -- until the ring is moved on, it stands at the slot whose turn it is
  have hcurrent (hst : st.stage < 3) : s.position.current = rotations s.outcomes % n := by
    rw [hposition', Position.current_after, if_neg (Nat.not_le_of_lt hst), Nat.add_zero]
  cases hturning with
  | stays hstage hsame =>
      exact .of_stage hstage hsame.outcomes (hsame.publications.trans hpublications)
        (by rwa [hsame.live]) (hsame.position.trans hposition') (hsame.shown.trans hshown') hgoing
  | publishes b hst hstage hlive hposition hshown houtcomes hdeeds =>
      subst hst
      refine .of_stage hstage (congrArg rotations houtcomes) ?_ (by rwa [hlive])
        (hposition.trans hposition') (hshown.trans hshown') hgoing
      rw [hdeeds, publications_concat_published, hpublications, Machine.handleOf,
        hcurrent (Nat.zero_lt_succ 2)]
      simp [Statement.stage, List.range_succ]
  | handsOver b hst hstage hlive hposition hshown houtcomes hdeeds =>
      subst hst
      refine .of_stage hstage (congrArg rotations houtcomes)
        ((congrArg publications hdeeds).trans hpublications) (Or.inl ?_)
        (hposition.trans hposition') (hshown.trans hshown') hgoing
      rw [hlive]
      exact congrArg some (hcurrent (Nat.lt_of_sub_eq_succ rfl))
  | turns hst hstage hlive hposition hshown houtcomes hdeeds =>
      subst hst
      refine .of_stage hstage (congrArg rotations houtcomes)
        ((congrArg publications hdeeds).trans hpublications) (by rwa [hlive]) ?_
        (hshown.trans hshown') hgoing
      rw [hposition, hcurrent (Nat.lt_of_sub_eq_succ rfl), hsize, Nat.mod_add_mod]
      rfl
  | shows hst hstage hlive hposition hshown houtcomes hdeeds =>
      subst hst
      exact .of_stage hstage (congrArg rotations houtcomes)
        ((congrArg publications hdeeds).trans hpublications) (by rwa [hlive])
        (hposition.trans hposition') (hshown.trans hposition') hgoing
  | finishes hst hstage hlive hposition hshown houtcomes hdeeds =>
      subst hst
      -- what has taken place of the rotation counts as a whole one now
      refine .of_stage hstage ((congrArg rotations houtcomes).trans (rotations_concat_rotated _))
        ((congrArg publications hdeeds).trans hpublications) (by rwa [hlive])
        (hposition.trans hposition') (hshown.trans hshown') hgoing
  | stops hst hstage hlive hposition hshown houtcomes hdeeds =>
      subst hst
      refine .of_stage hstage (congrArg rotations houtcomes)
        ((congrArg publications hdeeds).trans hpublications) (Or.inr ⟨?_, hlive⟩)
        (hposition.trans hposition') (hshown.trans hshown') hgoing
      rw [← Bool.not_eq_true]
      intro hstrict
      exact absurd (hgoing' hstrict _ htask) (by simp [Statement.stops])

/-- The number of slots stays as it is. -/
theorem TaskStep.length_slots (hstep : TaskStep strict s st t) :
    t.slots.length = s.slots.length := by
  cases hstep with
  | works next _ _ _ _ hacts => exact hacts.length_slots
  | publishes b _ _ _ _ _ _ _ hacts => exact hacts.length_slots
  | handsOver b _ _ _ _ _ _ hscene => exact congrArg (·.slots.length) hscene
  | turns _ _ _ _ _ _ hscene => exact congrArg (·.slots.length) hscene
  | stops old _ _ _ _ _ _ hscene => exact congrArg (·.slots.length) hscene

/-- No statement of a rotation begins a shutdown. -/
theorem TaskStep.stops_eq_false (hstep : TaskStep strict s st t) (hst : st.stops = false)
    {next : Statement} (hnext : t.task = some next) : next.stops = false := by
  cases hstep with
  | works following htask _ _ hstops _ =>
      rw [← Bool.not_eq_true]
      intro hstop
      exact absurd (hstops next (htask.symm.trans hnext) hstop) (by simp [hst])
  | publishes b _ htask | handsOver b _ htask | turns _ htask =>
      obtain rfl := Option.some.inj (htask.symm.trans hnext)
      rfl
  | stops old hstop =>
      subst hstop
      exact absurd hst (by simp [Statement.stops])

/-- **No move violates the invariant.** Strictly taken, no move but a shutdown. -/
theorem Machine.InTurn.apply (h : s.InTurn strict n) (hsound : s.Sound)
    (hsize : s.slots.length = n) {m : Move} (hm : strict = true → m ≠ .beginStop)
    (heq : s.apply m = some t) : t.slots.length = n ∧ t.InTurn strict n := by
  obtain ⟨u, hu, rfl⟩ := Option.map_eq_some_iff.mp heq
  suffices hinTurn : u.slots.length = n ∧ u.InTurn strict n from
    ⟨hinTurn.1, hinTurn.2.congr (.of_deeds rfl rfl rfl rfl rfl) rfl hinTurn.2.going⟩
  cases m with
  | begin =>
      obtain ⟨hnone, hu⟩ := Option.ite_none_right_eq_some.mp hu
      obtain rfl := Option.some.inj hu
      refine ⟨hsize, h.congr (.of_deeds rfl rfl rfl rfl rfl) ?_ ?_⟩
      · exact (Machine.stage_of_none (Option.isNone_iff_eq_none.mp hnone)).symm
      · rintro - st hst
        obtain rfl := Option.some.inj hst
        rfl
  | beginStop =>
      obtain ⟨hnone, hu⟩ := Option.ite_none_right_eq_some.mp hu
      obtain rfl := Option.some.inj hu
      refine ⟨hsize, h.congr (.of_deeds rfl rfl rfl rfl rfl) ?_ ?_⟩
      · exact (Machine.stage_of_none (Option.isNone_iff_eq_none.mp hnone)).symm
      · intro hstrict
        exact absurd rfl (hm hstrict)
  | proceed world =>
      obtain ⟨st, htask, hcarry⟩ := Option.bind_eq_some_iff.mp hu
      have hstep := carryOut_step strict (fun hstrict => h.going hstrict st htask)
        hsound.current hcarry
      refine ⟨hstep.length_slots.trans hsize,
        (Machine.carryOut_turning hcarry).inTurn htask h hsize ?_⟩
      intro hstrict next hnext
      exact hstep.stops_eq_false (h.going hstrict st htask) hnext
  | retire i =>
      obtain ⟨_, _, _, hstep⟩ := Machine.retireAt_step false (by simp) hu
      obtain ⟨r, following, v, -, hv, rfl⟩ := Machine.exists_of_retireAt hu
      have hsteady : s.Steady v := Machine.retire_steady hv
      refine ⟨hstep.acts.length_slots.trans hsize, h.congr ?_ ?_ ?_⟩
      · exact ⟨hsteady.live, hsteady.position, hsteady.shown, hsteady.outcomes,
          hsteady.publications⟩
      · rw [Machine.stage, Machine.stage, hstep.task]
      · rw [hstep.task]
        exact h.going
  | exit b status =>
      obtain ⟨B, hB, hrest⟩ := Option.bind_eq_some_iff.mp hu
      split at hrest
      · exact absurd hrest (by simp)
      · obtain rfl := Option.some.inj hrest
        exact ⟨hsize, h.congr (.of_deeds rfl rfl rfl rfl rfl) rfl h.going⟩
  | change tree =>
      obtain rfl := Option.some.inj hu
      exact ⟨hsize, h.congr (.of_deeds rfl rfl rfl rfl rfl) rfl h.going⟩

/-- The invariant holds in every state that a ring comes to. -/
theorem Machine.InTurn.of_run (strict : Bool) {config : Config} {tree : Files.Tree} {clock : Files.Time}
    {moves : List Move} (hnew : Machine.new config tree clock = .ok s)
    (hstop : strict = true → .beginStop ∉ moves) (hrun : s.run moves = some t) :
    t.slots.length = config.backend.ports.length ∧
      t.InTurn strict config.backend.ports.length := by
  have hsize : s.slots.length = config.backend.ports.length := by
    obtain ⟨-, rfl⟩ := Machine.new_eq_ok hnew
    exact Slot.length_ring config
  suffices hall : t.Sound ∧ t.slots.length = config.backend.ports.length ∧
      t.InTurn strict config.backend.ports.length from hall.2
  refine Machine.run_induction (P := fun u => u.Sound ∧
    u.slots.length = config.backend.ports.length ∧ u.InTurn strict config.backend.ports.length)
    ?_ ⟨.new hnew, hsize, .new hnew⟩ hrun
  rintro m hm u v ⟨hsound, hsize, hinTurn⟩ heq
  refine ⟨hsound.apply heq, hinTurn.apply hsound hsize ?_ heq⟩
  rintro hstrict rfl
  exact hstop hstrict hm

/-! ### The order of the ring -/

/-- A ring of `n` slots keeps its order. -/
structure Machine.InOrder (n : ℕ) (s : Machine) : Prop where
  /-- Between tasks, the rotations that have succeeded have published the slots in turn, one
  each. -/
  published : s.task = none →
    Ring.publications s.deeds = (List.range (rotations s.outcomes)).map (· % n)
  /-- This is so whenever a task is about to end, the outcome of which counts already. -/
  finishing : ∀ outcome, s.task = some (.finish outcome) → Ring.publications s.deeds =
    (List.range (rotations (s.outcomes ++ [outcome]))).map (· % n)
  /-- Between tasks the ring stands one slot further than that of the last backend. -/
  next : s.task = none → ∀ i, s.position.last = some i → s.position.current = (i + 1) % n
  /-- Between tasks the live backend is the last one, and the ring stands at another slot. -/
  live : s.task = none → ∀ h, s.live = some h →
    s.position.last = some h.slot ∧ h.slot ≠ s.position.current
  /-- A rotation that waits for the lock of its slot waits for a retirement that holds it, and not
  for the live backend. -/
  waits : ∀ pages stale, s.task = some (.acquire pages stale) → s.current.locked = true →
    (∀ h, s.live = some h → h.slot ≠ s.position.current) ∧
      ∃ r ∈ s.retirements, r.handle.slot = s.position.current ∧ r.next ≠ .announceRelease

/-- Before the stages of a rotation the live backend is the last one, and not in the current
slot. -/
theorem Machine.InTurn.live_ne (h : s.InTurn strict n) (hn : 2 ≤ n) (hstage : s.stage = 0)
    {g : Handle} (hlive : s.live = some g) :
    s.position.last = some g.slot ∧ g.slot ≠ s.position.current := by
  have hturns := Machine.turns_of_stage hstage
  have hposition := h.position
  have hslot := h.live
  rw [hturns, if_neg (by decide)] at hposition hslot
  rw [← hposition, hlive] at hslot
  rcases hslot with hslot | ⟨-, hnone⟩
  · have hlast : s.position.last = some g.slot := hslot.symm
    refine ⟨hlast, ?_⟩
    -- the slot of the last backend is a slot of the ring, and the current one is the next
    have hlt : g.slot < n := by
      rw [hposition] at hlast
      rcases hr : rotations s.outcomes with _ | k
      · rw [hr] at hlast
        exact absurd hlast (by simp)
      · rw [hr] at hlast
        rw [← Option.some.inj hlast]
        exact Nat.mod_lt _ (by omega)
    rw [hposition] at hlast ⊢
    rw [Nat.add_zero] at hlast ⊢
    rw [Position.current_after_of_last hlast]
    exact (succ_mod_ne hn hlt).symm
  · exact absurd hnone (by simp)

/-- Who has the lock of a slot while a rotation waits for it. -/
theorem Machine.Sound.exists_retirement (h : s.Sound)
    {pages : List Site.PageFile} {stale : Bool} (htask : s.task = some (.acquire pages stale))
    (hlocked : s.current.locked = true)
    (hlive : ∀ g, s.live = some g → g.slot ≠ s.position.current) :
    ∃ r ∈ s.retirements, r.handle.slot = s.position.current ∧ r.next ≠ .announceRelease := by
  rcases h.owned.cases s.position.current with ⟨o, ho, hslot, -⟩ | hfree
  · rw [Machine.possessions_of_task htask] at ho
    rcases List.mem_append.mp (List.mem_append.mp ho |>.resolve_left List.not_mem_nil) with
      hmem | hmem
    · obtain ⟨g, hg, rfl⟩ := Option.map_eq_some_iff.mp (Option.mem_toList.mp hmem)
      exact absurd hslot (hlive g hg)
    · obtain ⟨r, hr, hpossession⟩ := List.mem_filterMap.mp hmem
      refine ⟨r, hr, ?_, ?_⟩
      · rw [← hslot]
        exact (Retiring.slot_of_possession? hpossession).symm
      · intro hnext
        rw [Retirement.possession?, hnext] at hpossession
        exact absurd hpossession (by simp [Retiring.possession?])
  · exact absurd (hfree.unlocked.symm.trans hlocked) Bool.false_ne_true

/-- What the invariant says about the order of the ring. -/
theorem Machine.InTurn.inOrder (h : s.InTurn strict n) (hn : 2 ≤ n) (hsound : s.Sound) :
    s.InOrder n where
  published htask := by
    have hpublications := h.publications
    rwa [Machine.turns_of_stage (Machine.stage_of_none htask), if_neg (by decide)]
      at hpublications
  finishing outcome htask := by
    have hpublications := h.publications
    rw [Machine.turns_of_stage (Machine.stage_of_some htask)] at hpublications
    rw [hpublications]
    cases outcome with
    | rotated => rw [rotations_concat_rotated]; rfl
    | idle | buildFailed | launchFailed | failed e | stopped =>
        rw [rotations_concat_of_not _ rfl]
        rfl
  next htask i hlast := by
    have hposition := h.position
    rw [hposition] at hlast ⊢
    exact Position.current_after_of_last hlast
  live htask g hlive := h.live_ne hn (Machine.stage_of_none htask) hlive
  waits pages stale htask hlocked := by
    have hne (g : Handle) (hg : s.live = some g) : g.slot ≠ s.position.current :=
      (h.live_ne hn (Machine.stage_of_some htask) hg).2
    exact ⟨hne, hsound.exists_retirement htask hlocked hne⟩

/-- **What is shown between rotations, as long as the ring is not stopped.** -/
theorem Machine.InTurn.status_eq (h : s.InTurn true n) (hrelay : s.Relay)
    (htask : s.task = none) : s.live.map (·.slot) = s.position.last ∧
      s.status = .object
        [("live", .ofOption .text (s.position.last.map fun i => (s.slot i).addr)),
          ("current", .natural s.position.current), ("last", .ofOption .natural s.position.last),
          ("slots", .list (s.slots.map (·.status)))] := by
  have hturns := Machine.turns_of_stage (Machine.stage_of_none htask)
  have hshown : s.shown = s.position := by
    rw [h.shown, h.position, hturns, hturns]
    rfl
  have hlive : s.live.map (·.slot) = s.position.last := by
    rcases h.live with hlive | ⟨hfalse, -⟩
    · rw [hlive, h.position, hturns, hturns]
      rfl
    · exact absurd hfalse (by simp)
  have hpublished : s.published.current = s.position.last.map fun i => (s.slot i).addr := by
    rw [hrelay.published, ← hlive, Option.map_map, Machine.front, htask]
    rfl
  exact ⟨hlive, by rw [Machine.status, hshown, hpublished]⟩

/-- **The order of the ring.** In every state that the ring of an accepted configuration comes to,
by rotations with any outcome, retirements and shutdowns in any order of their statements, the
slots have been published in turn, the ring stands one slot further than that of the last
backend, which is that of the live one, and a rotation waits for no lock but that of a
retirement. As long as the ring is not stopped, what it shows between rotations is its position
and the address of the last backend. -/
theorem ring_order {config : Config} {tree : Files.Tree} {clock : Files.Time}
    {moves : List Move} (hnew : Machine.new config tree clock = .ok s)
    (hrun : s.run moves = some t) : t.InOrder config.backend.ports.length ∧
      (.beginStop ∉ moves → t.task = none → t.live.map (·.slot) = t.position.last ∧
        t.status = .object
          [("live", .ofOption .text (t.position.last.map fun i => (t.slot i).addr)),
            ("current", .natural t.position.current),
            ("last", .ofOption .natural t.position.last),
            ("slots", .list (t.slots.map (·.status)))]) := by
  have hports := (ports_of_validate (Machine.new_eq_ok hnew).1).1
  refine ⟨?_, ?_⟩
  · have hinTurn := (Machine.InTurn.of_run false hnew (by simp) hrun).2
    exact hinTurn.inOrder hports (.of_run hnew hrun)
  · intro hstop htask
    have hinTurn := (Machine.InTurn.of_run true hnew (fun _ => hstop) hrun).2
    exact hinTurn.status_eq (.of_run hnew hstop hrun) htask

/-- A ring that rotates twice. -/
theorem ring_order_rotating : ∃ s t, Machine.new Sample.config (Sample.site 'a' 3) 10 = .ok s ∧
    s.run Sample.moves = some t ∧ t.InOrder Sample.config.backend.ports.length ∧
      (.beginStop ∉ Sample.moves → t.task = none → t.live.map (·.slot) = t.position.last ∧
        t.status = .object
          [("live", .ofOption .text (t.position.last.map fun i => (t.slot i).addr)),
            ("current", .natural t.position.current),
            ("last", .ofOption .natural t.position.last),
            ("slots", .list (t.slots.map (·.status)))]) := by
  obtain ⟨s, t, hnew, hrun, -⟩ := Sample.exists_run
  exact ⟨s, t, hnew, hrun, ring_order hnew hrun⟩

end LivePages.Ring
