import Mathlib.Data.List.Infix
import LivePages.Ring.Event

/-!
# Rounds of a Slot

A slot is used in rounds: something is built into it and started, and either fails, or is published,
replaced and put away. Others hear of this by the events of the slot, one after the other, and what
they may hear next depends on what they have heard last.

That the slot is free again is not part of what they hear here, as it is told on its own time.

## Main definitions

* `IsRound`, `InRounds`: the events of a round, and those of rounds that follow each other.
* `Told`, `Told.Hears`: what others have heard of a round, and the events that may come next.
* `Heard`: what others have heard of a slot by the events of all slots.

## Main results

* `Heard.inRounds`: whoever hears nothing but what may come next, hears rounds.
-/

namespace LivePages.Ring

/-! ### Rounds -/

/-- The event says how the deletion of the executable of a slot went. -/
def Event.deletes (i : ℕ) : Event → Bool
  | .deleted j | .deleteFailed j _ => j = i
  | _ => false

/-- The event is about a slot, and does not say that it is free again. -/
def Event.tells (i : ℕ) (e : Event) : Bool :=
  e.slot = i && e ≠ .released i

/-- The events of a round of a slot. What is told after the deletion of an executable is left
open. -/
inductive IsRound (ending : List Event) (i : ℕ) : List Event → Prop
  | buildFailed (reason : String) : IsRound ending i [.buildStarted i, .buildFailed i reason]
  /-- An executable that is up to date is not built again. -/
  | launchFailed {build : List Event} (hbuild : build <+: [.buildStarted i]) (reason : String) :
      IsRound ending i (build ++ [.launchFailed i reason])
  | retired {build : List Event} (hbuild : build <+: [.buildStarted i]) (addr addr' : String)
      (code : Option ℕ) {deletion : Event} (hdeletion : deletion.deletes i = true) :
      IsRound ending i (build ++ [.launched i addr, .published i addr', .draining i, .terminated i,
        .exited i code, deletion] ++ ending)

/-- The events are those of rounds that follow each other, the last of which may go on. -/
def InRounds (ending : List Event) (i : ℕ) (events : List Event) : Prop :=
  ∃ rounds : List (List Event), (∀ r ∈ rounds, IsRound ending i r) ∧ events <+: rounds.flatten

/-! ### What others hear -/

/-- What others have heard last of the round of a slot. -/
inductive Told where
  /-- The round has not begun, as far as they know. -/
  | nothing
  | build
  | launch
  | publication
  | draining
  | kill
  | exit
  deriving DecidableEq, Repr

/-- The events of a slot that others may hear next, and what they have heard then. -/
inductive Told.Hears (i : ℕ) : Told → Event → Told → Prop
  | buildStarted : Hears i .nothing (.buildStarted i) .build
  | buildFailed (reason : String) : Hears i .build (.buildFailed i reason) .nothing
  | launchFailed {told : Told} (htold : told = .nothing ∨ told = .build) (reason : String) :
      Hears i told (.launchFailed i reason) .nothing
  | launched {told : Told} (htold : told = .nothing ∨ told = .build) (addr : String) :
      Hears i told (.launched i addr) .launch
  | published (addr : String) : Hears i .launch (.published i addr) .publication
  | draining : Hears i .publication (.draining i) .draining
  | terminated : Hears i .draining (.terminated i) .kill
  | exited (code : Option ℕ) : Hears i .kill (.exited i code) .exit
  | deleted {deletion : Event} (hdeletion : deletion.deletes i = true) :
      Hears i .exit deletion .nothing

/-- What others have heard of a slot by all events so far. -/
inductive Heard (i : ℕ) : List Event → Told → Prop
  | nothing : Heard i [] .nothing
  /-- The next event is one of the slot. -/
  | hears {events : List Event} {told told' : Told} {e : Event} (h : Heard i events told)
      (he : told.Hears i e told') : Heard i (events ++ [e]) told'
  /-- The next event is none that counts. -/
  | aside {events : List Event} {told : Told} {e : Event} (h : Heard i events told)
      (he : e.tells i = false) : Heard i (events ++ [e]) told

variable {i : ℕ} {told told' : Told} {e : Event} {events : List Event}

/-- That a slot is free again does not count. -/
@[simp] theorem Event.tells_released (i j : ℕ) : (Event.released j).tells i = false := by
  by_cases h : j = i <;> simp [tells, slot, h]

/-- An event of a slot does not count for another one. -/
theorem Event.tells_of_ne {j : ℕ} (h : j ≠ e.slot) : e.tells j = false := by
  simp [tells, Ne.symm h]

/-- An event about a deletion is one of its slot. -/
theorem Event.tells_of_deletes (h : e.deletes i = true) : e.tells i = true := by
  cases e with
  | deleted j | deleteFailed j reason =>
      obtain rfl : j = i := of_decide_eq_true h
      simp [tells, slot]
  | _ => exact absurd h Bool.false_ne_true

/-- What is heard next is an event of the slot. -/
theorem Told.Hears.tells (h : told.Hears i e told') : e.tells i = true := by
  cases h with
  | deleted hdeletion => exact Event.tells_of_deletes hdeletion
  | _ => simp [Event.tells, Event.slot]

/-! ### From what is heard to rounds -/

/-- The events of a round of which others have heard so much. -/
inductive Told.Begun (i : ℕ) : Told → List Event → Prop
  | nothing : Begun i .nothing []
  | build : Begun i .build [.buildStarted i]
  | launch {build : List Event} (hbuild : build <+: [.buildStarted i]) (addr : String) :
      Begun i .launch (build ++ [.launched i addr])
  | publication {build : List Event} (hbuild : build <+: [.buildStarted i])
      (addr addr' : String) :
      Begun i .publication (build ++ [.launched i addr, .published i addr'])
  | draining {build : List Event} (hbuild : build <+: [.buildStarted i]) (addr addr' : String) :
      Begun i .draining (build ++ [.launched i addr, .published i addr', .draining i])
  | kill {build : List Event} (hbuild : build <+: [.buildStarted i]) (addr addr' : String) :
      Begun i .kill (build ++ [.launched i addr, .published i addr', .draining i, .terminated i])
  | exit {build : List Event} (hbuild : build <+: [.buildStarted i]) (addr addr' : String)
      (code : Option ℕ) :
      Begun i .exit (build ++ [.launched i addr, .published i addr', .draining i, .terminated i,
        .exited i code])

variable {begun : List Event}

/-- Before a launch others have heard of a build at most. -/
theorem Told.Begun.isPrefix (h : told.Begun i begun) (htold : told = .nothing ∨ told = .build) :
    begun <+: [.buildStarted i] := by
  rcases htold with rfl | rfl
  · cases h
    exact List.nil_prefix
  · cases h
    exact List.prefix_rfl

/-- **An event goes on with a round or ends it.** -/
theorem Told.Begun.hears (h : told.Begun i begun) (he : told.Hears i e told') :
    told'.Begun i (begun ++ [e]) ∨ told' = .nothing ∧ IsRound [] i (begun ++ [e]) := by
  cases he with
  | buildStarted =>
      cases h
      exact Or.inl .build
  | buildFailed reason =>
      cases h
      exact Or.inr ⟨rfl, .buildFailed reason⟩
  | launchFailed htold reason => exact Or.inr ⟨rfl, .launchFailed (h.isPrefix htold) reason⟩
  | launched htold addr => exact Or.inl (.launch (h.isPrefix htold) addr)
  | published addr' =>
      cases h with
      | launch hbuild addr =>
          rw [List.append_assoc]
          exact Or.inl (.publication hbuild addr addr')
  | draining =>
      cases h with
      | publication hbuild addr addr' =>
          rw [List.append_assoc]
          exact Or.inl (.draining hbuild addr addr')
  | terminated =>
      cases h with
      | draining hbuild addr addr' =>
          rw [List.append_assoc]
          exact Or.inl (.kill hbuild addr addr')
  | exited code =>
      cases h with
      | kill hbuild addr addr' =>
          rw [List.append_assoc]
          exact Or.inl (.exit hbuild addr addr' code)
  | deleted hdeletion =>
      cases h with
      | exit hbuild addr addr' code =>
          rw [List.append_assoc, ← List.append_nil (_ ++ _)]
          exact Or.inr ⟨rfl, .retired hbuild addr addr' code hdeletion⟩

/-- What is heard of a slot are whole rounds and one that has begun. -/
theorem Heard.exists_rounds (h : Heard i events told) :
    ∃ (rounds : List (List Event)) (begun : List Event), (∀ r ∈ rounds, IsRound [] i r) ∧
      told.Begun i begun ∧ events.filter (·.tells i) = rounds.flatten ++ begun := by
  induction h with
  | nothing => exact ⟨[], [], by simp, .nothing, rfl⟩
  | aside _ he ih =>
      obtain ⟨rounds, begun, hrounds, hbegun, heq⟩ := ih
      refine ⟨rounds, begun, hrounds, hbegun, ?_⟩
      rw [List.filter_append, heq, List.filter_singleton, he]
      exact List.append_nil _
  | @hears events told told' e _ he ih =>
      obtain ⟨rounds, begun, hrounds, hbegun, heq⟩ := ih
      have hfilter : (events ++ [e]).filter (·.tells i) = rounds.flatten ++ (begun ++ [e]) := by
        rw [List.filter_append, heq, List.filter_singleton, he.tells, List.append_assoc]
        rfl
      rcases hbegun.hears he with hgoes | ⟨rfl, hends⟩
      · exact ⟨rounds, begun ++ [e], hrounds, hgoes, hfilter⟩
      · refine ⟨rounds ++ [begun ++ [e]], [], ?_, .nothing, ?_⟩
        · simpa [or_imp, forall_and] using ⟨hrounds, hends⟩
        · rw [hfilter, List.flatten_append, List.flatten_singleton, List.append_nil]

/-- A round that has begun may be ended. -/
theorem Told.Begun.exists_isRound (h : told.Begun i begun) :
    ∃ more, IsRound [] i (begun ++ more) := by
  have hdeletion : (Event.deleted i).deletes i = true := by simp [Event.deletes]
  cases h with
  | nothing => exact ⟨_, .launchFailed List.nil_prefix ""⟩
  | build => exact ⟨_, .buildFailed ""⟩
  | launch hbuild addr =>
      refine ⟨[.published i "", .draining i, .terminated i, .exited i none, .deleted i], ?_⟩
      simpa using (.retired hbuild addr "" none hdeletion : IsRound [] i _)
  | publication hbuild addr addr' =>
      refine ⟨[.draining i, .terminated i, .exited i none, .deleted i], ?_⟩
      simpa using (.retired hbuild addr addr' none hdeletion : IsRound [] i _)
  | draining hbuild addr addr' =>
      refine ⟨[.terminated i, .exited i none, .deleted i], ?_⟩
      simpa using (.retired hbuild addr addr' none hdeletion : IsRound [] i _)
  | kill hbuild addr addr' =>
      refine ⟨[.exited i none, .deleted i], ?_⟩
      simpa using (.retired hbuild addr addr' none hdeletion : IsRound [] i _)
  | exit hbuild addr addr' code =>
      refine ⟨[.deleted i], ?_⟩
      simpa using (.retired hbuild addr addr' code hdeletion : IsRound [] i _)

/-- **What is heard of a slot are rounds.** -/
theorem Heard.inRounds (h : Heard i events told) : InRounds [] i (events.filter (·.tells i)) := by
  obtain ⟨rounds, begun, hrounds, hbegun, heq⟩ := h.exists_rounds
  obtain ⟨more, hmore⟩ := hbegun.exists_isRound
  refine ⟨rounds ++ [begun ++ more], by simpa [or_imp, forall_and] using ⟨hrounds, hmore⟩, more, ?_⟩
  rw [heq, List.flatten_append, List.flatten_singleton, List.append_assoc]

end LivePages.Ring
