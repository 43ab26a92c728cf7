import LivePages.Proofs.Ring.Handling
import LivePages.Proofs.Ring.Watch

/-!
# The Custody of Executables

A backend runs from the executable of its slot, and later builds write to the same path. Whoever
possesses the slot takes care of it: as long as a backend may run, its executable is neither
written nor deleted. A retirement deletes an executable long after the rotation that began it, but
nothing can have been built into the slot since the backend was started, so what it deletes is
what the backend was started from.

## Main results

* `Progress.supplied`: who has a backend has the executable that it was started from.
* `Machine.Custody`, `Machine.Custody.apply`: the invariant, which no move violates.
* `executables_kept`: what the moves of a ring may do to the executables of its backends.
-/

namespace LivePages.Ring

open Build (Edits MayWriteAt)
open Files.Path (fileName?)

variable {o : Possession} {strict : Bool} {s t : Machine} {st : Statement} {world : World}

/-! ### What backends were started from -/

/-- A backend is live, or its retirement still has its slot. -/
def Machine.Retains (s : Machine) (h : Handle) : Prop :=
  s.live = some h ∨ ∃ r ∈ s.retirements, r.handle = h ∧ r.next ≠ .announceRelease

/-- Such a backend has an owner, apart from the task that has the ring. -/
theorem Machine.Retains.exists_possession {h : Handle} (hr : s.Retains h) :
    ∃ o ∈ (s.live.map (·.live)).toList ++ s.retirements.filterMap (·.possession?),
      o.slot = h.slot ∧ o.backend = some h.backend := by
  rcases hr with hlive | ⟨r, hr, rfl, hnext⟩
  · rw [hlive]
    exact ⟨h.live, List.mem_append_left _ List.mem_cons_self, rfl, rfl⟩
  · obtain ⟨o, ho, howns⟩ : ∃ o, r.possession? = some o ∧
        o.slot = r.handle.slot ∧ o.backend = some r.handle.backend := by
      rw [Retirement.possession?]
      cases hcase : r.next with
      | announceRelease => exact absurd hcase hnext
      | _ => exact ⟨_, rfl, rfl, rfl⟩
    exact ⟨o, List.mem_append_right _ (List.mem_filterMap.mpr ⟨r, hr, ho⟩), howns⟩

/-- Such a backend exists. -/
theorem Machine.Sound.lt_of_retains (h : s.Sound) {g : Handle} (hr : s.Retains g) :
    g.backend < s.backends.length := by
  obtain ⟨o, ho, -, hbackend⟩ := hr.exists_possession
  have hheld := h.owned.held o (List.mem_append_right _ ho)
  obtain ⟨B, hB, -⟩ := (hheld.occupies _ hbackend).exists_backend
  exact (List.getElem?_eq_some_iff.mp hB).1

/-- Its slot is not that of the task that has the ring. -/
theorem Machine.Sound.slot_ne_of_retains (h : s.Sound) (htask : s.task = some st)
    (ho : st.possession? s.position.current = some o) {g : Handle} (hr : s.Retains g) :
    g.slot ≠ o.slot := by
  obtain ⟨p, hp, hslot, -⟩ := hr.exists_possession
  have howned := h.owned
  rw [Machine.possessions_of_task htask, ho] at howned
  rw [← hslot]
  exact howned.slot_ne hp

/-- A statement of the task that has the ring makes at most its own backend such a one. -/
theorem TaskStep.retains (hstep : TaskStep strict s st t) {g : Handle} (hr : t.Retains g) :
    s.Retains g ∨ ∃ b, st = .handOver b ∧ g = s.handleOf b := by
  cases hstep with
  | works next _ hsame =>
      rw [Machine.Retains, hsame.live, hsame.retirements] at hr
      exact Or.inl hr
  | publishes b _ _ hlive hretirements =>
      rw [Machine.Retains, hlive, hretirements] at hr
      exact Or.inl hr
  | handsOver b hst _ hlive hretirements =>
      rw [Machine.Retains, hlive, hretirements] at hr
      rcases hr with hself | ⟨r, hr, rfl, hnext⟩
      · exact Or.inr ⟨b, hst, (Option.some.inj hself).symm⟩
      · rcases List.mem_append.mp hr with hr | hr
        · exact Or.inl (Or.inr ⟨r, hr, rfl, hnext⟩)
        · obtain ⟨old, hold, rfl⟩ := Option.map_eq_some_iff.mp (Option.mem_toList.mp hr)
          exact Or.inl (Or.inl hold)
  | turns _ _ hlive hretirements =>
      rw [Machine.Retains, hlive, hretirements] at hr
      exact Or.inl hr
  | stops old _ _ _ hlive hretirements =>
      rw [Machine.Retains, hlive, hretirements] at hr
      exact Or.inl (Or.inr (hr.resolve_left (by simp)))

/-- A statement of a retirement makes no backend such a one. -/
theorem Machine.retains_of_retireAt {i : ℕ} (heq : s.retireAt i = some t) {g : Handle}
    (hr : t.Retains g) : s.Retains g := by
  obtain ⟨r, following, u, hget, hu, rfl⟩ := Machine.exists_of_retireAt heq
  obtain ⟨-, hsame, -⟩ := retire_acts (fun h => absurd h Bool.false_ne_true) hu
  rcases hr with hlive | ⟨q, hq, rfl, hnext⟩
  · exact Or.inl (hsame.live.symm.trans hlive)
  · change q ∈ Retirement.goOn u.retirements i r following at hq
    rw [hsame.retirements] at hq
    cases following with
    | none => exact Or.inr ⟨q, List.mem_of_mem_eraseIdx hq, rfl, hnext⟩
    | some next =>
        rcases List.mem_or_eq_of_mem_set hq with hq | rfl
        · exact Or.inr ⟨q, hq, rfl, hnext⟩
        · -- the last statement of a retirement is followed by none
          refine Or.inr ⟨r, List.mem_of_getElem? hget, rfl, fun hlast => ?_⟩
          rw [hlast] at hu
          exact absurd (Prod.mk.inj (Option.some.inj hu)).2 (by simp)

/-- Every backend that is live or being retired was started from what is in its slot, and so was
the backend that has been started to replace it. -/
structure Machine.Supplied (s : Machine) (b : Books) : Prop where
  retained : ∀ g, s.Retains g → b.launched g.backend = b.editions g.slot
  started : ∀ k, s.task.bind (·.backend?) = some k →
    b.launched k = b.editions s.position.current

variable {b : Books}

/-- A statement that enters nothing of this into the books. -/
theorem Machine.Supplied.follows {b' : Books} (h : s.Supplied b) (hstep : TaskStep strict s st t)
    (htask : s.task = some st) (hlaunched : b'.launched = b.launched)
    (heditions : b'.editions = b.editions)
    (hbackend : ∀ k, t.task.bind (·.backend?) = some k →
      st.backend? = some k ∧ t.position = s.position) : t.Supplied b' where
  retained g hr := by
    rw [hlaunched, heditions]
    rcases hstep.retains hr with hr | ⟨k, rfl, rfl⟩
    · exact h.retained g hr
    · exact h.started k (by rw [htask]; rfl)
  started k hk := by
    obtain ⟨hst, hposition⟩ := hbackend k hk
    rw [hlaunched, heditions, hposition]
    exact h.started k (by rw [htask]; exact hst)

/-- An executable is put to its place. -/
theorem Machine.Supplied.installs (h : s.Supplied b) (hstep : TaskStep strict s st t)
    (hsound : s.Sound) {project : Build.Project} {built : String}
    (htask : s.task = some (.install project built)) (hst : st = .install project built)
    (htask' : t.task = some .enterLaunching) (e : Option Edition) :
    t.Supplied { b with editions := Function.update b.editions s.position.current e } where
  retained g hr := by
    have hr : s.Retains g := (hstep.retains hr).resolve_right (by simp [hst])
    have hne : g.slot ≠ s.position.current := hsound.slot_ne_of_retains htask rfl hr
    exact (h.retained g hr).trans (Function.update_of_ne hne _ _).symm
  started k hk := by
    rw [htask'] at hk
    exact absurd hk (by simp [Statement.backend?])

/-- A backend is started. -/
theorem Machine.Supplied.starts (h : s.Supplied b) (hstep : TaskStep strict s st t)
    (hsound : s.Sound) (hst : st = .start) (htask' : t.task = some (.examine s.backends.length))
    (hposition : t.position = s.position) :
    t.Supplied { b with
      launched := Function.update b.launched s.backends.length
        (b.editions s.position.current) } where
  retained g hr := by
    have hr : s.Retains g := (hstep.retains hr).resolve_right (by simp [hst])
    have hne : g.backend ≠ s.backends.length := (hsound.lt_of_retains hr).ne
    exact (Function.update_of_ne hne _ _).trans (h.retained g hr)
  started k hk := by
    rw [htask'] at hk
    obtain rfl := Option.some.inj hk
    rw [hposition]
    exact Function.update_self _ _ _

/-- **The books stay right.** -/
theorem Progress.supplied (hprogress : Progress s st t) (hstep : TaskStep strict s st t)
    (hsound : s.Sound) (htask : s.task = some st) (h : s.Supplied b) :
    t.Supplied (b.after s st t.task) := by
  cases hprogress with
  | scans found hst _ htask' =>
      subst hst
      rw [htask']
      exact h.follows hstep htask rfl rfl (by simp [htask', Statement.backend?])
  | rests pages old hst _ _ htask' =>
      subst hst
      rw [htask']
      exact h.follows hstep htask rfl rfl (by simp [htask', Statement.backend?])
  | opens pages hst htask' =>
      subst hst
      rw [htask']
      exact h.follows hstep htask rfl rfl (by simp [htask', Statement.backend?])
  | reads r waiting done done' hst htask' =>
      subst hst
      rw [htask']
      exact h.follows hstep htask rfl rfl (by simp [htask', Statement.backend?])
  | installs project built hst htask' =>
      subst hst
      rw [htask']
      exact h.installs hstep hsound htask rfl htask' _
  | starts hst htask' _ hposition =>
      subst hst
      rw [htask']
      exact h.starts hstep hsound rfl htask' hposition
  | handsOver k hst htask' =>
      subst hst
      rw [htask']
      exact h.follows hstep htask rfl rfl (by simp [htask', Statement.backend?])
  | leaves old hst htask' =>
      subst hst
      rw [htask']
      exact h.follows hstep htask rfl rfl (by simp [htask', Statement.backend?])
  | goes hfollows hposition _ hbooks =>
      rw [hbooks]
      refine h.follows hstep htask rfl rfl fun k hk => ?_
      rcases hfollows.backend with hnone | heq
      · exact absurd (hnone.symm.trans hk) (by simp)
      · refine ⟨heq.symm.trans hk, hposition.resolve_right ?_⟩
        simp [hk]

/-! ### The invariant -/

/-- Whoever has a backend has its slot and the executable that it was started from. -/
structure Machine.Custody (s : Machine) (b : Books) : Prop where
  /-- What the tasks know is right. -/
  sound : s.Sound
  /-- Every backend whose end has not been seen has an owner. -/
  watched : Watched s.scene s.possessions
  /-- The executables of the slots are numbered. -/
  numbered : s.slots.map (·.exePath) =
    (List.range s.slots.length).map (executablePath s.config.exeDir)
  /-- Projects have directories of their own. -/
  housed : s.Housed
  /-- Backends were started from what is in their slots. -/
  supplied : s.Supplied b

/-- A new ring has no backends. -/
theorem Machine.Custody.new {config : Config} {tree : Files.Tree} {clock : Files.Time}
    (hnew : Machine.new config tree clock = .ok s) : s.Custody {} := by
  have hsound := Machine.Sound.new hnew
  obtain ⟨-, rfl⟩ := Machine.new_eq_ok hnew
  refine ⟨hsound, ?_, ?_, ?_, ?_, ?_⟩
  · intro k B hB
    exact absurd hB (by simp [scene])
  · show (Slot.ring config).map (·.exePath) =
      (List.range (Slot.ring config).length).map (executablePath config.exeDir)
    rw [Slot.ring, List.map_map, List.length_map, List.length_zipIdx, List.range_eq_range',
      ← List.zipIdx_map_snd, List.map_map]
    rfl
  · intro project hproject
    exact absurd hproject (by simp)
  · rintro g (hlive | ⟨r, hr, -⟩)
    · exact absurd hlive (by simp)
    · exact absurd hr List.not_mem_nil
  · intro k hk
    exact absurd hk (by simp)

/-- The acts of owners keep the custody. -/
theorem Machine.Custody.of_acts {m m' : Option Possession} {os : List Possession}
    (h : s.Custody b) (hsound : t.Sound) (hbefore : s.possessions.Perm (m.toList ++ os))
    (hafter : t.possessions.Perm (m'.toList ++ os)) (hacts : Acts strict m s.scene m' t.scene)
    (hconfig : t.config = s.config) (hhoused : t.Housed) {b' : Books} (hsupplied : t.Supplied b') :
    t.Custody b' where
  sound := hsound
  watched :=
    (hacts.watched (h.sound.owned.perm hbefore) (h.watched.perm hbefore)).perm hafter.symm
  numbered := by
    have hslots : t.slots.map (·.exePath) = s.slots.map (·.exePath) := hacts.exePaths
    have hlength : t.slots.length = s.slots.length := hacts.length_slots
    rw [hslots, hlength, hconfig]
    exact h.numbered
  housed := hhoused
  supplied := hsupplied

/-- **No move violates the custody.** -/
theorem Machine.Custody.apply (h : s.Custody b) {m : Move} (heq : s.apply m = some t) :
    t.Custody (b.note s t m) := by
  have hsound := h.sound.apply heq
  obtain ⟨u, hu, rfl⟩ := Option.map_eq_some_iff.mp heq
  suffices hcustody : u.Sound → u.Custody (b.note s u m) by
    have hu := hcustody (hsound.congr rfl rfl rfl rfl rfl)
    exact ⟨hsound, hu.watched, hu.numbered, hu.housed, ⟨hu.supplied.retained, hu.supplied.started⟩⟩
  intro hsound
  cases m with
  | begin | beginStop =>
      obtain ⟨hnone, hu⟩ := Option.ite_none_right_eq_some.mp hu
      obtain rfl := Option.some.inj hu
      have htask : s.task = none := Option.isNone_iff_eq_none.mp hnone
      refine ⟨hsound, ?_, h.numbered, ?_, ⟨h.supplied.retained, ?_⟩⟩
      · rw [Machine.possessions_of_task rfl]
        have hw := h.watched
        rw [possessions, taskPossession?, htask] at hw
        exact hw
      · intro project hproject
        exact absurd hproject (by simp [next, Statement.project?])
      · intro k hk
        exact absurd hk (by simp [next, Statement.backend?])
  | proceed world =>
      obtain ⟨st, htask, hcarry⟩ := Option.bind_eq_some_iff.mp hu
      have hstep := carryOut_step false (by simp) h.sound.current hcarry
      have hhandling := carryOut_handling htask h.housed hcarry
      obtain ⟨m, m', os, hbefore, hafter, hacts⟩ := hstep.exists_acts htask
      refine h.of_acts hsound hbefore hafter hacts hhandling.config hhandling.housed ?_
      rw [Books.note, htask]
      exact (carryOut_progress hcarry u.clock).supplied hstep h.sound htask h.supplied
  | retire i =>
      obtain ⟨m, m', os, hstep⟩ := Machine.retireAt_step false (by simp) hu
      obtain ⟨r, following, v, -, hv, hu'⟩ := Machine.exists_of_retireAt hu
      have hconfig : u.config = s.config := by
        rw [hu']
        exact (retire_files hv).1
      refine h.of_acts hsound hstep.before hstep.after hstep.acts hconfig ?_ ⟨?_, ?_⟩
      · rw [Housed, hstep.task, hconfig]
        exact h.housed
      · intro g hr
        exact h.supplied.retained g (retains_of_retireAt hu hr)
      · intro k hk
        rw [hstep.task] at hk
        rw [hstep.position]
        exact h.supplied.started k hk
  | exit k status =>
      obtain ⟨B, -, hrest⟩ := Option.bind_eq_some_iff.mp hu
      split at hrest
      · exact absurd hrest (by simp)
      · obtain rfl := Option.some.inj hrest
        refine ⟨hsound, ?_, h.numbered, h.housed, ⟨h.supplied.retained, h.supplied.started⟩⟩
        intro j A hA hunseen
        obtain ⟨D, hD, rfl⟩ := s.scene.exists_of_getElem?_onBackend _ _ hA
        have hslot : (if k = j then { D with status := some status } else D).slot = D.slot := by
          split <;> rfl
        rw [hslot] at hunseen ⊢
        exact h.watched j D hD hunseen
  | change tree =>
      obtain rfl := Option.some.inj hu
      exact ⟨hsound, h.watched, h.numbered, h.housed,
        ⟨h.supplied.retained, h.supplied.started⟩⟩

/-- The custody is kept in a run. -/
theorem Machine.Custody.run {moves : List Move} (h : s.Custody b)
    (hrun : s.run moves = some t) : t.Custody (s.books b moves) := by
  induction moves generalizing s b with
  | nil =>
      obtain rfl := Option.some.inj hrun
      exact h
  | cons m moves ih =>
      obtain ⟨u, hu, hrest⟩ := Option.bind_eq_some_iff.mp hrun
      rw [books, hu]
      exact ih (h.apply hu) hrest

/-! ### What happens to executables -/

/-- The executable of a slot. -/
theorem Machine.Custody.exePath_slot (h : s.Custody b) {i : ℕ} (hi : i < s.slots.length) :
    (s.slot i).exePath = executablePath s.config.exeDir i := by
  have hget := congrArg (·[i]?) h.numbered
  simp only [List.getElem?_map, List.getElem?_range hi, Option.map_some] at hget
  obtain ⟨slot, hslot, hpath⟩ := Option.map_eq_some_iff.mp hget
  rw [Machine.slot, List.getD_eq_getElem?_getD, hslot]
  exact hpath

/-- The slot that a build is for is not in use. -/
theorem Machine.Custody.not_inUse_of_builds (h : s.Custody b) (htask : s.task = some st)
    (hbuilds : st.builds = true) : ¬ s.InUse s.position.current := by
  have hmem : Possession.bare s.position.current [.building] ∈ s.possessions := by
    rw [Machine.possessions_of_task htask]
    cases st with
    | openSources | generate | assemble | compile | install => exact List.mem_cons_self
    | _ => exact absurd hbuilds (by simp [Statement.builds])
  exact h.sound.not_inUse h.watched hmem (by simp [Possession.bare])

/-- A retirement deletes the executable that its own backend was started from. -/
structure Machine.Deletes (b : Books) (s t : Machine) (h : Handle) : Prop where
  /-- This is all that it does to the files. -/
  removed : s.tree.removeFile (s.slot h.slot).exePath = .ok t.tree
  /-- The end of every backend of the slot has been seen. -/
  unused : ¬ s.InUse h.slot
  /-- The backend has ended. -/
  ended : ∃ B, s.backends[h.backend]? = some B ∧ B.slot = h.slot ∧ B.status ≠ none
  /-- Nothing has been built into the slot since the backend was started. -/
  own : b.launched h.backend = b.editions h.slot

/-- Whatever happens next, executables that may run stay as they are. -/
structure Machine.KeepsExecutables (b : Books) (s : Machine) : Prop where
  /-- A backend that runs uses its slot. -/
  running : ∀ (k : ℕ) (B : Backend), s.backends[k]? = some B → B.status = none → s.InUse B.slot
  /-- Executables of different slots have different names. -/
  apart : ∀ i < s.slots.length, ∀ j < s.slots.length, i ≠ j →
    fileName? (s.slot i).exePath ≠ fileName? (s.slot j).exePath
  /-- A rotation whose slot is in use does nothing to the files. -/
  waits : ∀ world t, s.apply (.proceed world) = some t → s.InUse s.position.current →
    t.tree = s.tree
  /-- At no time does a rotation write to or remove anything that has the name of an executable in
  use, whatever the toolchain does in the directory of the project. -/
  spares : ∀ world t, s.apply (.proceed world) = some t →
    Edits (world.toolchain.Does s.current.exePath)
      (fun path => ∀ i, s.InUse i → fileName? path ≠ fileName? (s.slot i).exePath) s.tree t.tree
  /-- A retirement does nothing to the files but delete the executable of its own backend. -/
  deletes : ∀ i t, s.apply (.retire i) = some t → t.tree ≠ s.tree →
    ∃ r, s.retirements[i]? = some r ∧ s.Deletes b t r.handle

/-- What the names of executables are, and that they differ. -/
theorem Machine.Custody.fileName?_exePath_ne (h : s.Custody b) {i j : ℕ}
    (hi : i < s.slots.length) (hj : j < s.slots.length) (hij : i ≠ j) :
    fileName? (s.slot i).exePath ≠ fileName? (s.slot j).exePath := by
  rw [h.exePath_slot hi, h.exePath_slot hj, fileName?_executablePath, fileName?_executablePath]
  exact fun heq => hij (Text.numbered_injective _ (Option.some.inj heq))

/-- What the custody means for a rotation. -/
theorem Machine.Custody.spares (h : s.Custody b) (htask : s.task = some st)
    (hhandling : Handling world s st t) :
    Edits (world.toolchain.Does s.current.exePath)
      (fun path => ∀ i, s.InUse i → fileName? path ≠ fileName? (s.slot i).exePath)
      s.tree t.tree := by
  cases hbuilds : st.builds with
  | false => exact hhandling.quiet hbuilds ▸ .rest
  | true =>
      have hunused := h.not_inUse_of_builds htask hbuilds
      refine hhandling.edits.mono (fun _ _ => id) fun path hpath i hi => ?_
      have hlt := h.sound.lt_length_of_inUse h.watched hi
      rw [current, h.exePath_slot h.sound.current] at hpath
      rw [h.exePath_slot hlt]
      refine fileName?_ne_of_mayWriteAt ?_ hpath
      rintro rfl
      exact hunused hi

/-- What the custody means for a retirement. -/
theorem Machine.Custody.deletes (h : s.Custody b) {i : ℕ} {r : Retirement}
    (hr : s.retirements[i]? = some r) (hnext : r.next = .delete)
    (hremove : s.tree.removeFile (s.slot r.handle.slot).exePath = .ok t.tree) :
    s.Deletes b t r.handle := by
  have hmem := List.mem_of_getElem? hr
  have hpossession : r.handle.inStage [.cleaning] 4 ∈ s.possessions := by
    refine List.mem_append_right _ (List.mem_append_right _ (List.mem_filterMap.mpr ⟨r, hmem, ?_⟩))
    rw [Retirement.possession?, hnext]
    rfl
  have hunused : ¬ s.InUse r.handle.slot := by
    refine h.sound.not_inUse h.watched hpossession fun k hk => ?_
    obtain rfl := Option.some.inj hk
    simp [Handle.inStage, Handle.life]
  have hheld := h.sound.owned.held _ hpossession
  obtain ⟨B, hB, hslot, -⟩ := (hheld.occupies r.handle.backend rfl).exists_backend
  refine ⟨hremove, hunused, ⟨B, hB, hslot, fun hstatus => ?_⟩, ?_⟩
  · have hinUse := h.sound.inUse_of_running hB hstatus
    rw [hslot] at hinUse
    exact hunused hinUse
  · exact h.supplied.retained _ (Or.inr ⟨r, hmem, rfl, by simp [hnext]⟩)

/-- What the custody means for what happens next. -/
theorem Machine.Custody.keepsExecutables (h : s.Custody b) : s.KeepsExecutables b where
  running k B hB hstatus := h.sound.inUse_of_running hB hstatus
  apart i hi j hj hij := h.fileName?_exePath_ne hi hj hij
  waits world t heq hinUse := by
    obtain ⟨u, hu, rfl⟩ := Option.map_eq_some_iff.mp heq
    obtain ⟨st, htask, hcarry⟩ := Option.bind_eq_some_iff.mp hu
    refine (carryOut_handling htask h.housed hcarry).quiet ?_
    rw [← Bool.not_eq_true]
    exact fun hbuilds => h.not_inUse_of_builds htask hbuilds hinUse
  spares world t heq := by
    obtain ⟨u, hu, rfl⟩ := Option.map_eq_some_iff.mp heq
    obtain ⟨st, htask, hcarry⟩ := Option.bind_eq_some_iff.mp hu
    have hspares := h.spares htask (carryOut_handling htask h.housed hcarry)
    exact hspares
  deletes i t heq hne := by
    obtain ⟨u, hu, rfl⟩ := Option.map_eq_some_iff.mp heq
    obtain ⟨r, following, v, hr, hv, rfl⟩ := Machine.exists_of_retireAt hu
    obtain ⟨hnext, hremove⟩ := (retire_files hv).2.resolve_left hne
    exact ⟨r, hr, h.deletes hr hnext hremove⟩

end LivePages.Ring
