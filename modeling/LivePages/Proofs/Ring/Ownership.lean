import Mathlib.Data.List.Perm.Basic
import LivePages.Proofs.Config.Validation
import LivePages.Proofs.Except
import LivePages.Proofs.Ring.Step

/-!
# Slot Ownership

Whatever rotations, retirements and shutdowns do, and in whatever order their statements come,
the lock of a slot decides who may do something to it. So the states of a slot only change in
the allowed ways, a slot that is not idle has an owner, a slot without an owner is idle and
nothing runs in it, and never do two processes run that were started from one slot.

## Main results

* `Machine.Sound`: the invariant of the ring. What all the tasks know is right.
* `Machine.Sound.apply`: no move violates it.
* `Machine.Sound.run`: it holds in every state that the ring comes to.
* `slots_owned`: what it says about the slots. The sample run is one of two rotations.
-/

namespace LivePages.Ring

/-! ### Runs -/

/-- What no move of a run violates holds at its end. -/
theorem Machine.run_induction {P : Machine → Prop} {moves : List Move}
    (hstep : ∀ m ∈ moves, ∀ s t, P s → s.apply m = some t → P t) {s t : Machine} (hs : P s)
    (hrun : s.run moves = some t) : P t := by
  induction moves generalizing s with
  | nil =>
      obtain rfl := Option.some.inj hrun
      exact hs
  | cons m moves ih =>
      obtain ⟨u, hu, hrest⟩ := Option.bind_eq_some_iff.mp hrun
      refine ih (fun m' hm' => hstep m' (List.mem_cons_of_mem _ hm')) ?_ hrest
      exact hstep m List.mem_cons_self s u hs hu

/-! ### The configuration -/

/-- The ports of an accepted configuration are two or more different ones. -/
theorem ports_of_validate {config : Config} (h : config.validate = .ok ()) :
    2 ≤ config.backend.ports.length ∧ config.backend.ports.Nodup :=
  (Config.validate_eq_ok_iff.mp h).2

/-- A new ring is that of an accepted configuration. -/
theorem Machine.new_eq_ok {config : Config} {tree : Files.Tree} {clock : Files.Time}
    {s : Machine} (h : Machine.new config tree clock = .ok s) :
    config.validate = .ok () ∧ s = { config, tree, clock, slots := Slot.ring config } := by
  rw [Machine.new] at h
  split at h
  · rename_i hvalid
    exact ⟨hvalid, (Except.ok.inj h).symm⟩
  · exact absurd h (by simp)

/-- There is a new ring if the configuration is accepted. -/
theorem Machine.new_of_mem_toOption {config : Config} {tree : Files.Tree} {clock : Files.Time}
    {s : Machine} (h : s ∈ (Machine.new config tree clock).toOption) :
    Machine.new config tree clock = .ok s :=
  eq_ok_of_mem_toOption h

/-- A ring has a slot for every port. -/
theorem Slot.length_ring (config : Config) :
    (Slot.ring config).length = config.backend.ports.length := by
  rw [Slot.ring, List.length_map, List.length_zipIdx, BackendConfig.addrs, List.length_map]

/-- The slots of a new ring are idle and unlocked. -/
theorem Slot.of_mem_ring {config : Config} {slot : Slot} (h : slot ∈ Slot.ring config) :
    slot.phase = .idle ∧ slot.locked = false := by
  obtain ⟨p, -, rfl⟩ := List.mem_map.mp h
  exact ⟨rfl, rfl⟩

/-! ### The invariant -/

/-- What the tasks know is right, and the ring stands at one of its slots. -/
structure Machine.Sound (s : Machine) : Prop where
  /-- Every slot has at most one owner, who knows about it. -/
  owned : Owned s.scene s.possessions
  /-- All changes of state are on record. -/
  recorded : ∀ i, (s.scene.slot i).phase = phaseOf s.deeds i
  /-- The ring stands at a slot. -/
  current : s.position.current < s.slots.length

/-- A new ring has no owners. -/
theorem Machine.Sound.new {config : Config} {tree : Files.Tree} {clock : Files.Time}
    {s : Machine} (h : Machine.new config tree clock = .ok s) : s.Sound := by
  obtain ⟨hvalid, rfl⟩ := Machine.new_eq_ok h
  have hslot (i : ℕ) : (Scene.slot ⟨Slot.ring config, [], []⟩ i).phase = .idle ∧
      (Scene.slot ⟨Slot.ring config, [], []⟩ i).locked = false := by
    rw [Scene.slot, List.getD_eq_getElem?_getD]
    cases hget : (Slot.ring config)[i]? with
    | none => exact ⟨rfl, rfl⟩
    | some slot => exact Slot.of_mem_ring (List.mem_of_getElem? hget)
  refine ⟨⟨List.nodup_nil, ?_, ?_, ?_⟩, fun i => (hslot i).1, ?_⟩
  · intro o ho
    exact absurd ho List.not_mem_nil
  · intro i _
    refine ⟨(hslot i).2, (hslot i).1, ?_⟩
    intro b B hB
    exact absurd hB (by simp [Machine.scene])
  · intro d hd
    exact absurd hd List.not_mem_nil
  · show 0 < (Slot.ring config).length
    rw [Slot.length_ring]
    have := (ports_of_validate hvalid).1
    omega

variable {s t : Machine} {strict : Bool} {st : Statement}

/-- The number of slots stays as it is. -/
theorem Acts.length_slots {m m' : Option Possession} {c c' : Scene}
    (ha : Acts strict m c m' c') : c'.slots.length = c.slots.length := by
  have := congrArg List.length ha.addrs
  rwa [List.length_map, List.length_map] at this

/-- The possessions of a ring whose task acts. -/
theorem Machine.possessions_of_task {s : Machine} {st : Statement} (h : s.task = some st) :
    s.possessions = (st.possession? s.position.current).toList ++
      ((s.live.map (·.live)).toList ++ s.retirements.filterMap (·.possession?)) := by
  rw [possessions, taskPossession?, h]
  rfl

/-- The live backend has an owner. -/
theorem Machine.mem_possessions_of_live {h : Handle} (hlive : s.live = some h) :
    h.live ∈ s.possessions := by
  rw [possessions, hlive]
  exact List.mem_append_right _ List.mem_cons_self

/-- When a backend takes the place of the live one, the possessions change hands, and stay. -/
theorem Machine.possessions_handOver {b : ℕ} (htask : s.task = some (.handOver b))
    (htask' : t.task = some .turn) (hlive : t.live = some (s.handleOf b))
    (hretirements : t.retirements =
      s.retirements ++ (s.live.map fun h => { handle := h }).toList) :
    s.possessions.Perm t.possessions := by
  rw [Machine.possessions_of_task htask, Machine.possessions_of_task htask', hlive, hretirements,
    List.filterMap_append]
  cases s.live with
  | none => exact List.Perm.of_eq (by simp [Statement.possession?]; rfl)
  | some old => exact (List.perm_append_singleton old.live _).symm.cons _

/-- The states and the record belong to the scene. -/
theorem Machine.scene_recorded (hscene : t.scene = s.scene)
    (h : ∀ i, (s.scene.slot i).phase = phaseOf s.deeds i) (i : ℕ) :
    (t.scene.slot i).phase = phaseOf t.deeds i := by
  rw [show t.deeds = s.deeds from congrArg (·.deeds) hscene, hscene]
  exact h i

/-- A statement of the task that has the ring is an act of an owner, whoever the owners are
afterwards. -/
theorem TaskStep.exists_acts (hstep : TaskStep strict s st t) (htask : s.task = some st) :
    ∃ m m' os, s.possessions.Perm (m.toList ++ os) ∧ t.possessions.Perm (m'.toList ++ os) ∧
      Acts strict m s.scene m' t.scene := by
  have hbefore := Machine.possessions_of_task htask
  cases hstep with
  | works next htask' hsame _ _ hacts =>
      refine ⟨_, _, _, .of_eq hbefore, .of_eq ?_, hacts⟩
      rw [Machine.possessions, Machine.taskPossession?, htask', hsame.live, hsame.retirements,
        hsame.position]
  | publishes b hst htask' hlive hretirements hposition _ _ hacts =>
      refine ⟨_, _, _, .of_eq hbefore, .of_eq ?_, hacts⟩
      rw [Machine.possessions_of_task htask', hlive, hretirements, hposition]
      rfl
  | handsOver b hst htask' hlive hretirements hposition _ hscene =>
      subst hst
      exact ⟨none, none, s.possessions, .refl _,
        (Machine.possessions_handOver htask htask' hlive hretirements).symm, hscene ▸ .rest⟩
  | turns hst htask' hlive hretirements _ _ hscene =>
      subst hst
      refine ⟨none, none, s.possessions, .refl _, .of_eq ?_, hscene ▸ .rest⟩
      rw [Machine.possessions_of_task htask', hbefore, hlive, hretirements]
      rfl
  | stops old hst hlive htask' hlive' hretirements hposition hscene =>
      subst hst
      refine ⟨none, none, s.possessions, .refl _, .of_eq ?_, hscene ▸ .rest⟩
      rw [Machine.possessions_of_task htask', hbefore, hlive, hlive', hretirements]
      rfl

/-- An act of an owner keeps the invariant, whoever the owners are afterwards. -/
theorem Machine.Sound.of_acts {m m' : Option Possession} {os : List Possession} (h : s.Sound)
    (hbefore : s.possessions.Perm (m.toList ++ os)) (hafter : t.possessions.Perm (m'.toList ++ os))
    (hacts : Acts strict m s.scene m' t.scene)
    (hcurrent : t.position.current < s.slots.length) : t.Sound := by
  have howned := h.owned.perm hbefore
  exact ⟨(howned.acts hacts).perm hafter.symm, hacts.recorded howned h.recorded,
    Nat.lt_of_lt_of_eq hcurrent hacts.length_slots.symm⟩

/-- The ring stands at a slot after a statement of its task. -/
theorem TaskStep.current_lt (hstep : TaskStep strict s st t)
    (h : s.position.current < s.slots.length) : t.position.current < s.slots.length := by
  cases hstep with
  | works _ _ hsame =>
      rw [hsame.position]
      exact h
  | publishes _ _ _ _ _ hposition | handsOver _ _ _ _ _ hposition | stops _ _ _ _ _ _ hposition =>
      rw [hposition]
      exact h
  | turns _ _ _ _ hposition =>
      rw [hposition]
      exact Nat.mod_lt _ (Nat.zero_lt_of_lt h)

/-- **No statement of the task that has the ring violates the invariant.** -/
theorem TaskStep.sound (hstep : TaskStep strict s st t) (htask : s.task = some st)
    (h : s.Sound) : t.Sound := by
  obtain ⟨m, m', os, hbefore, hafter, hacts⟩ := hstep.exists_acts htask
  exact h.of_acts hbefore hafter hacts (hstep.current_lt h.current)

/-- The retirements after one of them has carried out a statement. -/
def Retirement.goOn (rs : List Retirement) (i : ℕ) (r : Retirement) :
    Option Retiring → List Retirement
  | some next => rs.set i { r with next }
  | none => rs.eraseIdx i

/-- The retirements with one of them first. -/
theorem Retirement.perm_eraseIdx {rs : List Retirement} {i : ℕ} {r : Retirement}
    (h : rs[i]? = some r) : rs.Perm (r :: rs.eraseIdx i) := by
  obtain ⟨hi, rfl⟩ := List.getElem?_eq_some_iff.mp h
  exact (List.getElem_cons_eraseIdx_perm hi).symm

/-- The retirements after one of them has gone on, this one first. -/
theorem Retirement.goOn_perm_eraseIdx {rs : List Retirement} {i : ℕ} {r : Retirement}
    (h : rs[i]? = some r) (following : Option Retiring) : (goOn rs i r following).Perm
      ((following.map fun next => { r with next }).toList ++ rs.eraseIdx i) := by
  cases following with
  | none => exact List.Perm.refl _
  | some next => exact List.set_perm_cons_eraseIdx (List.getElem?_eq_some_iff.mp h).1 _

/-- What the retirements know, one of them first. -/
theorem Retirement.perm_of_getElem? {α : Type} (f : Retirement → Option α) {rs : List Retirement}
    {i : ℕ} {r : Retirement} (h : rs[i]? = some r) :
    (rs.filterMap f).Perm ((f r).toList ++ (rs.eraseIdx i).filterMap f) := by
  refine ((perm_eraseIdx h).filterMap f).trans ?_
  rw [List.filterMap_cons]
  cases f r <;> exact List.Perm.refl _

/-- What the retirements know after one of them has gone on, this one first. -/
theorem Retirement.goOn_perm {α : Type} (f : Retirement → Option α) {rs : List Retirement} {i : ℕ}
    {r : Retirement} (h : rs[i]? = some r) (following : Option Retiring) :
    ((goOn rs i r following).filterMap f).Perm
      ((following.bind fun next => f { r with next }).toList ++ (rs.eraseIdx i).filterMap f) := by
  refine ((goOn_perm_eraseIdx h following).filterMap f).trans ?_
  rw [List.filterMap_append]
  cases following with
  | none => exact List.Perm.refl _
  | some next =>
      rw [Option.map_some, Option.toList_some, List.filterMap_cons, Option.bind_some]
      cases f { r with next } <;> exact List.Perm.refl _

/-- The same backends are retired as before, or fewer. -/
theorem Retirement.exists_of_mem_goOn {rs : List Retirement} {i : ℕ} {r q : Retirement}
    {following : Option Retiring} (h : rs[i]? = some r) (hq : q ∈ goOn rs i r following) :
    ∃ p ∈ rs, p.handle = q.handle := by
  cases following with
  | none => exact ⟨q, List.mem_of_mem_eraseIdx hq, rfl⟩
  | some next =>
      rcases List.mem_or_eq_of_mem_set hq with hq | rfl
      · exact ⟨q, hq, rfl⟩
      · exact ⟨r, List.mem_of_getElem? h, rfl⟩

/-- A statement of a retirement, and the retirements that are left. -/
theorem Machine.exists_of_retireAt {i : ℕ} (heq : s.retireAt i = some t) :
    ∃ r following u, s.retirements[i]? = some r ∧
      s.retire r.handle r.next = some (u, following) ∧
      t = { u with retirements := Retirement.goOn u.retirements i r following } := by
  obtain ⟨r, hr, hrest⟩ := Option.bind_eq_some_iff.mp heq
  obtain ⟨⟨u, following⟩, hu, hlast⟩ := Option.bind_eq_some_iff.mp hrest
  refine ⟨r, following, u, hr, hu, ?_⟩
  cases following <;> exact (Option.some.inj hlast).symm

/-- What comes first in the last of three lists may come first of all. -/
theorem perm_append_of_perm {α : Type} {l₁ l₂ l₃ first rest : List α}
    (h : l₃.Perm (first ++ rest)) :
    (l₁ ++ (l₂ ++ l₃)).Perm (first ++ (l₁ ++ (l₂ ++ rest))) := by
  refine ((h.append_left _).append_left _).trans ?_
  exact ((List.perm_append_comm_assoc _ _ _).append_left _).trans
    (List.perm_append_comm_assoc _ _ _)

/-- The possessions of a ring with those of a retirement first. -/
theorem Machine.possessions_perm {m : Option Possession} {rest : List Possession}
    (h : (s.retirements.filterMap (·.possession?)).Perm (m.toList ++ rest)) :
    s.possessions.Perm (m.toList ++
      (s.taskPossession?.toList ++ ((s.live.map (·.live)).toList ++ rest))) :=
  perm_append_of_perm h

/-- What a retirement does with a statement: it acts upon its own slot, and nothing else
changes. -/
structure RetireStep (strict : Bool) (s t : Machine) (m m' : Option Possession)
    (os : List Possession) : Prop where
  before : s.possessions.Perm (m.toList ++ os)
  after : t.possessions.Perm (m'.toList ++ os)
  acts : Acts strict m s.scene m' t.scene
  task : t.task = s.task
  live : t.live = s.live
  position : t.position = s.position
  published : t.published = s.published
  clock : t.clock = s.clock
  /-- The same backends are retired, or fewer. -/
  handles : ∀ r ∈ t.retirements, ∃ q ∈ s.retirements, q.handle = r.handle

/-- **What a retirement does with a statement.** Strictly taken it is one of a backend that has a
successor. -/
theorem Machine.retireAt_step (strict : Bool) {i : ℕ}
    (hstrict : strict = true → ∀ r ∈ s.retirements, Succeeded s.deeds r.handle)
    (heq : s.retireAt i = some t) : ∃ m m' os, RetireStep strict s t m m' os := by
  obtain ⟨r, following, u, hr, hu, rfl⟩ := Machine.exists_of_retireAt heq
  obtain ⟨htask, hsame, hacts⟩ :=
    retire_acts (fun hs => hstrict hs r (List.mem_of_getElem? hr)) hu
  have hafter := Machine.possessions_perm
    (s := { u with retirements := Retirement.goOn u.retirements i r following })
    (Retirement.goOn_perm (·.possession?) (hsame.retirements ▸ hr) following)
  have hpossession : u.taskPossession? = s.taskPossession? := by
    rw [taskPossession?, taskPossession?, htask, hsame.position]
  refine ⟨r.possession?, _, _, Machine.possessions_perm (Retirement.perm_of_getElem? _ hr), ?_,
    hacts, htask, hsame.live, hsame.position, hsame.published, hsame.clock, ?_⟩
  · rw [← hpossession, ← hsame.live, ← hsame.retirements]
    exact hafter
  · intro q hq
    obtain ⟨p, hp, heq⟩ := Retirement.exists_of_mem_goOn (hsame.retirements ▸ hr) hq
    exact ⟨p, hsame.retirements ▸ hp, heq⟩

/-- **No statement of a retirement violates the invariant.** -/
theorem RetireStep.sound {m m' : Option Possession} {os : List Possession}
    (hstep : RetireStep strict s t m m' os) (h : s.Sound) : t.Sound :=
  h.of_acts hstep.before hstep.after hstep.acts (hstep.position ▸ h.current)

/-- A change of what nobody possesses. -/
theorem Machine.Sound.congr (h : s.Sound) (hscene : t.scene = s.scene)
    (hposition : t.position = s.position) (hlive : t.live = s.live)
    (hretirements : t.retirements = s.retirements)
    (htask : t.taskPossession? = s.taskPossession?) : t.Sound := by
  refine ⟨?_, Machine.scene_recorded hscene h.recorded, ?_⟩
  · rw [possessions, htask, hlive, hretirements, hscene]
    exact h.owned
  · rw [hposition]
    exact Nat.lt_of_lt_of_eq h.current (congrArg (·.slots.length) hscene).symm

/-- **No move violates the invariant.** -/
theorem Machine.Sound.apply (h : s.Sound) {m : Move} (heq : s.apply m = some t) : t.Sound := by
  obtain ⟨u, hu, rfl⟩ := Option.map_eq_some_iff.mp heq
  suffices hsound : u.Sound from hsound.congr rfl rfl rfl rfl rfl
  cases m with
  | begin | beginStop =>
      obtain ⟨hnone, hu⟩ := Option.ite_none_right_eq_some.mp hu
      obtain rfl := Option.some.inj hu
      refine h.congr rfl rfl rfl rfl ?_
      rw [taskPossession?, taskPossession?, Option.isNone_iff_eq_none.mp hnone]
      rfl
  | proceed world =>
      obtain ⟨st, htask, hcarry⟩ := Option.bind_eq_some_iff.mp hu
      exact (carryOut_step false (by simp) h.current hcarry).sound htask h
  | retire i =>
      obtain ⟨m, m', os, hstep⟩ := Machine.retireAt_step false (by simp) hu
      exact hstep.sound h
  | exit b status =>
      obtain ⟨B, hB, hrest⟩ := Option.bind_eq_some_iff.mp hu
      split at hrest
      · exact absurd hrest (by simp)
      · obtain rfl := Option.some.inj hrest
        exact ⟨h.owned.exit b status, h.recorded, h.current⟩
  | change tree =>
      obtain rfl := Option.some.inj hu
      exact h.congr rfl rfl rfl rfl rfl

/-- The invariant holds in every state that a ring comes to. -/
theorem Machine.Sound.of_run {config : Config} {tree : Files.Tree} {clock : Files.Time}
    {moves : List Move} (hnew : Machine.new config tree clock = .ok s)
    (hrun : s.run moves = some t) : t.Sound :=
  Machine.run_induction (fun _ _ _ _ h heq => h.apply heq) (.new hnew) hrun

/-! ### The slots -/

/-- The slots are used as they should be. -/
structure Machine.Tended (s : Machine) : Prop where
  /-- All changes of state are on record. -/
  recorded : ∀ i, (s.slot i).phase = phaseOf s.deeds i
  /-- All changes of state so far were allowed ones. -/
  allowed : ∀ i p q, .moved i p q ∈ s.deeds → p.allows q = true
  /-- A slot that is not idle has an owner. -/
  locked : ∀ i, (s.slot i).phase ≠ .idle → (s.slot i).locked = true
  /-- A slot without an owner is idle. -/
  idle : ∀ i, (s.slot i).locked = false → (s.slot i).phase = .idle
  /-- Nothing runs in a slot without an owner. -/
  ended : ∀ i, (s.slot i).locked = false → ∀ (b : ℕ) (B : Backend),
    s.backends[b]? = some B → B.slot = i → B.status ≠ none
  /-- Of the processes started from a slot one runs at most. -/
  alone : ∀ (b k : ℕ) (A B : Backend), s.backends[b]? = some A → s.backends[k]? = some B →
    A.slot = B.slot → A.status = none → B.status = none → b = k

/-- A slot has an owner or is free. -/
theorem Owned.cases {c : Scene} {os : List Possession} (h : Owned c os) (i : ℕ) :
    (∃ o ∈ os, o.slot = i ∧ Holds c o) ∨ Free c i := by
  by_cases hi : i ∈ os.map (·.slot)
  · obtain ⟨o, ho, rfl⟩ := List.mem_map.mp hi
    exact Or.inl ⟨o, ho, rfl, h.held o ho⟩
  · exact Or.inr (h.free i hi)

/-- What the invariant says about the slots. -/
theorem Machine.Sound.tended (h : s.Sound) : s.Tended where
  recorded := h.recorded
  allowed i p q hmem := (h.owned.proper _ hmem).allowed i p q rfl
  locked i hphase := by
    rcases h.owned.cases i with ⟨o, -, rfl, hheld⟩ | hfree
    · exact hheld.locked
    · exact absurd hfree.idle hphase
  idle i hunlocked := by
    rcases h.owned.cases i with ⟨o, -, rfl, hheld⟩ | hfree
    · exact absurd (hunlocked.symm.trans hheld.locked) Bool.false_ne_true
    · exact hfree.idle
  ended i hunlocked := by
    rcases h.owned.cases i with ⟨o, -, rfl, hheld⟩ | hfree
    · exact absurd (hunlocked.symm.trans hheld.locked) Bool.false_ne_true
    · exact hfree.ended
  alone b k A B hA hB hslot hAstatus hBstatus := by
    rcases h.owned.cases B.slot with ⟨o, -, ho, hheld⟩ | hfree
    · have hb := (hheld.running b A hA (hslot.trans ho.symm) hAstatus).1
      have hk := (hheld.running k B hB ho.symm hBstatus).1
      exact Option.some.inj (hb.symm.trans hk)
    · exact absurd hBstatus (hfree.ended k B hB rfl)

/-- **Slot ownership.** In every state that the ring of an accepted configuration comes to, by
rotations, retirements and shutdowns in any order of their statements, the states of the slots
have only been changed in allowed ways, all on record, the lock of a slot that is not idle is
held, a slot whose lock is free is idle and nothing runs in it, and of the processes started from
one slot no two run. -/
theorem slots_owned {config : Config} {tree : Files.Tree} {clock : Files.Time}
    {moves : List Move} (hnew : Machine.new config tree clock = .ok s)
    (hrun : s.run moves = some t) : t.Tended :=
  (Machine.Sound.of_run hnew hrun).tended

namespace Sample

/-- Two slots, and no probe. -/
def config : Config :=
  { runtimeCrate := "/rt", webRoot := "/web", srcDir := "/src", exeDir := "/exe"
    targetDir := "/target", tmpDir := some "/tmp"
    backend := { ports := [1, 2], readyTimeout := 0 } }

/-- A site of one page, with a text and a time. -/
def site (text : Char) (time : Files.Time) : Files.Tree :=
  { nodes := [(["web"], .directory 0),
      (["web", "i.rsp"], .file (Text.Utf8.encode [text]) time false)] }

/-- A toolchain that always makes an executable, and processes that stay up. -/
def world : World where
  toolchain dir _ := do
    Build.Work.writeText (Files.Path.join dir "out") "x"
    return Files.Path.join dir "out"
  spawner _ _ _ := .ok none
  network := .isolated

/-- A whole rotation. -/
def rotation : List Move :=
  .begin :: List.replicate 23 (.proceed world)

/-- Two rotations with a change of the site between them, and the retirement of the backend that
was replaced. -/
def moves : List Move :=
  rotation ++ [.change (site 'b' 34)] ++ rotation ++ List.replicate 5 (.retire 0) ++
    [.exit 0 (.killed 9)] ++ List.replicate 8 (.retire 0)

/-- The two rotations and the retirement are possible. -/
theorem exists_run : ∃ s t, Machine.new config (site 'a' 3) 10 = .ok s ∧
    s.run moves = some t ∧ t.published.current = some "127.0.0.1:2" := by
  obtain ⟨s, hs, t, hrun, hpublished⟩ :
      ∃ s ∈ (Machine.new config (site 'a' 3) 10).toOption, ∃ t ∈ s.run moves,
        t.published.current = some "127.0.0.1:2" := by
    decide +kernel
  exact ⟨s, t, Machine.new_of_mem_toOption hs, hrun, hpublished⟩

end Sample

/-- A ring that rotates twice. -/
theorem slots_owned_rotating : ∃ s t, Machine.new Sample.config (Sample.site 'a' 3) 10 = .ok s ∧
    s.run Sample.moves = some t ∧ t.Tended := by
  obtain ⟨s, t, hnew, hrun, -⟩ := Sample.exists_run
  exact ⟨s, t, hnew, hrun, slots_owned hnew hrun⟩

end LivePages.Ring
