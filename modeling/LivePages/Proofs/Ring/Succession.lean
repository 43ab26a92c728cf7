import LivePages.Proofs.Files.Join
import LivePages.Proofs.Ring.Ownership

/-!
# Succession of Backends

As long as the ring is not stopped, the published address is that of a live backend, and a backend
is only killed when another one has been published in its place. What is done to a backend is done
in the order of its life, whatever the toolchain and the spawner do and however the statements of
the rotations and of the retirements follow each other.

## Main results

* `Machine.Relay`: the invariant of a ring that is not stopped. The published address is that of
  the backend in front, and whoever is being replaced has a successor.
* `Machine.Relay.apply`: no move but a shutdown violates it.
* `zero_downtime`: what it says about the published backend and about the replaced ones.
-/

namespace LivePages.Ring

/-! ### Addresses -/

/-- Different ports make different addresses. -/
theorem addr_injective (host : String) :
    Function.Injective fun port : ℕ => s!"{host}:{port}" :=
  Text.numbered_injective (host ++ ":")

/-- The addresses of the slots of a configuration. -/
theorem Slot.map_addr_ring (config : Config) :
    (Slot.ring config).map (·.addr) = config.backend.addrs := by
  rw [Slot.ring, List.map_map]
  exact List.zipIdx_map_fst 0 _

/-- No two slots of an accepted configuration have the same address. -/
theorem Slot.nodup_addr_ring {config : Config} (h : config.validate = .ok ()) :
    ((Slot.ring config).map (·.addr)).Nodup := by
  rw [Slot.map_addr_ring, BackendConfig.addrs]
  exact (ports_of_validate h).2.map (addr_injective _)

variable {s t : Machine} {st : Statement}

/-- The address of a slot only depends on the addresses of the slots. -/
theorem Machine.addr_slot (h : t.slots.map (·.addr) = s.slots.map (·.addr)) (i : ℕ) :
    (t.slot i).addr = (s.slot i).addr := by
  have hget (u : Machine) : (u.slot i).addr = ((u.slots.map (·.addr))[i]?).getD "" := by
    rw [slot, List.getD_eq_getElem?_getD, List.getElem?_map]
    cases u.slots[i]? <;> rfl
  rw [hget, hget, h]

/-- Slots of different addresses are told apart by them. -/
theorem Machine.eq_of_addr_eq (h : (s.slots.map (·.addr)).Nodup) {i j : ℕ}
    (hi : i < s.slots.length) (hj : j < s.slots.length)
    (heq : (s.slot i).addr = (s.slot j).addr) : i = j := by
  have hget {k : ℕ} (hk : k < s.slots.length) :
      (s.slots.map (·.addr))[k]? = some (s.slot k).addr := by
    rw [slot, List.getD_eq_getElem?_getD, List.getElem?_map, List.getElem?_eq_getElem hk]
    rfl
  have hlen : i < (s.slots.map (·.addr)).length := by
    rw [List.length_map]
    exact hi
  rw [← List.getElem?_inj hlen h, hget hi, hget hj, heq]

/-! ### The invariant -/

/-- The backend that requests are sent to: the one published last. -/
def Machine.front (s : Machine) : Option Handle :=
  match s.task.bind (·.fronting?) with
  | some b => some (s.handleOf b)
  | none => s.live

/-- A ring that is not stopped: one backend takes over from another. -/
structure Machine.Relay (s : Machine) : Prop where
  /-- What all the tasks know is right. -/
  sound : s.Sound
  /-- No shutdown has begun. -/
  going : ∀ st, s.task = some st → st.stops = false
  /-- What was done to the backends was done in the order of their courses. -/
  onCourse : ∀ h, OnCourse true h (Ring.trail s.deeds h)
  /-- No published backend was killed before it had a successor. -/
  relieved : Relieved s.deeds
  /-- The record of kills and ends is right. -/
  faithful : Faithful s.scene
  /-- Every published backend has an owner until it is given up. -/
  attended : ∀ h, .published h ∈ s.deeds → Attended s.deeds s.possessions h
  /-- Backends that are being retired have a successor. -/
  replaced : ∀ r ∈ s.retirements, Succeeded s.deeds r.handle
  /-- So does the live backend as soon as another one is published. -/
  replacing : ∀ st b h, s.task = some st → st.fronting? = some b → s.live = some h →
    Succeeded s.deeds h
  /-- The published address is that of the backend in front. -/
  published : s.published.current = s.front.map fun h => (s.slot h.slot).addr
  /-- No two slots have the same address. -/
  addrs : (s.slots.map (·.addr)).Nodup

/-- A new ring has published nothing. -/
theorem Machine.Relay.new {config : Config} {tree : Files.Tree} {clock : Files.Time}
    (h : Machine.new config tree clock = .ok s) : s.Relay := by
  have hsound := Machine.Sound.new h
  obtain ⟨hvalid, rfl⟩ := Machine.new_eq_ok h
  refine ⟨hsound, by simp, ?_, ?_, ⟨?_, ?_⟩, ?_, by simp, by simp, rfl,
    Slot.nodup_addr_ring hvalid⟩
  · exact fun h => onCourse_life_take true h 0
  · intro before h after heq
    exact absurd heq (by simp)
  · intro b B hB
    exact absurd hB (by simp [Machine.scene])
  · intro t ht
    exact absurd ht List.not_mem_nil
  · intro t ht
    exact absurd ht List.not_mem_nil

/-- What has a successor keeps it while the record grows. -/
theorem Succeeded.mono {deeds deeds' : List Deed} {h : Handle} (hs : Succeeded deeds h)
    (hpre : deeds <+: deeds') : Succeeded deeds' h := by
  obtain ⟨more, rfl⟩ := hpre
  exact hs.append more

/-- The backend in front is one whose owner knows that it is live. -/
theorem Machine.live_mem_possessions {h : Handle} (hfront : s.front = some h) :
    h.live ∈ s.possessions := by
  rw [front] at hfront
  cases htask : s.task with
  | none =>
      rw [htask] at hfront
      exact Machine.mem_possessions_of_live hfront
  | some st =>
      rw [htask] at hfront
      cases st with
      | announcePublication b | handOver b =>
          obtain rfl := Option.some.inj hfront
          rw [Machine.possessions_of_task htask]
          exact List.mem_append_left _ List.mem_cons_self
      | _ => exact Machine.mem_possessions_of_live hfront

/-- A live backend has been published. -/
theorem Owned.published_mem {c : Scene} {os : List Possession} {h : Handle} (ho : Owned c os)
    (hmem : h.live ∈ os) : .published h ∈ c.deeds := by
  have htrail : trail c.deeds h = h.life.take 2 :=
    ((ho.held _ hmem).occupies h.backend rfl).trail_eq
  rw [← mem_trail (h := h) rfl, htrail]
  exact List.mem_cons_of_mem _ List.mem_cons_self

/-- What acts preserve of the relay. -/
structure Machine.Kept (s t : Machine) : Prop where
  onCourse : ∀ h, OnCourse true h (Ring.trail t.deeds h)
  relieved : Relieved t.deeds
  faithful : Faithful t.scene
  deeds : s.deeds <+: t.deeds
  addrs : t.slots.map (·.addr) = s.slots.map (·.addr)

/-- An act keeps what has been done in order, and on record. -/
theorem Machine.Relay.kept (h : s.Relay) {m m' : Option Possession} {os : List Possession}
    (howned : Owned s.scene (m.toList ++ os)) (hacts : Acts true m s.scene m' t.scene) :
    s.Kept t where
  onCourse := hacts.onCourse howned h.onCourse
  relieved := hacts.relieved howned h.relieved
  faithful := hacts.faithful howned h.faithful
  deeds := hacts.deeds_isPrefix
  addrs := hacts.addrs

/-- What does not touch the scene keeps everything. -/
theorem Machine.Relay.kept_of_scene_eq (h : s.Relay) (hscene : t.scene = s.scene) :
    s.Kept t := by
  have hdeeds : t.deeds = s.deeds := congrArg (·.deeds) hscene
  refine ⟨?_, ?_, ?_, ?_, ?_⟩
  · rw [hdeeds]
    exact h.onCourse
  · rw [hdeeds]
    exact h.relieved
  · rw [hscene]
    exact h.faithful
  · exact hdeeds ▸ List.prefix_rfl
  · exact congrArg (·.slots.map (·.addr)) hscene

/-- The backend in front depends on the task, the live backend and the position. -/
theorem Machine.front_congr
    (hfronting : t.task.bind (·.fronting?) = s.task.bind (·.fronting?)) (hlive : t.live = s.live)
    (hposition : t.position = s.position) : t.front = s.front := by
  rw [front, front, hfronting, hlive]
  cases s.task.bind (·.fronting?) with
  | none => rfl
  | some b => exact congrArg (fun p : Position => some (Handle.mk p.current b)) hposition

/-- What is done while the same backend stays in front and the same ones are retired. -/
theorem Machine.Relay.congr (h : s.Relay) (hsound : t.Sound) (hkept : s.Kept t)
    (hgoing : ∀ st, t.task = some st → st.stops = false)
    (hatt : ∀ g, .published g ∈ t.deeds → Attended t.deeds t.possessions g)
    (hretirements : ∀ r ∈ t.retirements, ∃ q ∈ s.retirements, q.handle = r.handle)
    (hfronting : t.task.bind (·.fronting?) = s.task.bind (·.fronting?)) (hlive : t.live = s.live)
    (hfront : t.front = s.front) (hpublished : t.published = s.published) : t.Relay where
  sound := hsound
  going := hgoing
  onCourse := hkept.onCourse
  relieved := hkept.relieved
  faithful := hkept.faithful
  attended := hatt
  replaced r hr := by
    obtain ⟨q, hq, heq⟩ := hretirements r hr
    rw [← heq]
    exact (h.replaced q hq).mono hkept.deeds
  replacing st b g htask hb hg := by
    rw [htask] at hfronting
    obtain ⟨st', htask', hb'⟩ := Option.bind_eq_some_iff.mp (hfronting.symm.trans hb)
    exact (h.replacing st' b g htask' hb' (hlive ▸ hg)).mono hkept.deeds
  published := by
    rw [hpublished, hfront, h.published]
    exact Option.map_congr fun g _ => (Machine.addr_slot hkept.addrs g.slot).symm
  addrs := by
    rw [hkept.addrs]
    exact h.addrs

/-- **No statement of a rotation violates the invariant.** -/
theorem TaskStep.relay (hstep : TaskStep true s st t) (htask : s.task = some st)
    (h : s.Relay) : t.Relay := by
  have hsound := hstep.sound htask h.sound
  have howned := h.sound.owned
  rw [Machine.possessions_of_task htask] at howned
  have hatt := h.attended
  rw [Machine.possessions_of_task htask] at hatt
  cases hstep with
  | works next htask' hsame hfronting hstops hacts =>
      have hsame_fronting : t.task.bind (·.fronting?) = s.task.bind (·.fronting?) := by
        rw [htask', htask, hfronting]
        rfl
      refine h.congr hsound (h.kept howned hacts) ?_ ?_ ?_ hsame_fronting hsame.live
        (Machine.front_congr hsame_fronting hsame.live hsame.position) hsame.published
      · intro n hn
        rw [htask'] at hn
        cases hstop : n.stops with
        | false => rfl
        | true => exact (hstops n hn hstop).symm.trans (h.going st htask)
      · intro g hg
        rw [Machine.possessions, Machine.taskPossession?, htask', hsame.live, hsame.retirements,
          hsame.position]
        exact hacts.attended howned hatt g hg
      · intro r hr
        exact ⟨r, hsame.retirements ▸ hr, rfl⟩
  | publishes b hst htask' hlive hretirements hposition hpublished hdeeds hacts =>
      have hkept := h.kept howned hacts
      refine ⟨hsound, ?_, hkept.onCourse, hkept.relieved, hkept.faithful, ?_, ?_, ?_, ?_, ?_⟩
      · intro n hn
        rw [htask'] at hn
        obtain rfl := Option.some.inj hn
        rfl
      · intro g hg
        rw [Machine.possessions_of_task htask', hlive, hretirements, hposition]
        exact hacts.attended howned hatt g hg
      · intro r hr
        rw [hretirements] at hr
        exact (h.replaced r hr).mono hkept.deeds
      · -- the live backend was published, and so it has a successor now
        intro n k g _ _ hg
        rw [hlive] at hg
        rw [hdeeds]
        exact succeeded_concat
          (h.sound.owned.published_mem (Machine.mem_possessions_of_live hg)) _
      · rw [hpublished, Machine.front, htask']
        refine congrArg some ?_
        show _ = (t.slot t.position.current).addr
        rw [hposition, Machine.addr_slot hkept.addrs]
      · rw [hkept.addrs]
        exact h.addrs
  | handsOver b hst htask' hlive hretirements hposition hpublished hscene =>
      subst hst
      have hkept := h.kept_of_scene_eq hscene
      have hdeeds : t.deeds = s.deeds := congrArg (·.deeds) hscene
      refine ⟨hsound, ?_, hkept.onCourse, hkept.relieved, hkept.faithful, ?_, ?_, ?_, ?_, ?_⟩
      · intro n hn
        rw [htask'] at hn
        obtain rfl := Option.some.inj hn
        rfl
      · intro g hg
        rw [hdeeds] at hg ⊢
        exact (h.attended g hg).perm
          (Machine.possessions_handOver htask htask' hlive hretirements)
      · intro r hr
        rw [hretirements] at hr
        rw [hdeeds]
        rcases List.mem_append.mp hr with hr | hr
        · exact h.replaced r hr
        · obtain ⟨old, hold, rfl⟩ := Option.map_eq_some_iff.mp (Option.mem_toList.mp hr)
          exact h.replacing _ b old htask rfl hold
      · intro n k g hn hk
        rw [htask'] at hn
        obtain rfl := Option.some.inj hn
        exact absurd hk (by simp [Statement.fronting?])
      · rw [hpublished, h.published, Machine.front, Machine.front, htask, htask', hlive]
        refine congrArg some ?_
        exact (Machine.addr_slot hkept.addrs _).symm
      · rw [hkept.addrs]
        exact h.addrs
  | turns hst htask' hlive hretirements hposition hpublished hscene =>
      subst hst
      have hfronting : t.task.bind (·.fronting?) = s.task.bind (·.fronting?) := by
        rw [htask', htask]
        rfl
      refine h.congr hsound (h.kept_of_scene_eq hscene) ?_ ?_ ?_ hfronting hlive ?_ hpublished
      · intro n hn
        rw [htask'] at hn
        obtain rfl := Option.some.inj hn
        rfl
      · intro g hg
        rw [Machine.possessions_of_task htask', hlive, hretirements,
          show t.deeds = s.deeds from congrArg (·.deeds) hscene] at *
        exact hatt g hg
      · intro r hr
        exact ⟨r, hretirements ▸ hr, rfl⟩
      · rw [Machine.front, Machine.front, htask, htask', hlive]
        rfl
  | stops old hst =>
      subst hst
      exact absurd (h.going _ htask) (by simp [Statement.stops])

/-- **No statement of a retirement violates the invariant.** -/
theorem RetireStep.relay {m m' : Option Possession} {os : List Possession}
    (hstep : RetireStep true s t m m' os) (h : s.Relay) : t.Relay := by
  have howned := h.sound.owned.perm hstep.before
  have hfronting : t.task.bind (·.fronting?) = s.task.bind (·.fronting?) := by
    rw [hstep.task]
  refine h.congr (hstep.sound h.sound) (h.kept howned hstep.acts) ?_ ?_ hstep.handles hfronting
    hstep.live (Machine.front_congr hfronting hstep.live hstep.position) hstep.published
  · rw [hstep.task]
    exact h.going
  · intro g hg
    have hatt := hstep.acts.attended howned (fun g hg => (h.attended g hg).perm hstep.before) g hg
    exact hatt.perm hstep.after.symm

/-- Something happens to neither the slots nor the tasks nor the record. -/
theorem Machine.Relay.congr_quiet (h : s.Relay) (hsound : t.Sound) (hslots : t.slots = s.slots)
    (hdeeds : t.deeds = s.deeds) (hfaithful : Faithful t.scene)
    (hpossessions : t.possessions = s.possessions) (hretirements : t.retirements = s.retirements)
    (hgoing : ∀ st, t.task = some st → st.stops = false)
    (hfronting : t.task.bind (·.fronting?) = s.task.bind (·.fronting?)) (hlive : t.live = s.live)
    (hposition : t.position = s.position) (hpublished : t.published = s.published) :
    t.Relay := by
  have hkept : s.Kept t := by
    refine ⟨?_, ?_, hfaithful, ?_, ?_⟩
    · rw [hdeeds]
      exact h.onCourse
    · rw [hdeeds]
      exact h.relieved
    · exact hdeeds ▸ List.prefix_rfl
    · rw [hslots]
  refine h.congr hsound hkept hgoing ?_ ?_ hfronting hlive
    (Machine.front_congr hfronting hlive hposition) hpublished
  · rw [hdeeds, hpossessions]
    exact h.attended
  · intro r hr
    exact ⟨r, hretirements ▸ hr, rfl⟩

/-- **No move but a shutdown violates the invariant.** -/
theorem Machine.Relay.apply (h : s.Relay) {m : Move} (hm : m ≠ .beginStop)
    (heq : s.apply m = some t) : t.Relay := by
  have hsound := h.sound.apply heq
  obtain ⟨u, hu, rfl⟩ := Option.map_eq_some_iff.mp heq
  suffices hrelay : u.Sound → u.Relay by
    have hu := hrelay (hsound.congr rfl rfl rfl rfl rfl)
    exact hu.congr_quiet hsound rfl rfl hu.faithful rfl rfl hu.going rfl rfl rfl rfl
  intro hsound
  cases m with
  | begin =>
      obtain ⟨hnone, hu⟩ := Option.ite_none_right_eq_some.mp hu
      obtain rfl := Option.some.inj hu
      have htask : s.task = none := Option.isNone_iff_eq_none.mp hnone
      refine h.congr_quiet hsound rfl rfl h.faithful ?_ rfl ?_ ?_ rfl rfl rfl
      · rw [possessions, possessions, taskPossession?, taskPossession?, htask]
        rfl
      · intro st hst
        obtain rfl := Option.some.inj hst
        rfl
      · rw [htask]
        rfl
  | beginStop => exact absurd rfl hm
  | proceed world =>
      obtain ⟨st, htask, hcarry⟩ := Option.bind_eq_some_iff.mp hu
      have hstep := carryOut_step true (fun _ => h.going st htask) h.sound.current hcarry
      exact hstep.relay htask h
  | retire i =>
      obtain ⟨m, m', os, hstep⟩ := Machine.retireAt_step true (fun _ => h.replaced) hu
      exact hstep.relay h
  | exit b status =>
      obtain ⟨B, hB, hrest⟩ := Option.bind_eq_some_iff.mp hu
      split at hrest
      · exact absurd hrest (by simp)
      · obtain rfl := Option.some.inj hrest
        exact h.congr_quiet hsound rfl rfl (h.faithful.exit b status) rfl rfl h.going rfl rfl rfl
          rfl
  | change tree =>
      obtain rfl := Option.some.inj hu
      exact h.congr_quiet hsound rfl rfl h.faithful rfl rfl h.going rfl rfl rfl rfl

/-- The invariant holds in every state that a ring comes to which is not stopped. -/
theorem Machine.Relay.of_run {config : Config} {tree : Files.Tree} {clock : Files.Time}
    {moves : List Move} (hnew : Machine.new config tree clock = .ok s)
    (hstop : .beginStop ∉ moves) (hrun : s.run moves = some t) : t.Relay := by
  refine Machine.run_induction ?_ (.new hnew) hrun
  intro m hm u v hu heq
  refine hu.apply ?_ heq
  rintro rfl
  exact hstop hm

/-! ### The published backend and the replaced ones -/

/-- A slot serves: it is live and locked, and the process that was started from it last has not
been told to end. -/
structure Machine.Serves (s : Machine) (i : ℕ) : Prop where
  /-- The slot is live. -/
  live : (s.slot i).phase = .live
  /-- Its lock is held. -/
  locked : (s.slot i).locked = true
  /-- Its process was published and not killed. -/
  unkilled : ∃ (b : ℕ) (B : Backend), s.backends[b]? = some B ∧ B.slot = i ∧ B.killed = false ∧
    .published ⟨i, b⟩ ∈ s.deeds ∧ .killed ⟨i, b⟩ ∉ s.deeds ∧
    ∀ (k : ℕ) (A : Backend), s.backends[k]? = some A → A.slot = i → k ≤ b

/-- What is said of a backend that has been published, and may be replaced. -/
structure Machine.Succession (s : Machine) (h : Handle) : Prop where
  /-- It is started, published, killed, seen to have ended, its executable is deleted and its slot
  is given up: as much of this as was done was done once and in this order. -/
  course : trail s.deeds h <+: h.life
  /-- When it is killed, another backend has been published. -/
  succeeded : ∀ before after, s.deeds = before ++ .killed h :: after → Succeeded before h
  /-- It has ended when its end is seen. -/
  ended : .confirmed h ∈ s.deeds → ∃ B, s.backends[h.backend]? = some B ∧ B.status ≠ none
  /-- Its slot is locked until it is given up. -/
  locked : .unlocked h ∉ s.deeds → (s.slot h.slot).locked = true

/-- What the invariant says about the published address. -/
theorem Machine.Relay.serves (h : s.Relay) {i : ℕ} (hi : i < s.slots.length)
    (hpublished : s.published.current = some (s.slot i).addr) : s.Serves i := by
  rw [h.published] at hpublished
  obtain ⟨g, hfront, haddr⟩ := Option.map_eq_some_iff.mp hpublished
  have hmem := Machine.live_mem_possessions hfront
  have hheld := h.sound.owned.held _ hmem
  have hslot : g.slot < s.slots.length := Scene.lt_length_of_locked hheld.locked
  obtain rfl : g.slot = i := Machine.eq_of_addr_eq h.addrs hslot hi haddr
  obtain ⟨⟨B, hB, hBslot, hkilled⟩, hnew, htrail⟩ := hheld.occupies g.backend rfl
  have hnotKilled : .killed g ∉ g.live.trail := by simp [Handle.live, Handle.inStage, Handle.life]
  refine ⟨List.mem_singleton.mp hheld.phase, hheld.locked, g.backend, B, hB, hBslot, ?_, ?_, ?_,
    hnew⟩
  · exact Bool.eq_false_iff.mpr fun heq => hnotKilled (hkilled heq)
  · exact h.sound.owned.published_mem hmem
  · intro hin
    rw [← mem_trail (h := g) rfl] at hin
    exact hnotKilled (htrail ▸ hin)

/-- In a life the publication comes before the kill. -/
theorem published_mem_of_isPrefix {before after : List Deed} {h : Handle}
    (hcourse : trail (before ++ .killed h :: after) h <+: h.life) : .published h ∈ before := by
  obtain ⟨rest, hrest⟩ := hcourse
  rw [trail, List.filter_append, List.filter_cons_of_pos (by simp [Deed.handle?])] at hrest
  rw [← mem_trail (h := h) rfl, trail]
  rcases hbefore : before.filter fun d => d.handle? = some h with _ | ⟨d, _ | ⟨e, more⟩⟩
  · rw [hbefore] at hrest
    exact absurd (List.cons.inj hrest).1 (by simp)
  · rw [hbefore] at hrest
    exact absurd (List.cons.inj (List.cons.inj hrest).2).1 (by simp)
  · rw [hbefore] at hrest ⊢
    rw [(List.cons.inj (List.cons.inj hrest).2).1]
    exact List.mem_cons_of_mem _ List.mem_cons_self

/-- What the invariant says about a published backend. -/
theorem Machine.Relay.succession (h : s.Relay) {g : Handle} (hg : .published g ∈ s.deeds) :
    s.Succession g := by
  have hcourse := (h.onCourse g).isPrefix ((mem_trail rfl).mpr hg)
  refine ⟨hcourse, ?_, h.faithful.confirmed g, ?_⟩
  · intro before after heq
    rw [heq] at hcourse
    exact h.relieved before g after heq (published_mem_of_isPrefix hcourse)
  · intro hunlocked
    rcases h.attended g hg with hmem | ⟨o, ho, hslot, -⟩
    · exact absurd hmem hunlocked
    · rw [← hslot]
      exact (h.sound.owned.held o ho).locked

/-- **Zero downtime.** Whatever the toolchain and the spawner do, and however the statements of
rotations and retirements follow each other, as long as the ring is not stopped: a slot whose
address is published serves; every backend that has been published is killed only after another
one was published, and all that is done to it is done in the order of its life; and no process
is told to end without record of it. -/
theorem zero_downtime {config : Config} {tree : Files.Tree} {clock : Files.Time}
    {moves : List Move} (hnew : Machine.new config tree clock = .ok s)
    (hstop : .beginStop ∉ moves) (hrun : s.run moves = some t) :
    (∀ i < t.slots.length, t.published.current = some (t.slot i).addr → t.Serves i) ∧
      (∀ h : Handle, .published h ∈ t.deeds → t.Succession h) ∧
      ∀ (b : ℕ) (B : Backend), t.backends[b]? = some B → B.killed = true →
        .killed ⟨B.slot, b⟩ ∈ t.deeds := by
  have hrelay := Machine.Relay.of_run hnew hstop hrun
  exact ⟨fun i hi => hrelay.serves hi, fun h => hrelay.succession, hrelay.faithful.killed⟩

/-- A ring that rotates twice. -/
theorem zero_downtime_rotating : ∃ s t,
    Machine.new Sample.config (Sample.site 'a' 3) 10 = .ok s ∧ .beginStop ∉ Sample.moves ∧
      s.run Sample.moves = some t ∧
      (∀ i < t.slots.length, t.published.current = some (t.slot i).addr → t.Serves i) ∧
      (∀ h : Handle, .published h ∈ t.deeds → t.Succession h) ∧
      ∀ (b : ℕ) (B : Backend), t.backends[b]? = some B → B.killed = true →
        .killed ⟨B.slot, b⟩ ∈ t.deeds := by
  have hstop : .beginStop ∉ Sample.moves := by simp [Sample.moves, Sample.rotation]
  obtain ⟨s, t, hnew, hrun, -⟩ := Sample.exists_run
  exact ⟨s, t, hnew, hstop, hrun, zero_downtime hnew hstop hrun⟩

end LivePages.Ring
