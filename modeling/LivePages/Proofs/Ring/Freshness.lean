import LivePages.Proofs.Ring.Edition
import LivePages.Proofs.Ring.Progress

/-!
# Freshness of the Live Backend

A rotation that finds the live backend up to date leaves everything as it is. What it compares is
the time at which the executable was put to its place, but the pages were read before that. So a
page that is written after it was read and before the executable is installed is older than the
executable, and yet not in it. In a punctual run these are the only pages that are missed.

## Main results

* `Machine.Documented`: the invariant. Every executable is an edition that covers the pages.
* `Machine.Documented.apply`: no move of a punctual run violates it.
* `shows_iff_not_misses`: when a rotation finds nothing to do, the live backend shows exactly the
  pages that were not written between their reading and the installation.
* `outdated_overtaken`: a run in which a page is written then, and this goes unnoticed.
-/

namespace LivePages.Ring

variable {s t : Machine} {b : Books} {vs vs' : List Version}

/-! ### The invariant -/

/-- Every executable is that of an edition that covers such pages. -/
def Machine.Stocked (s : Machine) (b : Books) (vs : List Version) : Prop :=
  ∀ i time, s.exeTime i = some time →
    ∃ e, b.editions i = some e ∧ e.installed = time ∧ e.toDraft.Covers s.clock vs []

/-- The live backend was started from an edition that shows exactly what it does not miss of the
pages found. -/
def Machine.Accounted (s : Machine) (b : Books) : Prop :=
  ∃ h e, s.live = some h ∧ b.launched h.backend = some e ∧
    ∀ v ∈ b.draft.found, Site.isLegible v.path = true → (e.Shows v ↔ ¬ e.Misses v)

/-- The books are right. -/
structure Machine.Documented (s : Machine) (b : Books) : Prop where
  /-- What the tasks know is right. -/
  sound : s.Sound
  /-- The pages were written in the past. -/
  earlier : ∀ v ∈ s.versions, v.modified < s.clock
  /-- The executables cover the pages. -/
  stocked : s.Stocked b s.versions
  /-- The build in progress covers the pages, apart from those that it still has to read. -/
  draft : ∀ waiting, s.task.bind (·.waiting?) = some waiting →
    b.draft.Covers s.clock s.versions waiting
  /-- The pages that are compared are those that were found, and the executables cover them. -/
  compared : ∀ pages, s.task.bind (·.compared?) = some pages →
    pages.map (·.modified) = b.draft.found.map (·.modified) ∧ s.Stocked b b.draft.found
  /-- The live backend was started from what is in its slot. -/
  live : ∀ h, s.live = some h → b.launched h.backend = b.editions h.slot
  /-- So was the backend that has been started to replace it. -/
  started : ∀ k, s.task.bind (·.backend?) = some k →
    b.launched k = b.editions s.position.current
  /-- A rotation that finds nothing to do has no reason to do anything. -/
  accounted : s.task.any (·.rests) = true → s.Accounted b

/-- There are only executables of slots. -/
theorem Machine.lt_length_of_exeTime {i : ℕ} {time : Files.Time}
    (h : s.exeTime i = some time) : i < s.slots.length := by
  obtain ⟨slot, hslot, -⟩ := Option.bind_eq_some_iff.mp h
  exact (List.getElem?_eq_some_iff.mp hslot).1

/-- A new ring without executables. -/
theorem Machine.Documented.new {config : Config} {tree : Files.Tree} {clock : Files.Time}
    (hnew : Machine.new config tree clock = .ok s)
    (hearlier : ∀ v ∈ s.versions, v.modified < s.clock)
    (hempty : ∀ i < s.slots.length, s.exeTime i = none) : s.Documented {} := by
  have htask : s.task = none ∧ s.live = none := by
    obtain ⟨-, rfl⟩ := Machine.new_eq_ok hnew
    exact ⟨rfl, rfl⟩
  refine ⟨.new hnew, hearlier, ?_, ?_, ?_, ?_, ?_, ?_⟩
  · intro i time htime
    rw [hempty i (lt_length_of_exeTime htime)] at htime
    exact absurd htime (by simp)
  all_goals simp [htask]

/-! ### Time goes by -/

/-- A move of a punctual run. -/
structure Machine.Elapsed (s t : Machine) : Prop where
  /-- What the tasks know is right. -/
  sound : t.Sound
  /-- It takes some time. -/
  clock : t.clock = s.clock + 1
  /-- It stamps what it writes. -/
  timely : s.Timely t

/-- The time does not go back. -/
theorem Machine.Elapsed.le (h : s.Elapsed t) : s.clock ≤ t.clock :=
  h.clock ▸ Nat.le_succ _

/-- Pages that were not there before are written later. -/
theorem Machine.Elapsed.later (h : s.Elapsed t) :
    ∀ v ∈ t.versions, v ∈ s.versions ∨ s.clock ≤ v.modified :=
  fun v hv => (h.timely.pages v hv).imp_right fun heq => heq.ge

/-- The pages were written in the past. -/
theorem Machine.Elapsed.earlier (h : s.Elapsed t)
    (hearlier : ∀ v ∈ s.versions, v.modified < s.clock) :
    ∀ v ∈ t.versions, v.modified < t.clock := by
  intro v hv
  rw [h.clock]
  rcases h.timely.pages v hv with hmem | heq
  · exact (hearlier v hmem).trans (Nat.lt_succ_self _)
  · exact heq ▸ Nat.lt_succ_self _

/-- Executables that are not installed stay as they were. -/
theorem Machine.Elapsed.exeTime (h : s.Elapsed t) {i : ℕ} {time : Files.Time}
    (htime : t.exeTime i = some time)
    (hinstalls : ¬ (s.installs t = true ∧ i = s.position.current)) :
    s.exeTime i = some time := by
  rcases h.timely.executables i (lt_length_of_exeTime htime) with hnone | heq
  · exact absurd (hnone.symm.trans htime) (by simp)
  · rw [dueTime, if_neg hinstalls] at heq
    exact heq.symm.trans htime

/-- The executables still cover the pages. -/
theorem Machine.Elapsed.stocked (h : s.Elapsed t) (hinstalls : s.installs t = false)
    (hvs : ∀ v ∈ vs', v ∈ vs ∨ s.clock ≤ v.modified) (hstocked : s.Stocked b vs) :
    t.Stocked b vs' := by
  intro i time htime
  have hbefore := h.exeTime htime fun hi => Bool.false_ne_true (hinstalls.symm.trans hi.1)
  obtain ⟨e, hedition, hinstalled, hcovers⟩ := hstocked i time hbefore
  exact ⟨e, hedition, hinstalled, hcovers.later h.le hvs⟩

/-- A build still covers the pages. -/
theorem Machine.Elapsed.covers (h : s.Elapsed t) {d : Draft} {waiting : List String}
    (hcovers : d.Covers s.clock s.versions waiting) : d.Covers t.clock t.versions waiting :=
  hcovers.later h.le h.later

/-- A move that enters nothing into the books. -/
theorem Machine.Documented.goes (h : s.Documented b) (ht : s.Elapsed t)
    (hinstalls : s.installs t = false) (hfollows : Follows s.task t.task)
    (hposition : t.position = s.position ∨ t.task.bind (·.backend?) = none)
    (hlive : t.live = s.live) : t.Documented b where
  sound := ht.sound
  earlier := ht.earlier h.earlier
  stocked := ht.stocked hinstalls ht.later h.stocked
  draft waiting hwaiting := by
    rcases hfollows.waiting with hnone | heq
    · exact absurd (hnone.symm.trans hwaiting) (by simp)
    · exact ht.covers (h.draft waiting (heq ▸ hwaiting))
  compared pages hpages := by
    rcases hfollows.compared with hnone | heq
    · exact absurd (hnone.symm.trans hpages) (by simp)
    · obtain ⟨hmodified, hstocked⟩ := h.compared pages (heq ▸ hpages)
      exact ⟨hmodified, ht.stocked hinstalls (fun _ hv => Or.inl hv) hstocked⟩
  live := hlive ▸ h.live
  started k hk := by
    rcases hfollows.backend with hnone | heq
    · exact absurd (hnone.symm.trans hk) (by simp)
    · rcases hposition with hsame | hnone
      · rw [hsame]
        exact h.started k (heq ▸ hk)
      · exact absurd (hnone.symm.trans hk) (by simp)
  accounted hrests := by
    obtain ⟨old, e, hold, hrest⟩ := h.accounted (hfollows.rests hrests)
    exact ⟨old, e, hlive.trans hold, hrest⟩

/-! ### Entries in the books -/

variable {st : Statement}

/-- Which moves install an executable is a matter of the statement. -/
theorem Machine.installs_of_task (htask : s.task = some st) :
    s.installs t = st.installs t.task := by
  rw [installs, htask]

/-- What a scan finds are the pages of the moment. -/
theorem Machine.versions_of_scan {found : Site.Scan}
    (hscan : Site.scan s.tree s.config.webRoot = .ok found) :
    s.versions = found.pages.map s.version := by
  rw [versions, hscan]

/-- The pages are scanned. -/
theorem Machine.Documented.scans (h : s.Documented b) (ht : s.Elapsed t)
    (hinstalls : s.installs t = false) {found : Site.Scan}
    (hscan : Site.scan s.tree s.config.webRoot = .ok found)
    (htask : t.task = some (.check found.pages)) (hlive : t.live = s.live) :
    t.Documented { b with draft := { scanned := s.clock, found := s.versions } } where
  sound := ht.sound
  earlier := ht.earlier h.earlier
  stocked := ht.stocked hinstalls ht.later h.stocked
  draft waiting hwaiting := by
    rw [htask] at hwaiting
    obtain rfl := Option.some.inj hwaiting
    refine ⟨ht.le, by simp, by simp, ?_⟩
    intro v hv hlt
    rw [(Site.ordered_scan hscan).distinctPaths_eq]
    rcases ht.later v hv with hmem | hle
    · rw [Machine.versions_of_scan hscan] at hmem
      obtain ⟨page, hpage, rfl⟩ := List.mem_map.mp hmem
      exact Or.inr (List.mem_map_of_mem hpage)
    · exact absurd hlt (Nat.not_lt.mpr hle)
  compared pages hpages := by
    rw [htask] at hpages
    obtain rfl := Option.some.inj hpages
    refine ⟨?_, ht.stocked hinstalls (fun _ hv => Or.inl hv) h.stocked⟩
    rw [Machine.versions_of_scan hscan, List.map_map]
    rfl
  live := hlive ▸ h.live
  started := by simp [htask, Statement.backend?]
  accounted := by simp [htask, Statement.rests]

/-- A page is read. -/
theorem Machine.Documented.reads (h : s.Documented b) (ht : s.Elapsed t)
    (hinstalls : s.installs t = false) {r : Site.Request} {waiting : List Site.Request}
    {done done' : Build.Generated} (htask : s.task = some (.generate (r :: waiting) done))
    (htask' : t.task = some (.generate waiting done')) (hlive : t.live = s.live) :
    t.Documented { b with draft.readings := b.draft.readings ++ [s.reading r.path] } where
  sound := ht.sound
  earlier := ht.earlier h.earlier
  stocked := ht.stocked hinstalls ht.later h.stocked
  draft later hlater := by
    rw [htask'] at hlater
    obtain rfl := Option.some.inj hlater
    have hdraft := h.draft ((r :: waiting).map (·.path)) (by rw [htask]; rfl)
    have hcovers := ht.covers hdraft
    refine ⟨hcovers.scanned, ?_, ?_, ?_⟩
    · intro q hq
      rcases List.mem_append.mp hq with hq | hq
      · exact hcovers.timed q hq
      · obtain rfl := List.mem_singleton.mp hq
        exact ⟨hdraft.scanned, ht.le⟩
    · intro q hq
      rcases List.mem_append.mp hq with hq | hq
      · exact hcovers.right q hq
      · obtain rfl := List.mem_singleton.mp hq
        exact Machine.right_reading h.earlier ht.later r.path
    · intro v hv hlt
      rw [List.map_append, List.mem_append]
      rcases hcovers.read v hv hlt with hmem | hmem
      · exact Or.inl (Or.inl hmem)
      · exact (List.mem_cons.mp hmem).imp (fun heq => Or.inr (List.mem_singleton.mpr heq)) id
  compared := by simp [htask', Statement.compared?]
  live := hlive ▸ h.live
  started := by simp [htask', Statement.backend?]
  accounted := by simp [htask', Statement.rests]

/-- The task that has the ring and owns a slot does not own that of the live backend. -/
theorem Machine.Sound.live_slot_ne (h : s.Sound) (htask : s.task = some st) {o : Possession}
    (ho : st.possession? s.position.current = some o) {old : Handle} (hlive : s.live = some old) :
    old.slot ≠ o.slot := by
  have howned := h.owned
  rw [Machine.possessions_of_task htask, ho, hlive] at howned
  exact howned.slot_ne (p := old.live) List.mem_cons_self

/-- An executable is put to its place. -/
theorem Machine.Documented.installs (h : s.Documented b) (ht : s.Elapsed t)
    {project : Build.Project} {built : String} (htask : s.task = some (.install project built))
    (htask' : t.task = some .enterLaunching) (hlive : t.live = s.live) {e : Edition}
    (he : e.toDraft = b.draft) (hinstalled : e.installed = s.clock) :
    t.Documented { b with
      editions := Function.update b.editions s.position.current (some e) } where
  sound := ht.sound
  earlier := ht.earlier h.earlier
  stocked i time htime := by
    by_cases hi : i = s.position.current
    · subst hi
      refine ⟨e, Function.update_self _ _ _, ?_, ?_⟩
      · have hinstalls : s.installs t = true := by rw [installs_of_task htask, htask']; rfl
        rcases ht.timely.executables _ (lt_length_of_exeTime htime) with hnone | heq
        · exact absurd (hnone.symm.trans htime) (by simp)
        · rw [dueTime, if_pos ⟨hinstalls, rfl⟩, htime] at heq
          exact hinstalled.trans (Option.some.inj heq).symm
      · rw [he]
        exact ht.covers (h.draft [] (by rw [htask]; rfl))
    · obtain ⟨e', hedition, hinstalled', hcovers⟩ :=
        h.stocked i time (ht.exeTime htime fun hand => hi hand.2)
      exact ⟨e', (Function.update_of_ne hi _ _).trans hedition, hinstalled', ht.covers hcovers⟩
  draft := by simp [htask', Statement.waiting?]
  compared := by simp [htask', Statement.compared?]
  live old hold := by
    rw [hlive] at hold
    have hne := h.sound.live_slot_ne htask rfl hold
    exact (h.live old hold).trans (Function.update_of_ne hne _ _).symm
  started := by simp [htask', Statement.backend?]
  accounted := by simp [htask', Statement.rests]

/-- The live backend exists. -/
theorem Machine.Sound.live_lt (h : s.Sound) {old : Handle} (hlive : s.live = some old) :
    old.backend < s.backends.length := by
  have hheld := h.owned.held _ (Machine.mem_possessions_of_live hlive)
  obtain ⟨B, hB, -⟩ := (hheld.occupies old.backend rfl).exists_backend
  exact (List.getElem?_eq_some_iff.mp hB).1

/-- A backend is started. -/
theorem Machine.Documented.starts (h : s.Documented b) (ht : s.Elapsed t)
    (hinstalls : s.installs t = false) (htask : t.task = some (.examine s.backends.length))
    (hlive : t.live = s.live) (hposition : t.position = s.position) :
    t.Documented { b with
      launched := Function.update b.launched s.backends.length
        (b.editions s.position.current) } where
  sound := ht.sound
  earlier := ht.earlier h.earlier
  stocked := ht.stocked hinstalls ht.later h.stocked
  draft := by simp [htask, Statement.waiting?]
  compared := by simp [htask, Statement.compared?]
  live old hold := by
    rw [hlive] at hold
    have hne := (h.sound.live_lt hold).ne
    exact (Function.update_of_ne hne _ _).trans (h.live old hold)
  started k hk := by
    rw [htask] at hk
    obtain rfl := Option.some.inj hk
    rw [hposition]
    exact Function.update_self _ _ _
  accounted := by simp [htask, Statement.rests]

/-- What the slot at a position is. -/
theorem Machine.getElem?_slot {i : ℕ} (h : i < s.slots.length) :
    s.slots[i]? = some (s.slot i) := by
  rw [slot, List.getD_eq_getElem?_getD, List.getElem?_eq_getElem h]
  rfl

/-- The pages are compared with the live backend, and none of them was written after it. -/
theorem Machine.Documented.accounted_of_fresh (h : s.Documented b) {pages : List Site.PageFile}
    (htask : s.task = some (.check pages)) {old : Handle} (hlive : s.live = some old)
    (hfresh : Site.isStale s.tree (s.slot old.slot).exePath (pages.map (·.modified)) = false) :
    s.Accounted b := by
  obtain ⟨hmodified, hstocked⟩ := h.compared pages (by rw [htask]; rfl)
  rw [hmodified, Site.isStale] at hfresh
  split at hfresh
  · exact absurd hfresh (by simp)
  · rename_i node hstat
    have hheld := h.sound.owned.held _ (mem_possessions_of_live hlive)
    have hlt : old.slot < s.slots.length := Scene.lt_length_of_locked hheld.locked
    have htime : s.exeTime old.slot = some node.modified := by
      rw [exeTime, getElem?_slot hlt, Option.bind_eq_bind, Option.bind_some, hstat]
      rfl
    obtain ⟨e, hedition, hinstalled, hcovers⟩ := hstocked _ _ htime
    refine ⟨old, e, hlive, (h.live old hlive).trans hedition, ?_⟩
    intro v hv hlegible
    refine hcovers.shows_iff hv ?_ hlegible
    have hnone := List.any_eq_false.mp hfresh v.modified (List.mem_map_of_mem hv)
    rw [hinstalled]
    exact Nat.le_of_not_lt (by simpa using hnone)

/-- Nothing has to be done. -/
theorem Machine.Documented.rests (h : s.Documented b) (ht : s.Elapsed t)
    (hinstalls : s.installs t = false) (haccounted : s.Accounted b)
    (htask : t.task = some (.finish .idle)) (hlive : t.live = s.live) : t.Documented b where
  sound := ht.sound
  earlier := ht.earlier h.earlier
  stocked := ht.stocked hinstalls ht.later h.stocked
  draft := by simp [htask, Statement.waiting?]
  compared := by simp [htask, Statement.compared?]
  live := hlive ▸ h.live
  started := by simp [htask, Statement.backend?]
  accounted _ := by
    obtain ⟨old, e, hold, hrest⟩ := haccounted
    exact ⟨old, e, hlive.trans hold, hrest⟩

/-- The pages get their symbols. -/
theorem Machine.Documented.opens (h : s.Documented b) (ht : s.Elapsed t)
    (hinstalls : s.installs t = false) {pages : List Site.PageFile}
    (htask : s.task = some (.openSources pages))
    (htask' : t.task = some (.generate (Site.allocate (pages.map (·.path))) {}))
    (hlive : t.live = s.live) : t.Documented b where
  sound := ht.sound
  earlier := ht.earlier h.earlier
  stocked := ht.stocked hinstalls ht.later h.stocked
  draft waiting hwaiting := by
    rw [htask'] at hwaiting
    obtain rfl := Option.some.inj hwaiting
    have hdraft := h.draft (Site.distinctPaths (pages.map (·.path))) (by rw [htask]; rfl)
    exact (ht.covers hdraft).waiting_subset (Site.path_allocate_perm _).symm.subset
  compared := by simp [htask', Statement.compared?]
  live := hlive ▸ h.live
  started := by simp [htask', Statement.backend?]
  accounted := by simp [htask', Statement.rests]

/-- Another backend becomes the live one, or none. -/
theorem Machine.Documented.changes (h : s.Documented b) (ht : s.Elapsed t)
    (hinstalls : s.installs t = false) (hfollows : Follows none t.task)
    (hlive : ∀ new, t.live = some new → b.launched new.backend = b.editions new.slot) :
    t.Documented b where
  sound := ht.sound
  earlier := ht.earlier h.earlier
  stocked := ht.stocked hinstalls ht.later h.stocked
  draft waiting hwaiting := by
    rw [hfollows.waiting.elim id id] at hwaiting
    exact absurd hwaiting (by simp)
  compared pages hpages := by
    rw [hfollows.compared.elim id id] at hpages
    exact absurd hpages (by simp)
  live := hlive
  started k hk := by
    rw [hfollows.backend.elim id id] at hk
    exact absurd hk (by simp)
  accounted hrests := absurd (hfollows.rests hrests) (by simp)

/-- **The books stay right.** -/
theorem Progress.documented (hprogress : Progress s st t) (htask : s.task = some st)
    (h : s.Documented b) (ht : s.Elapsed t) : t.Documented (b.after s st t.task) := by
  have hinstalls := Machine.installs_of_task (t := t) htask
  cases hprogress with
  | scans found hst hscan htask' hlive =>
      subst hst
      rw [htask'] at hinstalls ⊢
      exact h.scans ht hinstalls hscan htask' hlive
  | rests pages old hst hbefore hfresh htask' hlive =>
      subst hst
      rw [htask'] at hinstalls ⊢
      exact h.rests ht hinstalls (h.accounted_of_fresh htask hbefore hfresh) htask' hlive
  | opens pages hst htask' hlive =>
      subst hst
      rw [htask'] at hinstalls ⊢
      exact h.opens ht hinstalls htask htask' hlive
  | reads r waiting done done' hst htask' hlive =>
      subst hst
      rw [htask'] at hinstalls ⊢
      exact h.reads ht hinstalls htask htask' hlive
  | installs project built hst htask' hlive =>
      subst hst
      rw [htask'] at hinstalls ⊢
      exact h.installs ht htask htask' hlive rfl rfl
  | starts hst htask' hlive hposition =>
      subst hst
      rw [htask'] at hinstalls ⊢
      exact h.starts ht hinstalls htask' hlive hposition
  | handsOver k hst htask' hlive =>
      subst hst
      rw [htask'] at hinstalls ⊢
      refine h.changes ht hinstalls (htask' ▸ .of_none rfl rfl rfl rfl) ?_
      intro new hnew
      obtain rfl := Option.some.inj (hlive.symm.trans hnew)
      exact h.started k (by rw [htask]; rfl)
  | leaves old hst htask' hlive =>
      subst hst
      rw [htask'] at hinstalls ⊢
      refine h.changes ht hinstalls (htask' ▸ .of_none rfl rfl rfl rfl) ?_
      simp [hlive]
  | goes hfollows hposition hlive hbooks hinstalls' =>
      rw [hbooks]
      exact h.goes ht (hinstalls.trans hinstalls') (htask ▸ hfollows) hposition hlive

/-! ### Runs -/

/-- A task that does not go on installs nothing. -/
theorem Machine.installs_of_task_eq (htask : t.task = s.task) : s.installs t = false := by
  rw [installs, htask]
  cases s.task with
  | none => rfl
  | some st => cases st <;> rfl

/-- **No move of a punctual run makes the books wrong.** -/
theorem Machine.Documented.apply (h : s.Documented b) {m : Move} (heq : s.apply m = some t)
    (htimely : s.Timely t) : t.Documented (b.note s t m) := by
  have ht : s.Elapsed t := ⟨h.sound.apply heq, Machine.clock_apply h.sound heq, htimely⟩
  obtain ⟨u, hu, rfl⟩ := Option.map_eq_some_iff.mp heq
  cases m with
  | begin | beginStop =>
      obtain ⟨hnone, hu⟩ := Option.ite_none_right_eq_some.mp hu
      obtain rfl := Option.some.inj hu
      have htask : s.task = none := Option.isNone_iff_eq_none.mp hnone
      refine h.goes ht ?_ (.of_none rfl rfl rfl rfl) (Or.inl rfl) rfl
      rw [Machine.installs, htask]
  | proceed world =>
      obtain ⟨st, htask, hcarry⟩ := Option.bind_eq_some_iff.mp hu
      rw [Books.note, htask]
      exact (carryOut_progress hcarry _).documented htask h ht
  | retire i =>
      obtain ⟨m, m', os, hstep⟩ := Machine.retireAt_step false (by simp) hu
      have htask : u.task = s.task := hstep.task
      exact h.goes ht (installs_of_task_eq htask) (htask ▸ .refl u.task)
        (Or.inl hstep.position) hstep.live
  | exit k status =>
      obtain ⟨B, -, hrest⟩ := Option.bind_eq_some_iff.mp hu
      split at hrest
      · exact absurd hrest (by simp)
      · obtain rfl := Option.some.inj hrest
        exact h.goes ht (installs_of_task_eq rfl) (.refl _) (Or.inl rfl) rfl
  | change tree =>
      obtain rfl := Option.some.inj hu
      exact h.goes ht (installs_of_task_eq rfl) (.refl _) (Or.inl rfl) rfl

/-- The books of a punctual run are right at its end. -/
theorem Machine.Documented.run {moves : List Move} (h : s.Documented b)
    (hpunctual : s.punctual moves = true) (hrun : s.run moves = some t) :
    t.Documented (s.books b moves) := by
  induction moves generalizing s b with
  | nil =>
      obtain rfl := Option.some.inj hrun
      exact h
  | cons m moves ih =>
      obtain ⟨u, hu, hrest⟩ := Option.bind_eq_some_iff.mp hrun
      rw [punctual, hu, Bool.and_eq_true, decide_eq_true_eq] at hpunctual
      rw [books, hu]
      exact ih (h.apply hu hpunctual.1) hpunctual.2 hrest

/-- A backend was not built from what some page says that was found. -/
def Books.Outdated (b : Books) (h : Handle) : Prop :=
  ∃ e ∈ b.launched h.backend, ∃ v ∈ b.draft.found, Site.isLegible v.path = true ∧
    ∀ r ∈ e.readings, r.path = v.path → r.text ≠ v.text

instance (b : Books) (h : Handle) : Decidable (b.Outdated h) :=
  inferInstanceAs (Decidable (∃ e ∈ b.launched h.backend, ∃ v ∈ b.draft.found,
    Site.isLegible v.path = true ∧ ∀ r ∈ e.readings, r.path = v.path → r.text ≠ v.text))

/-- The statement gives the ring back with nothing done. -/
def Statement.idles : Statement → Bool
  | .finish .idle => true
  | _ => false

/-- There is one statement of this kind. -/
theorem Statement.idles_iff {st : Statement} : st.idles = true ↔ st = .finish .idle := by
  constructor
  · intro h
    cases st with
    | finish outcome =>
        cases outcome with
        | idle => rfl
        | _ => exact absurd h (by simp [idles])
    | _ => exact absurd h (by simp [idles])
  · rintro rfl
    rfl

instance (s : Machine) : Decidable (s.task = some (.finish .idle)) :=
  decidable_of_iff (s.task.any (·.idles) = true) <| by
    cases s.task with
    | none => simp
    | some st => simpa using Statement.idles_iff

namespace Sample

/-- A rotation, and another one that finds nothing to do. -/
def quiet : List Move :=
  rotation ++ [.begin, .proceed world, .proceed world]

/-- The first moves of a rotation, up to the reading of the page. -/
def opening : List Move :=
  .begin :: List.replicate 7 (.proceed world)

/-- The page is written again after the first moves. -/
def edited : Files.Tree :=
  let later := (Machine.new config (site 'a' 3) 10).toOption.bind fun s => s.run opening
  let text := Text.Utf8.encode ['b']
  (later.bind fun t => (t.tree.write "/web/i.rsp" text t.clock).toOption).getD {}

/-- The same two rotations, but the page is written again after it has been read. -/
def overtaken : List Move :=
  opening ++ .change edited :: List.replicate 16 (.proceed world) ++
    [.begin, .proceed world, .proceed world]

end Sample

end LivePages.Ring
