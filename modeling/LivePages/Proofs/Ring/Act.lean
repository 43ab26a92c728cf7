import LivePages.Proofs.Ring.Possession

/-!
# Acts of an Owner

What the owner of a slot may do to the slot and to its backend. Every statement of every task is
one of these acts or a few of them, so that whatever all acts preserve is preserved by the whole
ring, in any order of the statements.

The acts come in two degrees of strictness. Strictly taken a backend that has been published is
killed only after another one has been published, and goes through its whole life. A shutdown
does not keep to that, but does all the rest.

## Main results

* `Handle.courses`: what may happen to a backend, in which order.
* `Succeeded`: a backend has been published later than another one.
* `Acts`: the acts.
* `Owned.acts`: no act of an owner violates the possessions.
-/

namespace LivePages.Ring

/-! ### Courses -/

/-- What may happen to a backend in the end: it is replaced, or never becomes ready, or, unless
strictly taken, the ring is stopped. -/
def Handle.courses (strict : Bool) (h : Handle) : List (List Deed) :=
  [h.life, [.started h, .killed h, .confirmed h]] ++
    if strict then []
    else [[.started h, .published h, .killed h, .confirmed h, .unlocked h]]

/-- What has been done to a backend is the beginning of one of its courses. -/
def OnCourse (strict : Bool) (h : Handle) (deeds : List Deed) : Prop :=
  ∃ course ∈ h.courses strict, deeds <+: course

/-- The beginnings of a whole life are on course. -/
theorem onCourse_life_take (strict : Bool) (h : Handle) (n : ℕ) :
    OnCourse strict h (h.life.take n) :=
  ⟨h.life, List.mem_append_left _ List.mem_cons_self, List.take_prefix n _⟩

/-- A backend that does not become ready is killed, and its end is seen. -/
theorem onCourse_unready (strict : Bool) (h : Handle) (n : ℕ) :
    OnCourse strict h ([Deed.started h, .killed h, .confirmed h].take n) :=
  ⟨_, List.mem_append_left _ (List.mem_cons_of_mem _ List.mem_cons_self), List.take_prefix n _⟩

/-- A backend may be stopped without being replaced, and its executable stays. -/
theorem onCourse_stopped (h : Handle) :
    OnCourse false h [.started h, .published h, .killed h, .confirmed h, .unlocked h] :=
  ⟨_, List.mem_append_right _ List.mem_cons_self, List.prefix_rfl⟩

/-- Strictly taken, a published backend goes through its whole life. -/
theorem OnCourse.isPrefix {h : Handle} {deeds : List Deed} (hc : OnCourse true h deeds)
    (hp : .published h ∈ deeds) : deeds <+: h.life := by
  obtain ⟨course, hcourse, hpre⟩ := hc
  rw [Handle.courses, if_pos rfl, List.append_nil, List.mem_cons, List.mem_singleton] at hcourse
  rcases hcourse with rfl | rfl
  · exact hpre
  · exact absurd (hpre.subset hp) (by simp)

/-! ### Succession -/

/-- A backend has a successor: another one was published later. -/
def Succeeded (deeds : List Deed) (h : Handle) : Prop :=
  ∃ first h' second, deeds = first ++ .published h' :: second ∧ .published h ∈ first

/-- A backend that has a successor keeps it. -/
theorem Succeeded.append {deeds : List Deed} {h : Handle} (hs : Succeeded deeds h)
    (more : List Deed) : Succeeded (deeds ++ more) h := by
  obtain ⟨first, h', second, rfl, hmem⟩ := hs
  exact ⟨first, h', second ++ more, by simp, hmem⟩

/-- A backend that has been published is succeeded by the one that is published next. -/
theorem succeeded_concat {deeds : List Deed} {h : Handle} (hp : .published h ∈ deeds)
    (h' : Handle) : Succeeded (deeds ++ [.published h']) h :=
  ⟨deeds, h', [], rfl, hp⟩

/-! ### The acts -/

/-- A change of the state of a slot, on record. -/
def Scene.move (c : Scene) (i : ℕ) (next : Phase) : Scene :=
  (c.onSlot i (·.move next)).record (.moved i (c.slot i).phase next)

/-- The owner of a slot, if somebody has taken it, acts upon a scene. -/
inductive Acts (strict : Bool) :
    Option Possession → Scene → Option Possession → Scene → Prop
  /-- Nothing is done. -/
  | rest {o : Option Possession} {c : Scene} : Acts strict o c o c
  /-- A free slot is taken. -/
  | take {c : Scene} {i : ℕ} (hi : i < c.slots.length) (hfree : (c.slot i).locked = false) :
      Acts strict none c (some ⟨i, [.idle], none, []⟩)
        (c.onSlot i fun slot => { slot with locked := true })
  /-- Less is remembered about the state of the slot. -/
  | widen {o : Possession} {c : Scene} {phases : List Phase} (h : o.phases ⊆ phases) :
      Acts strict (some o) c (some { o with phases }) c
  /-- A backend is forgotten that has not been published and whose end has been seen. -/
  | forget {o : Possession} {c : Scene}
      (hended : ∀ b, o.backend = some b → .confirmed ⟨o.slot, b⟩ ∈ o.trail)
      (hunpublished : ∀ b, o.backend = some b → .published ⟨o.slot, b⟩ ∉ o.trail) :
      Acts strict (some o) c (some { o with backend := none, trail := [] }) c
  /-- The state of the slot is changed in an allowed way. -/
  | move {o : Possession} {c : Scene} {next : Phase} {phases : List Phase}
      (h : ∀ p ∈ o.phases, p.allows next = true ∧ next ∈ phases) :
      Acts strict (some o) c (some { o with phases }) (c.move o.slot next)
  /-- Something is put on record that is done to no slot and no backend. -/
  | note {o : Possession} {c : Scene} {d : Deed} (hhandle : d.handle? = none)
      (hmoved : ∀ i p q, d ≠ .moved i p q) : Acts strict (some o) c (some o) (c.record d)
  /-- A backend is started when there is none. -/
  | start {o : Possession} {c : Scene} {b : Backend} (hnone : o.backend = none)
      (hslot : b.slot = o.slot) (hkilled : b.killed = false) :
      Acts strict (some o) c
        (some { o with
          backend := some c.backends.length
          trail := [.started ⟨o.slot, c.backends.length⟩] })
        ((c.add b).record (.started ⟨o.slot, c.backends.length⟩))
  /-- The next thing is done that belongs to the course of the backend. Its end can only be seen
  when it has ended. -/
  | act {o : Possession} {c : Scene} {b : ℕ} {d : Deed} (hb : o.backend = some b)
      (hhandle : d.handle? = some ⟨o.slot, b⟩) (hkill : d ≠ .killed ⟨o.slot, b⟩)
      (hcourse : OnCourse strict ⟨o.slot, b⟩ (o.trail ++ [d]))
      (hconfirmed : d = .confirmed ⟨o.slot, b⟩ →
        ∀ B, c.backends[b]? = some B → B.status ≠ none) :
      Acts strict (some o) c (some { o with trail := o.trail ++ [d] }) (c.record d)
  /-- The backend is killed. Strictly taken, it has a successor if it has been published. -/
  | kill {o : Possession} {c : Scene} {b : ℕ} (hb : o.backend = some b)
      (hcourse : OnCourse strict ⟨o.slot, b⟩ (o.trail ++ [.killed ⟨o.slot, b⟩]))
      (hrelief : strict = true → .published ⟨o.slot, b⟩ ∈ o.trail →
        Succeeded c.deeds ⟨o.slot, b⟩) :
      Acts strict (some o) c (some { o with trail := o.trail ++ [.killed ⟨o.slot, b⟩] })
        ((c.onBackend b fun B => { B with killed := true }).record (.killed ⟨o.slot, b⟩))
  /-- An idle slot is given up in which nothing runs. If there was a backend, this is on
  record. -/
  | release {o : Possession} {c : Scene} (hphases : o.phases = [.idle])
      (hended : ∀ b, o.backend = some b → .confirmed ⟨o.slot, b⟩ ∈ o.trail)
      (hunlocked : ∀ b, o.backend = some b → .unlocked ⟨o.slot, b⟩ ∈ o.trail) :
      Acts strict (some o) c none (c.onSlot o.slot (·.unlock))
  /-- One thing is done after the other. -/
  | trans {o o' o'' : Option Possession} {c c' c'' : Scene} (h : Acts strict o c o' c')
      (h' : Acts strict o' c' o'' c'') : Acts strict o c o'' c''

/-! ### Acts and the possessions -/

variable {c : Scene} {o : Possession} {os : List Possession}

/-- The trail of a backend that has not been started yet is empty. -/
theorem Owned.trail_eq_nil (h : Owned c os) {t : Handle} (ht : c.backends.length ≤ t.backend) :
    trail c.deeds t = [] := by
  rw [trail, List.filter_eq_nil_iff]
  intro d hd heq
  have := (h.proper d hd).known t (of_decide_eq_true heq)
  omega

/-- A deed done to a backend that exists may stand on record. -/
theorem Owned.proper_record (h : Owned c os) {d : Deed}
    (hd : d.Proper c.backends.length) : ∀ e ∈ (c.record d).deeds, e.Proper c.backends.length := by
  intro e he
  rcases List.mem_append.mp he with he | he
  · exact h.proper e he
  · rw [List.mem_singleton.mp he]
    exact hd

/-- A change of state in the owner's sense. -/
theorem Owned.move (h : Owned c (o :: os)) {next : Phase} {phases : List Phase}
    (hnext : ∀ p ∈ o.phases, p.allows next = true ∧ next ∈ phases) :
    Owned (c.move o.slot next) ({ o with phases } :: os) := by
  have hheld := h.held o List.mem_cons_self
  obtain ⟨hallows, hmem⟩ := hnext _ hheld.phase
  have hself := c.slot_onSlot_self (·.move next) (Scene.lt_length_of_locked hheld.locked)
  refine h.replace rfl ?_ ?_ ?_
  · exact (Scene.agreesOff_onSlot _ _ _).trans (Scene.agreesOff_record _ (by simp [Deed.handle?]))
  · refine ⟨?_, ?_, hheld.running, ?_⟩
    · rw [Scene.move, Scene.slot_record, hself]
      exact hheld.locked
    · rw [Scene.move, Scene.slot_record, hself]
      exact hmem
    · intro b hb
      obtain ⟨hex, hnew, htrail⟩ := hheld.occupies b hb
      exact ⟨hex, hnew, (trail_concat_of_ne _ (by simp [Deed.handle?])).trans htrail⟩
  · refine h.proper_record ⟨by simp [Deed.handle?], ?_⟩
    intro i p q heq
    obtain ⟨-, rfl, rfl⟩ := Deed.moved.inj heq
    exact hallows

/-- Something that is done to no slot and no backend. -/
theorem Owned.note (h : Owned c (o :: os)) {d : Deed} (hhandle : d.handle? = none)
    (hmoved : ∀ i p q, d ≠ .moved i p q) : Owned (c.record d) (o :: os) := by
  have hheld := h.held o List.mem_cons_self
  refine h.replace rfl (Scene.agreesOff_record _ (by simp [hhandle])) ?_ ?_
  · refine ⟨hheld.locked, hheld.phase, hheld.running, ?_⟩
    intro b hb
    obtain ⟨hex, hnew, htrail⟩ := hheld.occupies b hb
    exact ⟨hex, hnew, (trail_concat_of_ne _ (by simp [hhandle])).trans htrail⟩
  · exact h.proper_record ⟨by simp [hhandle], fun i p q heq => absurd heq (hmoved i p q)⟩

/-- The start of a backend where none runs. -/
theorem Owned.start (h : Owned c (o :: os)) (hnone : o.backend = none) {b : Backend}
    (hslot : b.slot = o.slot) (hkilled : b.killed = false) :
    Owned ((c.add b).record (.started ⟨o.slot, c.backends.length⟩))
      ({ o with
          backend := some c.backends.length
          trail := [.started ⟨o.slot, c.backends.length⟩] } :: os) := by
  have hheld := h.held o List.mem_cons_self
  have hended {k : ℕ} {B : Backend} (hB : c.backends[k]? = some B) (hBslot : B.slot = o.slot) :
      B.status ≠ none := by
    intro hstatus
    have := (hheld.running k B hB hBslot hstatus).1
    rw [hnone] at this
    exact absurd this (by simp)
  refine h.replace rfl ?_ ?_ ?_
  · rw [← hslot]
    exact (Scene.agreesOff_add c b).trans (Scene.agreesOff_record _ (by simp [Deed.handle?]))
  · refine ⟨hheld.locked, hheld.phase, ?_, ?_⟩
    · intro k B hB hBslot hstatus
      rw [Scene.backends_record, Scene.backends_add, List.getElem?_append] at hB
      split at hB
      · exact absurd hstatus (hended hB hBslot)
      · rename_i hk
        have hlt : k - c.backends.length < 1 := by
          simpa using List.getElem?_eq_some_iff.mp hB |>.1
        obtain rfl : k = c.backends.length := by omega
        exact ⟨rfl, by simp⟩
    · intro k hk
      obtain rfl := Option.some.inj hk
      refine ⟨⟨b, by simp, hslot, by simp [hkilled]⟩, ?_, ?_⟩
      · intro k B hB _
        have := (List.getElem?_eq_some_iff.mp hB).1
        rw [Scene.backends_record, Scene.backends_add, List.length_append,
          List.length_singleton] at this
        omega
      · rw [Scene.deeds_record, trail_concat_of_eq _ rfl, Scene.deeds_add,
          h.trail_eq_nil (Nat.le_refl _)]
        rfl
  · intro d hd
    rw [Scene.backends_record, Scene.backends_add, List.length_append, List.length_singleton]
    rcases List.mem_append.mp hd with hd | hd
    · exact (h.proper d hd).mono (Nat.le_succ _)
    · rw [List.mem_singleton.mp hd]
      refine ⟨?_, by simp⟩
      intro t ht
      obtain rfl := Option.some.inj ht
      exact Nat.lt_succ_self _

/-- The next thing in the course of a backend. -/
theorem Owned.act (h : Owned c (o :: os)) {b : ℕ} (hb : o.backend = some b) {d : Deed}
    (hhandle : d.handle? = some ⟨o.slot, b⟩)
    (hconfirmed : d = .confirmed ⟨o.slot, b⟩ →
      ∀ B, c.backends[b]? = some B → B.status ≠ none) :
    Owned (c.record d) ({ o with trail := o.trail ++ [d] } :: os) := by
  have hheld := h.held o List.mem_cons_self
  obtain ⟨⟨B, hB, hslot, hkilled⟩, hnew, htrail⟩ := hheld.occupies b hb
  refine h.replace rfl ?_ ?_ ?_
  · refine Scene.agreesOff_record _ ?_
    intro t ht
    rw [hhandle] at ht
    rw [← Option.some.inj ht]
  · refine ⟨hheld.locked, hheld.phase, ?_, ?_⟩
    · intro k A hA hAslot hstatus
      obtain ⟨hk, hnot⟩ := hheld.running k A hA hAslot hstatus
      refine ⟨hk, ?_⟩
      obtain rfl : b = k := Option.some.inj (hb.symm.trans hk)
      rw [List.mem_append, List.mem_singleton, not_or]
      exact ⟨hnot, fun heq => hconfirmed heq.symm A hA hstatus⟩
    · intro k hk
      obtain rfl : b = k := Option.some.inj (hb.symm.trans hk)
      refine ⟨⟨B, hB, hslot, fun hk => List.mem_append_left _ (hkilled hk)⟩, hnew, ?_⟩
      exact (trail_concat_of_eq _ hhandle).trans (by rw [htrail])
  · refine h.proper_record ⟨?_, ?_⟩
    · intro t ht
      rw [hhandle] at ht
      rw [← Option.some.inj ht]
      exact (List.getElem?_eq_some_iff.mp hB).1
    · rintro i p q rfl
      exact absurd hhandle (by simp [Deed.handle?])

/-- The backend is told to end. -/
theorem Owned.kill (h : Owned c (o :: os)) {b : ℕ} (hb : o.backend = some b) :
    Owned ((c.onBackend b fun B => { B with killed := true }).record (.killed ⟨o.slot, b⟩))
      ({ o with trail := o.trail ++ [.killed ⟨o.slot, b⟩] } :: os) := by
  have hact := h.act hb (d := .killed ⟨o.slot, b⟩) rfl (by simp)
  have hheld := hact.held _ List.mem_cons_self
  obtain ⟨⟨B, hB, hslot, -⟩, hnew, htrail⟩ := hheld.occupies b hb
  have hback {k : ℕ} {A : Backend}
      (hA : (c.onBackend b fun B => { B with killed := true }).backends[k]? = some A) :
      ∃ D, c.backends[k]? = some D ∧ D.slot = A.slot ∧ D.status = A.status := by
    obtain ⟨D, hD, rfl⟩ := c.exists_of_getElem?_onBackend _ _ hA
    refine ⟨D, hD, ?_, ?_⟩ <;> split <;> rfl
  have hoff := Scene.agreesOff_onBackend (c := c.record (.killed ⟨o.slot, b⟩)) hB
    (fun B => { B with killed := true }) (fun _ => rfl)
  rw [hslot] at hoff
  refine hact.replace rfl hoff ?_ ?_
  · refine ⟨hheld.locked, hheld.phase, ?_, ?_⟩
    · intro k A hA hAslot hstatus
      obtain ⟨D, hD, hDslot, hDstatus⟩ := hback hA
      exact hheld.running k D hD (hDslot.trans hAslot) (hDstatus.trans hstatus)
    · intro k hk
      obtain rfl : b = k := Option.some.inj (hb.symm.trans hk)
      refine ⟨⟨_, c.getElem?_onBackend _ _ hB, ?_, ?_⟩, ?_, htrail⟩
      · rw [if_pos rfl]
        exact hslot
      · intro _
        exact List.mem_append_right _ List.mem_cons_self
      · intro k A hA hAslot
        obtain ⟨D, hD, hDslot, -⟩ := hback hA
        exact hnew k D hD (hDslot.trans hAslot)
  · rw [Scene.backends_record, Scene.onBackend, List.length_modify]
    exact hact.proper

/-- An owner that remembers less still knows. -/
theorem Owned.weaken (h : Owned c (o :: os)) {o' : Possession} (hslot : o'.slot = o.slot)
    (hheld : Holds c o') : Owned c (o' :: os) :=
  h.replace hslot (Scene.AgreesOff.refl _ _) hheld h.proper

variable {strict : Bool} {m m' : Option Possession} {c' : Scene}

/-- **No act of an owner violates the possessions.** -/
theorem Owned.acts (ha : Acts strict m c m' c') (h : Owned c (m.toList ++ os)) :
    Owned c' (m'.toList ++ os) := by
  induction ha with
  | rest => exact h
  | take hi hfree => exact h.take hi hfree
  | widen hphases =>
      have hheld := h.held _ List.mem_cons_self
      exact h.weaken rfl
        ⟨hheld.locked, hphases hheld.phase, hheld.running,
          fun b hb => ⟨(hheld.occupies b hb).exists_backend, (hheld.occupies b hb).newest,
            (hheld.occupies b hb).trail_eq⟩⟩
  | forget hended _ =>
      have hheld := h.held _ List.mem_cons_self
      refine h.weaken rfl ⟨hheld.locked, hheld.phase, ?_, by simp⟩
      intro b B hB hslot hstatus
      obtain ⟨hb, hnot⟩ := hheld.running b B hB hslot hstatus
      exact absurd (hended b hb) hnot
  | move hnext => exact h.move hnext
  | note hhandle hmoved => exact h.note hhandle hmoved
  | start hnone hslot hkilled => exact h.start hnone hslot hkilled
  | act hb hhandle _ _ hconfirmed => exact h.act hb hhandle hconfirmed
  | kill hb _ _ => exact h.kill hb
  | release hphases hended _ => exact h.release hphases hended
  | trans _ _ ih ih' => exact ih' (ih h)

end LivePages.Ring
