import Mathlib.Data.List.GetD
import Mathlib.Data.List.Nodup
import LivePages.Ring.Machine

/-!
# Possession of Slots

Whoever has taken the lock of a slot possesses the slot and the backend started from it. At any
moment the possessions are those of the task that has the ring, of the live backend and of the
retirements. A possession says what its owner knows for certain, whatever the others do: in
which states the slot may be, whether a backend may run in it, and what has been done to that
backend.

The slots, the backends and the record of deeds are all that possessions are about; together
they are the *scene*.

## Main results

* `Owned`: the invariant. No slot has two owners, every owner's knowledge is right, and a slot
  without an owner is unlocked, idle and without a running backend.
* `Owned.replace`: what one owner does to its own slot is no concern of the others.
* `Owned.take`, `Owned.release`: a slot gets an owner, and loses it.
* `Owned.exit`: a backend may end at any moment.
-/

namespace LivePages.Ring

/-! ### The record -/

/-- The backend that a deed is done to. -/
def Deed.handle? : Deed → Option Handle
  | .started h | .published h | .killed h | .confirmed h | .deleted h | .unlocked h => some h
  | .moved _ _ _ | .compiled _ _ | .tried _ _ => none

/-- What has been done to a backend, in this order. -/
def trail (deeds : List Deed) (h : Handle) : List Deed :=
  deeds.filter fun d => d.handle? = some h

/-- A deed that is not done to a backend leaves its trail as it is. -/
theorem trail_concat_of_ne {d : Deed} {h : Handle} (deeds : List Deed)
    (hd : d.handle? ≠ some h) : trail (deeds ++ [d]) h = trail deeds h := by
  rw [trail, List.filter_append, List.filter_singleton]
  simp [hd, trail]

/-- A deed that is done to a backend is the next one of its trail. -/
theorem trail_concat_of_eq {d : Deed} {h : Handle} (deeds : List Deed)
    (hd : d.handle? = some h) : trail (deeds ++ [d]) h = trail deeds h ++ [d] := by
  rw [trail, List.filter_append, List.filter_singleton]
  simp [hd, trail]

/-- A deed is on the trail of the backend that it was done to. -/
theorem mem_trail {deeds : List Deed} {d : Deed} {h : Handle} (hd : d.handle? = some h) :
    d ∈ trail deeds h ↔ d ∈ deeds := by
  rw [trail, List.mem_filter]
  simp [hd]

/-- The state that a deed brings a slot to. -/
def Deed.phase? (i : ℕ) : Deed → Option Phase
  | .moved j _ q => if j = i then some q else none
  | _ => none

/-- The state of a slot according to the record. -/
def phaseOf (deeds : List Deed) (i : ℕ) : Phase :=
  (deeds.filterMap (·.phase? i)).getLast?.getD .idle

/-- A deed that does not change the state of a slot. -/
theorem phaseOf_concat_of_none {d : Deed} {i : ℕ} (deeds : List Deed) (hd : d.phase? i = none) :
    phaseOf (deeds ++ [d]) i = phaseOf deeds i := by
  rw [phaseOf, List.filterMap_append, List.filterMap_cons_none hd, List.filterMap_nil,
    List.append_nil]
  rfl

/-- A change of the state of a slot. -/
theorem phaseOf_concat_moved (deeds : List Deed) (i : ℕ) (p q : Phase) :
    phaseOf (deeds ++ [.moved i p q]) i = q := by
  have hd : (Deed.moved i p q).phase? i = some q := if_pos rfl
  rw [phaseOf, List.filterMap_append, List.filterMap_cons_some hd, List.filterMap_nil,
    List.getLast?_concat]
  rfl

/-- The life of a backend that is replaced in the end: all that is done to it, in order. -/
def Handle.life (h : Handle) : List Deed :=
  [.started h, .published h, .killed h, .confirmed h, .deleted h, .unlocked h]

/-! ### The scene -/

/-- The slots, the backends and the record. -/
structure Scene where
  /-- The slots. -/
  slots : List Slot
  /-- All processes ever started, by their numbers. -/
  backends : List Backend
  /-- All deeds so far. -/
  deeds : List Deed

/-- The scene of a ring. -/
def Machine.scene (s : Machine) : Scene :=
  ⟨s.slots, s.backends, s.deeds⟩

namespace Scene

/-- The slot at a position. -/
def slot (c : Scene) (i : ℕ) : Slot :=
  c.slots.getD i { index := i, exePath := "", addr := "" }

/-- Changes the slot at a position. -/
def onSlot (c : Scene) (i : ℕ) (f : Slot → Slot) : Scene :=
  { c with slots := c.slots.modify i f }

/-- Changes a backend. -/
def onBackend (c : Scene) (backend : ℕ) (f : Backend → Backend) : Scene :=
  { c with backends := c.backends.modify backend f }

/-- Adds a backend. -/
def add (c : Scene) (b : Backend) : Scene :=
  { c with backends := c.backends ++ [b] }

/-- Puts a deed on record. -/
def record (c : Scene) (d : Deed) : Scene :=
  { c with deeds := c.deeds ++ [d] }

variable (c : Scene) (i j : ℕ) (f : Slot → Slot) (g : Backend → Backend) (b : Backend) (d : Deed)

@[simp] theorem deeds_onSlot : (c.onSlot i f).deeds = c.deeds := rfl
@[simp] theorem deeds_onBackend : (c.onBackend j g).deeds = c.deeds := rfl
@[simp] theorem backends_add : (c.add b).backends = c.backends ++ [b] := rfl
@[simp] theorem deeds_add : (c.add b).deeds = c.deeds := rfl
@[simp] theorem slot_record : (c.record d).slot i = c.slot i := rfl
@[simp] theorem backends_record : (c.record d).backends = c.backends := rfl
@[simp] theorem deeds_record : (c.record d).deeds = c.deeds ++ [d] := rfl

/-- A change of one slot leaves the others as they are. -/
theorem slot_onSlot_of_ne {i j : ℕ} (h : j ≠ i) : (c.onSlot i f).slot j = c.slot j := by
  rw [slot, slot, onSlot, List.getD_eq_getElem?_getD, List.getD_eq_getElem?_getD,
    List.getElem?_modify_ne _ _ (Ne.symm h)]

/-- A change of a slot of the ring. -/
theorem slot_onSlot_self {i : ℕ} (h : i < c.slots.length) :
    (c.onSlot i f).slot i = f (c.slot i) := by
  rw [slot, slot, onSlot, List.getD_eq_getElem?_getD, List.getD_eq_getElem?_getD,
    List.getElem?_modify_eq, List.getElem?_eq_getElem h]
  rfl

/-- A change of one slot that keeps its state keeps the states of all slots. -/
theorem phase_onSlot {f : Slot → Slot} (hf : ∀ slot, (f slot).phase = slot.phase) (i j : ℕ) :
    ((c.onSlot i f).slot j).phase = (c.slot j).phase := by
  by_cases hj : j = i
  · subst hj
    by_cases hlt : j < c.slots.length
    · rw [c.slot_onSlot_self f hlt]
      exact hf _
    · rw [slot, slot, List.getD_eq_default _ _ (Nat.le_of_not_lt hlt), onSlot,
        List.getD_eq_default]
      rw [List.length_modify]
      exact Nat.le_of_not_lt hlt
  · rw [c.slot_onSlot_of_ne f hj]

/-- Only a slot of the ring can be locked. -/
theorem lt_length_of_locked {c : Scene} {i : ℕ} (h : (c.slot i).locked = true) :
    i < c.slots.length := by
  by_contra hge
  rw [slot, List.getD_eq_default _ _ (Nat.le_of_not_lt hge)] at h
  exact Bool.false_ne_true h

/-- What becomes of a backend when one is changed. -/
theorem getElem?_onBackend {b : ℕ} {A : Backend} (h : c.backends[b]? = some A) :
    (c.onBackend j g).backends[b]? = some (if j = b then g A else A) := by
  rw [onBackend, List.getElem?_modify, h]
  rfl

/-- What a backend was before one was changed. -/
theorem exists_of_getElem?_onBackend {b : ℕ} {B : Backend}
    (h : (c.onBackend j g).backends[b]? = some B) :
    ∃ A, c.backends[b]? = some A ∧ B = if j = b then g A else A := by
  rw [onBackend, List.getElem?_modify, Option.map_eq_map, Option.map_eq_some_iff] at h
  obtain ⟨A, hA, rfl⟩ := h
  exact ⟨A, hA, rfl⟩

/-- Two scenes differ in one slot at most, in its backends and in what was done to them. -/
structure AgreesOff (i : ℕ) (c c' : Scene) : Prop where
  /-- The other slots are the same. -/
  slot : ∀ j, j ≠ i → c'.slot j = c.slot j
  /-- The other slots' backends are the same. -/
  backend : ∀ (b : ℕ) (B : Backend), B.slot ≠ i →
    (c'.backends[b]? = some B ↔ c.backends[b]? = some B)
  /-- The same has been done to them. -/
  trail : ∀ h : Handle, h.slot ≠ i → trail c'.deeds h = trail c.deeds h

variable {c c' c'' : Scene} {i : ℕ}

/-- A scene agrees with itself. -/
theorem AgreesOff.refl (i : ℕ) (c : Scene) : AgreesOff i c c :=
  ⟨fun _ _ => rfl, fun _ _ _ => Iff.rfl, fun _ _ => rfl⟩

/-- Agreement is transitive. -/
theorem AgreesOff.trans (h : AgreesOff i c c') (h' : AgreesOff i c' c'') : AgreesOff i c c'' where
  slot j hj := (h'.slot j hj).trans (h.slot j hj)
  backend b B hB := (h'.backend b B hB).trans (h.backend b B hB)
  trail t ht := (h'.trail t ht).trans (h.trail t ht)

/-- A change of the slot itself. -/
theorem agreesOff_onSlot (c : Scene) (i : ℕ) (f : Slot → Slot) :
    AgreesOff i c (c.onSlot i f) where
  slot _ hj := c.slot_onSlot_of_ne f hj
  backend _ _ _ := Iff.rfl
  trail _ _ := rfl

/-- A new backend of the slot. -/
theorem agreesOff_add (c : Scene) (b : Backend) : AgreesOff b.slot c (c.add b) where
  slot _ _ := rfl
  backend k B hB := by
    rw [backends_add, List.getElem?_append]
    split
    · exact Iff.rfl
    · rename_i hk
      rw [List.getElem?_singleton, List.getElem?_eq_none (Nat.le_of_not_lt hk)]
      constructor
      · intro h
        split at h
        · obtain rfl := Option.some.inj h
          exact absurd rfl hB
        · exact h
      · intro h
        exact absurd h (by simp)
  trail _ _ := rfl

/-- A change of a backend of the slot. -/
theorem agreesOff_onBackend {b : ℕ} {A : Backend} (hA : c.backends[b]? = some A)
    (f : Backend → Backend) (hf : ∀ B, (f B).slot = B.slot) :
    AgreesOff A.slot c (c.onBackend b f) where
  slot _ _ := rfl
  backend k B hB := by
    rw [onBackend]
    by_cases hk : b = k
    · subst hk
      rw [List.getElem?_modify_eq, hA]
      constructor
      · intro h
        obtain rfl := Option.some.inj h
        exact absurd (hf A) hB
      · intro h
        obtain rfl := Option.some.inj h
        exact absurd rfl hB
    · rw [List.getElem?_modify_ne _ _ hk]
  trail _ _ := rfl

/-- A deed done to a backend of the slot, or to none. -/
theorem agreesOff_record (c : Scene) {d : Deed} (hd : ∀ h, d.handle? = some h → h.slot = i) :
    AgreesOff i c (c.record d) where
  slot _ _ := rfl
  backend _ _ _ := Iff.rfl
  trail _ ht := trail_concat_of_ne _ fun h => ht (hd _ h)

end Scene

/-! ### What an owner knows -/

/-- What the owner of a slot knows for certain. -/
structure Possession where
  /-- The slot. -/
  slot : ℕ
  /-- The states that the slot may be in. -/
  phases : List Phase
  /-- The backend that may run in the slot. -/
  backend : Option ℕ := none
  /-- What has been done to the backend. -/
  trail : List Deed := []
  deriving DecidableEq, Repr

/-- The knowledge about a backend in the course of its life. -/
def Handle.inStage (h : Handle) (phases : List Phase) (n : ℕ) : Possession :=
  ⟨h.slot, phases, some h.backend, h.life.take n⟩

/-- The backend of a possession is what the owner takes it for. -/
structure Occupies (c : Scene) (o : Possession) (b : ℕ) : Prop where
  /-- It was started from the slot, and has only been killed by the owner. -/
  exists_backend : ∃ B, c.backends[b]? = some B ∧ B.slot = o.slot ∧
    (B.killed = true → .killed ⟨o.slot, b⟩ ∈ o.trail)
  /-- It was started from the slot last. -/
  newest : ∀ (k : ℕ) (B : Backend), c.backends[k]? = some B → B.slot = o.slot → k ≤ b
  /-- What has been done to it. -/
  trail_eq : trail c.deeds ⟨o.slot, b⟩ = o.trail

/-- The knowledge of an owner is right. -/
structure Holds (c : Scene) (o : Possession) : Prop where
  /-- The slot is locked. -/
  locked : (c.slot o.slot).locked = true
  /-- Its state is one of those. -/
  phase : (c.slot o.slot).phase ∈ o.phases
  /-- What still runs in the slot is the backend, and its end has not been seen yet. -/
  running : ∀ (b : ℕ) (B : Backend), c.backends[b]? = some B → B.slot = o.slot →
    B.status = none → o.backend = some b ∧ .confirmed ⟨o.slot, b⟩ ∉ o.trail
  /-- The backend is the right one. -/
  occupies : ∀ b, o.backend = some b → Occupies c o b

/-- Nobody has to know anything about a slot. -/
structure Free (c : Scene) (i : ℕ) : Prop where
  /-- It is unlocked. -/
  unlocked : (c.slot i).locked = false
  /-- It is idle. -/
  idle : (c.slot i).phase = .idle
  /-- All its backends have ended. -/
  ended : ∀ (b : ℕ) (B : Backend), c.backends[b]? = some B → B.slot = i → B.status ≠ none

variable {c c' : Scene} {i : ℕ} {o : Possession}

/-- Owners only know about their own slot. -/
theorem Holds.congr (h : Holds c o) (ho : o.slot ≠ i) (hc : Scene.AgreesOff i c c') :
    Holds c' o where
  locked := by rw [hc.slot _ ho]; exact h.locked
  phase := by rw [hc.slot _ ho]; exact h.phase
  running b B hB hslot hstatus :=
    h.running b B ((hc.backend b B (hslot ▸ ho)).mp hB) hslot hstatus
  occupies b hb := by
    obtain ⟨⟨B, hB, hslot, hkilled⟩, hnew, htrail⟩ := h.occupies b hb
    refine ⟨⟨B, (hc.backend b B (hslot ▸ ho)).mpr hB, hslot, hkilled⟩, ?_, ?_⟩
    · intro k A hA hAslot
      exact hnew k A ((hc.backend k A (hAslot ▸ ho)).mp hA) hAslot
    · rw [hc.trail _ ho]
      exact htrail

/-- A slot stays free while something happens to another one. -/
theorem Free.congr {j : ℕ} (h : Free c j) (hj : j ≠ i) (hc : Scene.AgreesOff i c c') :
    Free c' j where
  unlocked := by rw [hc.slot _ hj]; exact h.unlocked
  idle := by rw [hc.slot _ hj]; exact h.idle
  ended b B hB hslot := h.ended b B ((hc.backend b B (hslot ▸ hj)).mp hB) hslot

/-! ### The invariant -/

/-- A deed that may stand on record: it was done to a backend that exists, or it was a change of
state that belongs to a slot's life. -/
structure Deed.Proper (count : ℕ) (d : Deed) : Prop where
  /-- The backend exists. -/
  known : ∀ h, d.handle? = some h → h.backend < count
  /-- The change of state is allowed. -/
  allowed : ∀ i p q, d = .moved i p q → p.allows q = true

/-- No slot has two owners, every owner's knowledge is right, and the slots without an owner are
free. -/
structure Owned (c : Scene) (os : List Possession) : Prop where
  /-- No slot has two owners. -/
  apart : (os.map (·.slot)).Nodup
  /-- What the owners know is right. -/
  held : ∀ o ∈ os, Holds c o
  /-- All other slots are free. -/
  free : ∀ i, i ∉ os.map (·.slot) → Free c i
  /-- The record is proper. -/
  proper : ∀ d ∈ c.deeds, d.Proper c.backends.length

variable {os os' : List Possession} {o' : Possession}

/-- The order of the possessions does not matter. -/
theorem Owned.perm (h : Owned c os) (hp : os.Perm os') : Owned c os' where
  apart := (hp.map _).nodup_iff.mp h.apart
  held o ho := h.held o (hp.mem_iff.mpr ho)
  free i hi := h.free i fun hmem => hi ((hp.map _).mem_iff.mp hmem)
  proper := h.proper

/-- Nothing that is known of a record is forgotten when backends are added. -/
theorem Deed.Proper.mono {m n : ℕ} {d : Deed} (h : d.Proper m) (hmn : m ≤ n) : d.Proper n :=
  ⟨fun t ht => Nat.lt_of_lt_of_le (h.known t ht) hmn, h.allowed⟩

/-- The other owners' slots are other slots. -/
theorem Owned.slot_ne (h : Owned c (o :: os)) {p : Possession} (hp : p ∈ os) :
    p.slot ≠ o.slot := by
  have hnodup := h.apart
  rw [List.map_cons, List.nodup_cons] at hnodup
  intro heq
  exact hnodup.1 (heq ▸ List.mem_map_of_mem hp)

/-- **What one owner does to its own slot is no concern of the others.** -/
theorem Owned.replace (h : Owned c (o :: os)) (hslot : o'.slot = o.slot)
    (hoff : Scene.AgreesOff o.slot c c') (hheld : Holds c' o')
    (hproper : ∀ d ∈ c'.deeds, d.Proper c'.backends.length) : Owned c' (o' :: os) where
  apart := by
    rw [List.map_cons, hslot]
    exact h.apart
  held p hp := by
    rcases List.mem_cons.mp hp with rfl | hmem
    · exact hheld
    · exact (h.held p (List.mem_cons_of_mem _ hmem)).congr (h.slot_ne hmem) hoff
  free i hi := by
    rw [List.map_cons, hslot] at hi
    refine (h.free i hi).congr ?_ hoff
    rintro rfl
    exact hi List.mem_cons_self
  proper := hproper

/-- A slot that nobody has locked gets an owner, who knows that it is idle. -/
theorem Owned.take (h : Owned c os) (hi : i < c.slots.length)
    (hfree : (c.slot i).locked = false) :
    Owned (c.onSlot i fun slot => { slot with locked := true })
      (⟨i, [.idle], none, []⟩ :: os) := by
  have hnew : i ∉ os.map (·.slot) := by
    intro hmem
    obtain ⟨p, hp, rfl⟩ := List.mem_map.mp hmem
    exact Bool.false_ne_true (hfree.symm.trans (h.held p hp).locked)
  have hoff := Scene.agreesOff_onSlot c i fun slot => { slot with locked := true }
  have hself := Scene.slot_onSlot_self (c := c) (fun slot => { slot with locked := true }) hi
  refine ⟨List.nodup_cons.mpr ⟨hnew, h.apart⟩, ?_, ?_, h.proper⟩
  · intro p hp
    rcases List.mem_cons.mp hp with rfl | hmem
    · refine ⟨?_, ?_, ?_, ?_⟩
      · rw [hself]
      · rw [hself]
        exact List.mem_singleton.mpr (h.free i hnew).idle
      · intro b B hB hslot hstatus
        exact absurd hstatus ((h.free i hnew).ended b B hB hslot)
      · intro b hb
        exact absurd hb (by simp)
    · refine (h.held p hmem).congr ?_ hoff
      rintro rfl
      exact hnew (List.mem_map_of_mem hmem)
  · intro j hj
    rw [List.map_cons, List.mem_cons, not_or] at hj
    exact (h.free j hj.2).congr hj.1 hoff

/-- The owner of an idle slot gives it up when it is certain that nothing runs in it. -/
theorem Owned.release (h : Owned c (o :: os)) (hphases : o.phases = [.idle])
    (hended : ∀ b, o.backend = some b → .confirmed ⟨o.slot, b⟩ ∈ o.trail) :
    Owned (c.onSlot o.slot (·.unlock)) os := by
  have hheld := h.held o List.mem_cons_self
  have hoff := Scene.agreesOff_onSlot c o.slot (·.unlock)
  have hself := Scene.slot_onSlot_self (c := c) (·.unlock)
    (Scene.lt_length_of_locked hheld.locked)
  refine ⟨(List.nodup_cons.mp h.apart).2, ?_, ?_, h.proper⟩
  · intro p hp
    exact (h.held p (List.mem_cons_of_mem _ hp)).congr (h.slot_ne hp) hoff
  · intro i hi
    by_cases hio : i = o.slot
    · subst hio
      refine ⟨?_, ?_, ?_⟩
      · rw [hself]
        rfl
      · rw [hself]
        have := hheld.phase
        rw [hphases] at this
        exact List.mem_singleton.mp this
      · intro b B hB hslot hstatus
        obtain ⟨hb, hnot⟩ := hheld.running b B hB hslot hstatus
        exact hnot (hended b hb)
    · refine (h.free i ?_).congr hio hoff
      rw [List.map_cons, List.mem_cons, not_or]
      exact ⟨hio, hi⟩

/-- A backend may end at any moment. -/
theorem Owned.exit (h : Owned c os) (b : ℕ) (status : ExitStatus) :
    Owned (c.onBackend b fun B => { B with status := some status }) os := by
  have hback {k : ℕ} {B : Backend}
      (hB : (c.onBackend b fun B => { B with status := some status }).backends[k]? = some B) :
      ∃ A, c.backends[k]? = some A ∧ A.slot = B.slot ∧ A.killed = B.killed ∧
        (B.status = none → A.status = none) := by
    obtain ⟨A, hA, rfl⟩ := c.exists_of_getElem?_onBackend _ _ hB
    refine ⟨A, hA, ?_, ?_, ?_⟩ <;> split <;> simp
  refine ⟨h.apart, ?_, ?_, ?_⟩
  · intro o ho
    have hheld := h.held o ho
    refine ⟨hheld.locked, hheld.phase, ?_, ?_⟩
    · intro k B hB hslot hstatus
      obtain ⟨A, hA, hAslot, -, hAstatus⟩ := hback hB
      exact hheld.running k A hA (hAslot.trans hslot) (hAstatus hstatus)
    · intro k hk
      obtain ⟨⟨A, hA, hAslot, hkilled⟩, hnew, htrail⟩ := hheld.occupies k hk
      refine ⟨⟨_, c.getElem?_onBackend _ _ hA, ?_, ?_⟩, ?_, htrail⟩
      · split <;> exact hAslot
      · split <;> exact hkilled
      · intro j B hB hslot
        obtain ⟨D, hD, hDslot, -, -⟩ := hback hB
        exact hnew j D hD (hDslot.trans hslot)
  · intro i hi
    refine ⟨(h.free i hi).unlocked, (h.free i hi).idle, ?_⟩
    intro k B hB hslot hstatus
    obtain ⟨A, hA, hAslot, -, hAstatus⟩ := hback hB
    exact (h.free i hi).ended k A hA (hAslot.trans hslot) (hAstatus hstatus)
  · rw [Scene.onBackend, List.length_modify]
    exact h.proper

end LivePages.Ring
