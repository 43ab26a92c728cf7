import LivePages.Proofs.Ring.Act

/-!
# The Record

The acts of owners are on record, and the record says what happened: every change of state, every
kill, every end that was seen, and each of them in the order of the backend's course. What is said
here about a single act holds of whole runs, since a run is made of acts.

## Main results

* `Acts.recorded`: all changes of state are on record.
* `Acts.faithful`: kills are on record, and an end that was seen has come.
* `Acts.attended`: every published backend has an owner until it is given up.
* `Acts.onCourse`: what is done to a backend is done in the order of its course.
* `Acts.relieved`: strictly taken, no published backend is killed before it has a successor.
-/

namespace LivePages.Ring

variable {c c' : Scene} {o : Possession} {os : List Possession} {strict : Bool}
  {m m' : Option Possession}

/-! ### Slots -/

/-- What depends neither on the states nor on the locks of the slots stays as it is. -/
theorem Acts.map_slots {α : Type} {f : Slot → α}
    (hlock : ∀ slot locked, f { slot with locked } = f slot)
    (hmove : ∀ slot next, f (slot.move next) = f slot) (ha : Acts strict m c m' c') :
    c'.slots.map f = c.slots.map f := by
  have hslot (c : Scene) (i : ℕ) (g : Slot → Slot) (hg : ∀ slot, f (g slot) = f slot) :
      (c.onSlot i g).slots.map f = c.slots.map f := by
    refine List.ext_getElem? fun j => ?_
    rw [Scene.onSlot, List.getElem?_map, List.getElem?_map, List.getElem?_modify,
      Option.map_eq_map, Option.map_map]
    refine Option.map_congr fun slot _ => ?_
    simp only [Function.comp_apply]
    split
    · exact hg slot
    · rfl
  induction ha with
  | rest | widen | forget | note | start | act | kill => rfl
  | take => exact hslot _ _ _ fun slot => hlock slot true
  | move => exact hslot _ _ _ fun slot => hmove slot _
  | release => exact hslot _ _ _ fun slot => hlock slot false
  | trans _ _ ih ih' => exact ih'.trans ih

/-- The addresses of the slots stay as they are. -/
theorem Acts.addrs (ha : Acts strict m c m' c') :
    c'.slots.map (·.addr) = c.slots.map (·.addr) :=
  ha.map_slots (fun _ _ => rfl) fun _ _ => rfl

/-- The executables of the slots stay as they are. -/
theorem Acts.exePaths (ha : Acts strict m c m' c') :
    c'.slots.map (·.exePath) = c.slots.map (·.exePath) :=
  ha.map_slots (fun _ _ => rfl) fun _ _ => rfl

/-- **All changes of state are on record.** -/
theorem Acts.recorded (ha : Acts strict m c m' c') (h : Owned c (m.toList ++ os))
    (hrec : ∀ i, (c.slot i).phase = phaseOf c.deeds i) (i : ℕ) :
    (c'.slot i).phase = phaseOf c'.deeds i := by
  induction ha generalizing i with
  | rest | widen | forget => exact hrec i
  | take | release =>
      refine (Scene.phase_onSlot _ ?_ _ _).trans (hrec i)
      exact fun _ => rfl
  | @move o c next _ _ =>
      rw [Scene.move, Scene.slot_record, Scene.deeds_record]
      by_cases hi : i = o.slot
      · subst hi
        have hlocked := (h.held _ List.mem_cons_self).locked
        rw [c.slot_onSlot_self _ (Scene.lt_length_of_locked hlocked), phaseOf_concat_moved]
        rfl
      · have hd : (Deed.moved o.slot (c.slot o.slot).phase next).phase? i = none :=
          if_neg (Ne.symm hi)
        rw [c.slot_onSlot_of_ne _ hi, phaseOf_concat_of_none _ hd]
        exact hrec i
  | @note _ _ d _ hmoved =>
      rw [Scene.deeds_record, phaseOf_concat_of_none]
      · exact hrec i
      · cases d with
        | moved i p q => exact absurd rfl (hmoved i p q)
        | _ => rfl
  | start | kill =>
      rw [Scene.deeds_record, phaseOf_concat_of_none _ rfl]
      exact hrec i
  | @act _ _ _ d _ hhandle _ _ _ =>
      rw [Scene.deeds_record, phaseOf_concat_of_none]
      · exact hrec i
      · cases d with
        | moved => exact absurd hhandle (by simp [Deed.handle?])
        | _ => rfl
  | trans h₁ _ ih ih' => exact ih' (h.acts h₁) (ih h hrec) i

/-- Nothing is taken off the record. -/
theorem Acts.deeds_isPrefix (ha : Acts strict m c m' c') : c.deeds <+: c'.deeds := by
  induction ha with
  | rest | take | widen | forget | release => exact List.prefix_rfl
  | move | note | start | act | kill => exact List.prefix_append _ _
  | trans _ _ ih ih' => exact ih.trans ih'

/-! ### Backends -/

/-- What the record says about a backend is so: it has been told to end if and when the record
says so, and it has ended before the record says that this was seen. -/
structure Faithful (c : Scene) : Prop where
  /-- Kills are on record. -/
  killed : ∀ (b : ℕ) (B : Backend), c.backends[b]? = some B → B.killed = true →
    .killed ⟨B.slot, b⟩ ∈ c.deeds
  /-- An end that was seen has come. -/
  confirmed : ∀ h : Handle, .confirmed h ∈ c.deeds →
    ∃ B, c.backends[h.backend]? = some B ∧ B.status ≠ none

/-- A deed that is neither a kill nor the sight of an end. -/
theorem Faithful.record (hf : Faithful c) {d : Deed}
    (hd : ∀ h, d = .confirmed h → ∃ B, c.backends[h.backend]? = some B ∧ B.status ≠ none) :
    Faithful (c.record d) where
  killed b B hB hkilled := List.mem_append_left _ (hf.killed b B hB hkilled)
  confirmed h hmem := by
    rcases List.mem_append.mp hmem with hmem | hmem
    · exact hf.confirmed h hmem
    · exact hd h (List.mem_singleton.mp hmem).symm

/-- A backend that ends of itself. -/
theorem Faithful.exit (hf : Faithful c) (b : ℕ) (status : ExitStatus) :
    Faithful (c.onBackend b fun B => { B with status := some status }) where
  killed k B hB hkilled := by
    obtain ⟨A, hA, rfl⟩ := c.exists_of_getElem?_onBackend _ _ hB
    have hslot : (if b = k then { A with status := some status } else A).slot = A.slot := by
      split <;> rfl
    rw [hslot]
    refine hf.killed k A hA ?_
    split at hkilled <;> exact hkilled
  confirmed h hmem := by
    obtain ⟨A, hA, hstatus⟩ := hf.confirmed h hmem
    refine ⟨_, c.getElem?_onBackend _ _ hA, ?_⟩
    split
    · simp
    · exact hstatus

/-- **What the record says about the backends is so.** -/
theorem Acts.faithful (ha : Acts strict m c m' c') (h : Owned c (m.toList ++ os))
    (hf : Faithful c) : Faithful c' := by
  induction ha with
  | rest | widen | forget => exact hf
  | take | release => exact ⟨hf.killed, hf.confirmed⟩
  | move => exact Faithful.record (c := Scene.onSlot _ _ _) ⟨hf.killed, hf.confirmed⟩ (by simp)
  | note hhandle _ =>
      refine hf.record ?_
      rintro t rfl
      exact absurd hhandle (by simp [Deed.handle?])
  | @start o c b hnone hslot hkilled =>
      refine Faithful.record (c := c.add b) ⟨?_, ?_⟩ (by simp)
      · intro k B hB hBkilled
        rw [Scene.backends_add, List.getElem?_append] at hB
        split at hB
        · exact hf.killed k B hB hBkilled
        · obtain rfl := List.mem_singleton.mp (List.mem_of_getElem? hB)
          exact absurd (hkilled.symm.trans hBkilled) Bool.false_ne_true
      · intro t ht
        obtain ⟨B, hB, hstatus⟩ := hf.confirmed t ht
        have hlt := (List.getElem?_eq_some_iff.mp hB).1
        refine ⟨B, ?_, hstatus⟩
        rw [Scene.backends_add, List.getElem?_append_left hlt]
        exact hB
  | act hb hhandle _ _ hconfirmed =>
      refine hf.record ?_
      rintro t rfl
      obtain rfl := Option.some.inj hhandle
      obtain ⟨B, hB, -⟩ := ((h.held _ List.mem_cons_self).occupies _ hb).exists_backend
      exact ⟨B, hB, hconfirmed rfl B hB⟩
  | @kill o c b hb _ _ =>
      obtain ⟨D, hD, hDslot, -⟩ := ((h.held _ List.mem_cons_self).occupies _ hb).exists_backend
      refine ⟨?_, ?_⟩
      · intro k B hB hkilled
        obtain ⟨A, hA, rfl⟩ := c.exists_of_getElem?_onBackend _ _ hB
        by_cases hbk : b = k
        · subst hbk
          obtain rfl : D = A := Option.some.inj (hD.symm.trans hA)
          rw [if_pos rfl, ← hDslot]
          exact List.mem_append_right _ List.mem_cons_self
        · rw [if_neg hbk] at hkilled ⊢
          exact List.mem_append_left _ (hf.killed k A hA hkilled)
      · intro t ht
        rcases List.mem_append.mp ht with ht | ht
        · obtain ⟨B, hB, hstatus⟩ := hf.confirmed t ht
          refine ⟨_, c.getElem?_onBackend _ _ hB, ?_⟩
          split <;> exact hstatus
        · exact absurd (List.mem_singleton.mp ht) (by simp)
  | trans h₁ _ ih ih' => exact ih' (h.acts h₁) (ih h hf)

/-- A backend has been given up, or it has an owner. -/
def Attended (deeds : List Deed) (os : List Possession) (h : Handle) : Prop :=
  .unlocked h ∈ deeds ∨ ∃ o ∈ os, o.slot = h.slot ∧ o.backend = some h.backend

/-- The order of the owners does not matter. -/
theorem Attended.perm {deeds : List Deed} {os os' : List Possession} {h : Handle}
    (ha : Attended deeds os h) (hp : os.Perm os') : Attended deeds os' h := by
  rcases ha with hmem | ⟨o, ho, hslot, hbackend⟩
  · exact Or.inl hmem
  · exact Or.inr ⟨o, hp.mem_iff.mp ho, hslot, hbackend⟩

/-- The owner of one backend may change, and others stay. -/
theorem Attended.replace {deeds deeds' : List Deed} {h : Handle} {o' : Possession}
    (ha : Attended deeds (o :: os) h) (hdeeds : deeds ⊆ deeds') (hslot : o'.slot = o.slot)
    (hbackend : o.backend = some h.backend → o'.backend = some h.backend) :
    Attended deeds' (o' :: os) h := by
  rcases ha with hmem | ⟨p, hp, hpslot, hpbackend⟩
  · exact Or.inl (hdeeds hmem)
  · rcases List.mem_cons.mp hp with rfl | hmem
    · exact Or.inr ⟨o', List.mem_cons_self, hslot.trans hpslot, hbackend hpbackend⟩
    · exact Or.inr ⟨p, List.mem_cons_of_mem _ hmem, hpslot, hpbackend⟩

/-- **Every published backend has an owner until it is given up.** -/
theorem Acts.attended (ha : Acts strict m c m' c') (h : Owned c (m.toList ++ os))
    (hatt : ∀ t, .published t ∈ c.deeds → Attended c.deeds (m.toList ++ os) t) (t : Handle)
    (hp : .published t ∈ c'.deeds) : Attended c'.deeds (m'.toList ++ os) t := by
  induction ha generalizing t with
  | rest => exact hatt t hp
  | take =>
      rcases hatt t hp with hmem | ⟨p, hp, hslot, hbackend⟩
      · exact Or.inl hmem
      · exact Or.inr ⟨p, List.mem_cons_of_mem _ hp, hslot, hbackend⟩
  | widen => exact (hatt t hp).replace (List.Subset.refl _) rfl id
  | @forget o c _ hunpublished =>
      rcases hatt t hp with hmem | ⟨p, hmem, hslot, hbackend⟩
      · exact Or.inl hmem
      · rcases List.mem_cons.mp hmem with rfl | hmem
        · have htrail := ((h.held _ List.mem_cons_self).occupies _ hbackend).trail_eq
          refine absurd ((mem_trail rfl).mpr hp) ?_
          rw [show t = ⟨p.slot, t.backend⟩ by rw [hslot], htrail]
          exact hunpublished _ hbackend
        · exact Or.inr ⟨p, List.mem_cons_of_mem _ hmem, hslot, hbackend⟩
  | move =>
      have hold := hatt t (by simpa [Scene.move] using hp)
      exact hold.replace (List.subset_append_left _ _) rfl id
  | note hhandle _ =>
      rcases List.mem_append.mp hp with hmem | hmem
      · exact (hatt t hmem).replace (List.subset_append_left _ _) rfl id
      · rw [← List.mem_singleton.mp hmem] at hhandle
        exact absurd hhandle (by simp [Deed.handle?])
  | start hnone _ _ =>
      have hold := hatt t (by simpa using hp)
      refine hold.replace (List.subset_append_left _ _) rfl ?_
      intro hb
      exact absurd (hnone.symm.trans hb) (by simp)
  | act hb hhandle _ _ _ =>
      rcases List.mem_append.mp hp with hmem | hmem
      · exact (hatt t hmem).replace (List.subset_append_left _ _) rfl id
      · rw [← List.mem_singleton.mp hmem] at hhandle
        obtain rfl := Option.some.inj hhandle
        exact Or.inr ⟨_, List.mem_cons_self, rfl, hb⟩
  | kill =>
      have hold := hatt t (by simpa using hp)
      exact hold.replace (List.subset_append_left _ _) rfl id
  | @release o c _ _ hunlocked =>
      rcases hatt t hp with hmem | ⟨p, hmem, hslot, hbackend⟩
      · exact Or.inl hmem
      · rcases List.mem_cons.mp hmem with rfl | hmem
        · have htrail := ((h.held _ List.mem_cons_self).occupies _ hbackend).trail_eq
          refine Or.inl ((mem_trail rfl).mp ?_)
          rw [Scene.deeds_onSlot, show t = ⟨p.slot, t.backend⟩ by rw [hslot], htrail]
          exact hunlocked _ hbackend
        · exact Or.inr ⟨p, hmem, hslot, hbackend⟩
  | trans h₁ _ ih ih' => exact ih' (h.acts h₁) (ih h hatt) t hp

/-! ### Courses and successors -/

/-- The trails stay on course when a deed is done that is the next one on its course. -/
theorem onCourse_record {h : Handle} {d : Deed} (hon : ∀ t, OnCourse strict t (trail c.deeds t))
    (hd : d.handle? = some h) (hcourse : OnCourse strict h (trail c.deeds h ++ [d]))
    (t : Handle) : OnCourse strict t (trail (c.record d).deeds t) := by
  by_cases ht : h = t
  · subst ht
    rw [Scene.deeds_record, trail_concat_of_eq _ hd]
    exact hcourse
  · rw [Scene.deeds_record, trail_concat_of_ne _ (by simpa [hd] using ht)]
    exact hon t

/-- **What is done to a backend is done in the order of its course.** -/
theorem Acts.onCourse (ha : Acts strict m c m' c') (h : Owned c (m.toList ++ os))
    (hon : ∀ t, OnCourse strict t (trail c.deeds t)) (t : Handle) :
    OnCourse strict t (trail c'.deeds t) := by
  induction ha generalizing t with
  | rest | take | widen | forget | release => exact hon t
  | move =>
      rw [Scene.move, Scene.deeds_record, trail_concat_of_ne _ (by simp [Deed.handle?])]
      exact hon t
  | note hhandle _ =>
      rw [Scene.deeds_record, trail_concat_of_ne _ (by simp [hhandle])]
      exact hon t
  | start =>
      refine onCourse_record (c := _) hon rfl ?_ t
      rw [h.trail_eq_nil (Nat.le_refl _)]
      exact onCourse_life_take strict _ 1
  | act hb hhandle _ hcourse _ =>
      refine onCourse_record hon hhandle ?_ t
      rw [((h.held _ List.mem_cons_self).occupies _ hb).trail_eq]
      exact hcourse
  | kill hb hcourse _ =>
      refine onCourse_record (d := .killed _) hon rfl ?_ t
      rw [((h.held _ List.mem_cons_self).occupies _ hb).trail_eq]
      exact hcourse
  | trans h₁ _ ih ih' => exact ih' (h.acts h₁) (ih h hon) t

/-- Every backend that was published before it was killed had its successor by then. -/
def Relieved (deeds : List Deed) : Prop :=
  ∀ before h after, deeds = before ++ .killed h :: after → .published h ∈ before →
    Succeeded before h

/-- Another deed than a kill does not matter. A kill matters when the backend was published. -/
theorem Relieved.concat {deeds : List Deed} (hr : Relieved deeds) {d : Deed}
    (hd : ∀ h, d = .killed h → .published h ∈ deeds → Succeeded deeds h) :
    Relieved (deeds ++ [d]) := by
  intro before h after heq hp
  rcases List.eq_nil_or_concat after with rfl | ⟨after, last, rfl⟩
  · obtain ⟨rfl, hlast⟩ := List.append_inj' heq rfl
    exact hd h (List.cons.inj hlast).1 hp
  · have hlast : deeds ++ [d] = (before ++ .killed h :: after) ++ [last] := by simpa using heq
    obtain ⟨hinit, -⟩ := List.append_inj' hlast rfl
    exact hr before h after hinit hp

/-- **No published backend is killed before it has a successor**, strictly taken. -/
theorem Acts.relieved (ha : Acts true m c m' c') (h : Owned c (m.toList ++ os))
    (hr : Relieved c.deeds) : Relieved c'.deeds := by
  induction ha with
  | rest | take | widen | forget | release => exact hr
  | move => exact hr.concat (by simp)
  | note hhandle _ =>
      refine hr.concat ?_
      rintro t rfl
      exact absurd hhandle (by simp [Deed.handle?])
  | start => exact hr.concat (by simp)
  | act _ hhandle hkill _ _ =>
      refine hr.concat ?_
      rintro t rfl
      obtain rfl := Option.some.inj hhandle
      exact absurd rfl hkill
  | kill hb _ hrelief =>
      refine hr.concat ?_
      intro t ht hp
      obtain rfl := Deed.killed.inj ht
      have htrail := ((h.held _ List.mem_cons_self).occupies _ hb).trail_eq
      exact hrelief rfl (htrail ▸ (mem_trail rfl).mpr hp)
  | trans h₁ _ ih ih' => exact ih' (h.acts h₁) (ih h hr)

end LivePages.Ring
