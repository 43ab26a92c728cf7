import LivePages.Proofs.Ring.Ownership

/-!
# Backends Whose End Has Not Been Seen

A process that was started from a slot stays somebody's concern until its end is on record. So a
slot whose owner has seen the end of its backend, or has none, is used by no process at all.

## Main results

* `Machine.InUse`: a backend was started from a slot, and its end has not been seen.
* `Acts.watched`: every backend whose end has not been seen has an owner.
* `Machine.Sound.not_inUse`: a slot whose owner has no backend that may run is not in use.
-/

namespace LivePages.Ring

variable {c c' : Scene} {o o' : Possession} {os : List Possession} {strict : Bool}
  {m m' : Option Possession}

/-- A backend was started from a slot, and its end has not been seen. -/
def Machine.InUse (s : Machine) (i : ℕ) : Prop :=
  ∃ (k : ℕ) (B : Backend), s.backends[k]? = some B ∧ B.slot = i ∧ .confirmed ⟨i, k⟩ ∉ s.deeds

/-- Every backend whose end has not been seen has an owner. -/
def Watched (c : Scene) (os : List Possession) : Prop :=
  ∀ (k : ℕ) (B : Backend), c.backends[k]? = some B → .confirmed ⟨B.slot, k⟩ ∉ c.deeds →
    ∃ o ∈ os, o.slot = B.slot ∧ o.backend = some k

/-- The order of the owners does not matter. -/
theorem Watched.perm {os' : List Possession} (h : Watched c os) (hp : os.Perm os') :
    Watched c os' := by
  intro k B hB hunseen
  obtain ⟨o, ho, howns⟩ := h k B hB hunseen
  exact ⟨o, hp.mem_iff.mp ho, howns⟩

/-- The owner of one backend may change, and others stay. -/
theorem Watched.replace (h : Watched c (o :: os)) (hslot : o'.slot = o.slot)
    (hdeeds : c.deeds ⊆ c'.deeds)
    (hback : ∀ (k : ℕ) (B : Backend), c'.backends[k]? = some B →
      ∃ A, c.backends[k]? = some A ∧ A.slot = B.slot)
    (hbackend : ∀ k, o.backend = some k → .confirmed ⟨o.slot, k⟩ ∉ c'.deeds →
      o'.backend = some k) : Watched c' (o' :: os) := by
  intro k B hB hunseen
  obtain ⟨A, hA, hAslot⟩ := hback k B hB
  rw [← hAslot] at hunseen ⊢
  obtain ⟨p, hp, hpslot, hpbackend⟩ := h k A hA fun hmem => hunseen (hdeeds hmem)
  rcases List.mem_cons.mp hp with rfl | hmem
  · exact ⟨o', List.mem_cons_self, hslot.trans hpslot, hbackend k hpbackend (hpslot ▸ hunseen)⟩
  · exact ⟨p, List.mem_cons_of_mem _ hmem, hpslot, hpbackend⟩

/-- **Every backend whose end has not been seen has an owner.** -/
theorem Acts.watched (ha : Acts strict m c m' c') (h : Owned c (m.toList ++ os))
    (hw : Watched c (m.toList ++ os)) : Watched c' (m'.toList ++ os) := by
  have hseen {c : Scene} {o : Possession} {b : ℕ} (h : Owned c (o :: os))
      (hb : o.backend = some b) (hmem : .confirmed ⟨o.slot, b⟩ ∈ o.trail) :
      .confirmed ⟨o.slot, b⟩ ∈ c.deeds := by
    have htrail := ((h.held _ List.mem_cons_self).occupies _ hb).trail_eq
    exact (mem_trail rfl).mp (htrail ▸ hmem)
  induction ha with
  | rest => exact hw
  | take =>
      intro k B hB hunseen
      obtain ⟨p, hp, howns⟩ := hw k B hB hunseen
      exact ⟨p, List.mem_cons_of_mem _ hp, howns⟩
  | widen =>
      exact Watched.replace hw rfl (List.Subset.refl _) (fun _ B hB => ⟨B, hB, rfl⟩) fun _ hk _ => hk
  | forget hended _ =>
      refine Watched.replace hw rfl (List.Subset.refl _) (fun _ B hB => ⟨B, hB, rfl⟩) ?_
      intro k hk hunseen
      exact absurd (hseen h hk (hended k hk)) hunseen
  | move | note | act =>
      exact Watched.replace hw rfl (List.subset_append_left _ _) (fun _ B hB => ⟨B, hB, rfl⟩)
        fun _ hk _ => hk
  | kill =>
      refine Watched.replace hw rfl (List.subset_append_left _ _) ?_ fun _ hk _ => hk
      intro k B hB
      obtain ⟨A, hA, rfl⟩ := Scene.exists_of_getElem?_onBackend _ _ _ hB
      refine ⟨A, hA, ?_⟩
      split <;> rfl
  | @start o c b hnone hslot _ =>
      intro k B hB hunseen
      rw [Scene.backends_record, Scene.backends_add, List.getElem?_append] at hB
      split at hB
      · obtain ⟨p, hp, hpslot, hpbackend⟩ :=
          hw k B hB fun hmem => hunseen (List.mem_append_left _ hmem)
        rcases List.mem_cons.mp hp with rfl | hmem
        · exact absurd (hnone.symm.trans hpbackend) (by simp)
        · exact ⟨p, List.mem_cons_of_mem _ hmem, hpslot, hpbackend⟩
      · rename_i hk
        have hlt : k - c.backends.length < 1 := by
          simpa using List.getElem?_eq_some_iff.mp hB |>.1
        obtain rfl : k = c.backends.length := by omega
        obtain rfl : B = b := List.mem_singleton.mp (List.mem_of_getElem? hB)
        exact ⟨_, List.mem_cons_self, hslot.symm, rfl⟩
  | release _ hended _ =>
      intro k B hB hunseen
      obtain ⟨p, hp, hpslot, hpbackend⟩ := hw k B hB hunseen
      rcases List.mem_cons.mp hp with rfl | hmem
      · have hmem := hseen h hpbackend (hended k hpbackend)
        rw [hpslot] at hmem
        exact absurd hmem hunseen
      · exact ⟨p, hmem, hpslot, hpbackend⟩
  | trans h₁ _ ih ih' => exact ih' (h.acts h₁) (ih h hw)

/-! ### Slots in use -/

variable {s : Machine}

/-- The owner of a slot is the only one. -/
theorem Owned.eq_of_slot_eq (h : Owned c os) (ho : o ∈ os) (ho' : o' ∈ os)
    (hslot : o.slot = o'.slot) : o = o' :=
  List.inj_on_of_nodup_map h.apart ho ho' hslot

/-- A backend that runs uses its slot. -/
theorem Machine.Sound.inUse_of_running (h : s.Sound) {k : ℕ} {B : Backend}
    (hB : s.backends[k]? = some B) (hstatus : B.status = none) : s.InUse B.slot := by
  refine ⟨k, B, hB, rfl, fun hmem => ?_⟩
  rcases h.owned.cases B.slot with ⟨o, -, hslot, hheld⟩ | hfree
  · obtain ⟨hbackend, hunseen⟩ := hheld.running k B hB hslot.symm hstatus
    rw [← hslot] at hmem
    have htrail := (hheld.occupies k hbackend).trail_eq
    exact hunseen (htrail ▸ (mem_trail rfl).mpr hmem)
  · exact hfree.ended k B hB rfl hstatus

/-- A slot is not in use whose owner has no backend, or has seen its end. -/
theorem Machine.Sound.not_inUse (h : s.Sound) (hw : Watched s.scene s.possessions)
    (ho : o ∈ s.possessions)
    (hended : ∀ k, o.backend = some k → .confirmed ⟨o.slot, k⟩ ∈ o.trail) :
    ¬ s.InUse o.slot := by
  rintro ⟨k, B, hB, hslot, hunseen⟩
  obtain ⟨p, hp, hpslot, hpbackend⟩ := hw k B hB (hslot ▸ hunseen)
  obtain rfl := h.owned.eq_of_slot_eq hp ho (hpslot.trans hslot)
  have htrail := ((h.owned.held p hp).occupies k hpbackend).trail_eq
  exact hunseen ((mem_trail rfl).mp (htrail ▸ hended k hpbackend))

/-- A slot in use is one of the ring. -/
theorem Machine.Sound.lt_length_of_inUse (h : s.Sound) (hw : Watched s.scene s.possessions)
    {i : ℕ} (hi : s.InUse i) : i < s.slots.length := by
  obtain ⟨k, B, hB, rfl, hunseen⟩ := hi
  obtain ⟨o, ho, hslot, -⟩ := hw k B hB hunseen
  rw [← hslot]
  exact Scene.lt_length_of_locked (h.owned.held o ho).locked

end LivePages.Ring
