import Mathlib.Data.List.Nodup
import Mathlib.Data.List.TakeWhile
import LivePages.Config.Basic

/-!
# Accepted Configurations

A configuration is checked for what a ring of backends needs: an address for the front end, and two
or more ports that are all different. The ports are passed from the first to the last with those
that have been seen, so the one that is reported is the first that occurs a second time.

## Main results

* `Config.firstRepeated?_eq_none_iff`: when no port is reported.
* `Config.validate_eq_ok_iff`: the configurations that are accepted.
-/

namespace LivePages

/-- Nothing is left of a text of blanks, and of no other. -/
theorem Text.trim_eq_nil_iff {s : List Char} : trim s = [] ↔ ∀ c ∈ s, isBlank c = true := by
  rw [trim, trimEnd, List.reverse_eq_nil_iff, List.dropWhile_eq_nil_iff]
  simp only [List.mem_reverse, trimStart]
  constructor
  · intro h
    -- what is left begins with no blank, so if it has only blanks it is empty
    have hempty : s.dropWhile isBlank = [] := by
      cases hs : s.dropWhile isBlank with
      | nil => rfl
      | cons c r =>
          have hhead := List.head?_dropWhile_not isBlank s
          rw [hs] at hhead h
          simp [h c List.mem_cons_self] at hhead
    exact List.dropWhile_eq_nil_iff.mp hempty
  · intro h c hc
    exact h c ((List.dropWhile_suffix isBlank).subset hc)

namespace Config

/-- No port is reported if none occurs twice or has been seen before. -/
theorem firstRepeated?_eq_none_iff {ports seen : List ℕ} :
    firstRepeated? seen ports = none ↔ ports.Nodup ∧ ∀ p ∈ ports, p ∉ seen := by
  induction ports generalizing seen with
  | nil => simp [firstRepeated?]
  | cons a ports ih =>
      rw [firstRepeated?, List.nodup_cons, List.forall_mem_cons]
      split
      · next hseen => simp [List.contains_iff_mem.mp hseen]
      · next hcontains =>
        have hseen : a ∉ seen := mt List.contains_iff_mem.mpr hcontains
        rw [ih]
        constructor
        · rintro ⟨hnodup, hnot⟩
          exact ⟨⟨fun hmem => hnot a hmem List.mem_cons_self, hnodup⟩, hseen,
            fun p hp hin => hnot p hp (List.mem_cons_of_mem a hin)⟩
        · rintro ⟨⟨hmem, hnodup⟩, -, hnot⟩
          refine ⟨hnodup, fun p hp hin => ?_⟩
          rcases List.mem_cons.mp hin with rfl | hin
          · exact hmem hp
          · exact hnot p hp hin

/-- **The configurations that are accepted.** -/
theorem validate_eq_ok_iff {config : Config} : config.validate = .ok () ↔
    (∃ c ∈ config.listenAddr.toList, Text.isBlank c = false) ∧
      2 ≤ config.backend.ports.length ∧ config.backend.ports.Nodup := by
  have hblank : (Text.trim config.listenAddr.toList).isEmpty = true ↔
      ¬ ∃ c ∈ config.listenAddr.toList, Text.isBlank c = false := by
    rw [List.isEmpty_iff, Text.trim_eq_nil_iff]
    simp
  have hports : firstRepeated? [] config.backend.ports = none ↔ config.backend.ports.Nodup := by
    simp [firstRepeated?_eq_none_iff]
  rw [validate, ← hports]
  split
  · next haddr => simp [hblank.mp haddr]
  · next haddr =>
    have hlisten : ∃ c ∈ config.listenAddr.toList, Text.isBlank c = false :=
      not_not.mp (mt hblank.mpr haddr)
    split
    · next hfew =>
      have hcount : ¬ 2 ≤ config.backend.ports.length := Nat.not_le_of_lt hfew
      simp [hcount]
    · next hmany =>
      have hcount : 2 ≤ config.backend.ports.length := Nat.le_of_not_lt hmany
      cases firstRepeated? [] config.backend.ports <;> simp [hlisten, hcount]

end Config

end LivePages
