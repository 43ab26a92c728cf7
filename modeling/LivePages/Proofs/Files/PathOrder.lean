import Mathlib.Order.Defs.LinearOrder
import LivePages.Files.Path

/-!
# The Order of Paths

Paths are ordered by their components, the first difference being decisive. This is a linear order
of the lists of components, so that a list of paths that is sorted strictly has no two paths with
the same components.

## Main results

* `compare_eq_iff`: equal paths are those with the same components.
* `compare_swap`: the order seen from the other side.
* `compare_lt_trans`: the order is transitive.
-/

namespace LivePages.Files.Path

/-! ### Components -/

namespace Component

/-- Only equal components compare equal. -/
theorem compare_eq_iff {a b : Component} : a.compare b = .eq ↔ a = b := by
  cases a with
  | name s =>
      cases b with
      | name t => simp [Component.compare]
      | _ => simp [Component.compare]
  | _ => cases b <;> simp [Component.compare]

/-- The order of components from the other side. -/
theorem compare_swap (a b : Component) : (a.compare b).swap = b.compare a := by
  cases a with
  | name s =>
      cases b with
      | name t => exact Std.OrientedOrd.eq_swap.symm
      | _ => rfl
  | _ => cases b <;> rfl

/-- The order of components is transitive. -/
theorem compare_lt_trans {a b c : Component} (hab : a.compare b = .lt)
    (hbc : b.compare c = .lt) : a.compare c = .lt := by
  cases a with
  | name s =>
      cases b with
      | name t =>
          cases c with
          | name u =>
              have htrans : Ord.compare s t = .lt → Ord.compare t u = .lt →
                  Ord.compare s u = .lt := Std.TransCmp.lt_trans
              exact htrans hab hbc
          | _ => exact absurd hbc (by simp [Component.compare])
      | _ => exact absurd hab (by simp [Component.compare])
  | _ => cases b <;> cases c <;> simp [Component.compare] at hab hbc ⊢

end Component

/-! ### Lists of components -/

/-- Only equal lists compare equal. -/
theorem compareComponents_eq_iff {a b : List Component} :
    compareComponents a b = .eq ↔ a = b := by
  induction a generalizing b with
  | nil => cases b <;> simp [compareComponents]
  | cons x a ih =>
      cases b with
      | nil => simp [compareComponents]
      | cons y b =>
          rw [compareComponents, Ordering.then_eq_eq, Component.compare_eq_iff, ih,
            List.cons.injEq]

/-- The order of lists from the other side. -/
theorem compareComponents_swap (a b : List Component) :
    (compareComponents a b).swap = compareComponents b a := by
  induction a generalizing b with
  | nil => cases b <;> rfl
  | cons x a ih =>
      cases b with
      | nil => rfl
      | cons y b =>
          rw [compareComponents, compareComponents, Ordering.swap_then,
            Component.compare_swap, ih]

/-- The order of lists is transitive. -/
theorem compareComponents_lt_trans {a b c : List Component}
    (hab : compareComponents a b = .lt) (hbc : compareComponents b c = .lt) :
    compareComponents a c = .lt := by
  induction a generalizing b c with
  | nil =>
      cases c with
      | nil => cases b <;> simp [compareComponents] at hab hbc
      | cons z c => rfl
  | cons x a ih =>
      cases b with
      | nil => exact absurd hab (by simp [compareComponents])
      | cons y b =>
          cases c with
          | nil => exact absurd hbc (by simp [compareComponents])
          | cons z c =>
              rw [compareComponents, Ordering.then_eq_lt] at hab hbc ⊢
              rcases hab with hxy | ⟨hxy, hab⟩
              · rcases hbc with hyz | ⟨hyz, -⟩
                · exact Or.inl (Component.compare_lt_trans hxy hyz)
                · obtain rfl := Component.compare_eq_iff.mp hyz
                  exact Or.inl hxy
              · obtain rfl := Component.compare_eq_iff.mp hxy
                rcases hbc with hyz | ⟨hyz, hbc⟩
                · exact Or.inl hyz
                · exact Or.inr ⟨hyz, ih hab hbc⟩

/-! ### Paths -/

/-- Equal paths are those with the same components. -/
theorem compare_eq_iff {a b : String} : compare a b = .eq ↔ components a = components b :=
  compareComponents_eq_iff

/-- The order of paths from the other side. -/
theorem compare_swap (a b : String) : (compare a b).swap = compare b a :=
  compareComponents_swap _ _

/-- The order of paths is transitive. -/
theorem compare_lt_trans {a b c : String} (hab : compare a b = .lt) (hbc : compare b c = .lt) :
    compare a c = .lt :=
  compareComponents_lt_trans hab hbc

/-- A path that comes after another one has it before. -/
theorem compare_gt_iff {a b : String} : compare a b = .gt ↔ compare b a = .lt := by
  rw [← compare_swap b a]
  cases compare b a <;> simp

end LivePages.Files.Path
