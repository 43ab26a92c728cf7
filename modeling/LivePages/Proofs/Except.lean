import Mathlib.Logic.Basic

/-!
# Computations That May Fail

A sequence of computations comes to a value only through the values of its parts.

## Main results

* `bind_eq_ok_iff`: a sequence of two computations succeeds if both do.
* `map_eq_ok_iff`: a computation whose value is changed succeeds if it does.
* `ite_throw_eq_ok_iff`: what follows a check succeeds only if the check is passed.
* `eq_ok_of_mem_toOption`: a computation that has a value succeeds.
-/

namespace LivePages

variable {ε α β : Type} {x : Except ε α}

/-- What a sequence of two computations comes to if it does not fail. -/
theorem bind_eq_ok_iff {f : α → Except ε β} {b : β} :
    x >>= f = .ok b ↔ ∃ a, x = .ok a ∧ f a = .ok b := by
  cases x with
  | error e =>
      have hfail : (Except.error e : Except ε α) >>= f = .error e := rfl
      simp [hfail]
  | ok a =>
      have hrun : (Except.ok a : Except ε α) >>= f = f a := rfl
      simp [hrun]

/-- What is made of the value of a computation. -/
theorem map_eq_ok_iff {f : α → β} {b : β} : x.map f = .ok b ↔ ∃ a, x = .ok a ∧ f a = b := by
  cases x <;> simp [Except.map]

/-- What comes after a check is reached only if there is nothing to throw. -/
theorem ite_throw_eq_ok_iff {c : Prop} [Decidable c] {e : ε} {f : α → Except ε β}
    {rest : Except ε β} {b : β} :
    (if c then (throw e >>= f) else rest) = .ok b ↔ ¬ c ∧ rest = .ok b := by
  by_cases hc : c
  · have hfail : (throw e : Except ε α) >>= f = .error e := rfl
    simp [hc, hfail]
  · simp [hc]

/-- A computation that has a value does not fail. -/
theorem eq_ok_of_mem_toOption {a : α} (h : a ∈ x.toOption) : x = .ok a := by
  cases x with
  | error e => exact absurd h (by simp [Except.toOption])
  | ok b => rw [Option.some.inj h]

/-- A computation with a state that has a value does not fail. -/
theorem eq_mk_of_mem_toOption {run : Except ε α × β} {a : α} (h : a ∈ run.1.toOption) :
    run = (.ok a, run.2) := by
  rcases run with ⟨x, state⟩
  exact congrArg (·, state) (eq_ok_of_mem_toOption h)

end LivePages
