import Mathlib.Algebra.Group.Nat.Defs
import Mathlib.Data.List.Basic
import LivePages.Text.Hex

/-!
# Hexadecimal Numbers Read Back

The digits that are written for a number are read as that number, and there are no more of them
than the number needs.

## Main results

* `hexNumber?_toHex`: the shortest spelling of a number is read as the number.
* `length_toHex_le`: a number below `16 ^ k` has at most `k` digits, if that is not zero.
* `hexNumber?_upperHex4`, `exists_upperHex4_eq`: a number is read from its digits with zeros before
  them, and these are four if it is below `16 ^ 4`.
-/

namespace LivePages.Text

/-! ### Digits -/

@[simp] theorem hexValue?_hexDigit : ∀ n < 16, hexValue? (hexDigit n) = some n := by
  decide

@[simp] theorem hexValue?_hexDigitUpper : ∀ n < 16, hexValue? (hexDigitUpper n) = some n := by
  decide

/-! ### Numbers -/

/-- The value of digits read after a number. -/
def hexValueFrom? (start : ℕ) (digits : List Char) : Option ℕ :=
  digits.foldlM (fun n c => (hexValue? c).map (16 * n + ·)) start

theorem hexNumber?_eq {digits : List Char} (h : digits ≠ []) :
    hexNumber? digits = hexValueFrom? 0 digits := by
  cases digits with
  | nil => exact absurd rfl h
  | cons c r => rfl

theorem hexValueFrom?_append (n : ℕ) (s t : List Char) :
    hexValueFrom? n (s ++ t) = (hexValueFrom? n s).bind (hexValueFrom? · t) := by
  rw [hexValueFrom?, List.foldlM_append]
  rfl

theorem notMem_of_hexValueFrom? {digits : List Char} {start n : ℕ} {c : Char}
    (h : hexValueFrom? start digits = some n) (hc : hexValue? c = none) : c ∉ digits := by
  induction digits generalizing start with
  | nil => exact List.not_mem_nil
  | cons d r ih =>
      rw [hexValueFrom?, List.foldlM_cons] at h
      intro hmem
      rcases List.mem_cons.mp hmem with rfl | hmem
      · simp [hc] at h
      · obtain ⟨m, -, hrest⟩ := Option.bind_eq_some_iff.mp h
        exact ih hrest hmem

/-- What is no digit stands in no number. -/
theorem notMem_of_hexNumber? {digits : List Char} {n : ℕ} {c : Char}
    (h : hexNumber? digits = some n) (hc : hexValue? c = none) : c ∉ digits := by
  intro hmem
  rw [hexNumber?_eq (List.ne_nil_of_mem hmem)] at h
  exact notMem_of_hexValueFrom? h hc hmem

theorem hexDigitsLow_ne_nil (digit : ℕ → Char) (fuel n : ℕ) :
    hexDigitsLow digit (fuel + 1) n ≠ [] := by
  simp [hexDigitsLow]

/-- The digits of a number, if the fuel lasts, are read as the number. -/
theorem hexValueFrom?_reverse_hexDigitsLow {digit : ℕ → Char}
    (hdigit : ∀ n < 16, hexValue? (digit n) = some n) {fuel n : ℕ} (h : n < fuel) :
    hexValueFrom? 0 (hexDigitsLow digit fuel n).reverse = some n := by
  induction fuel generalizing n with
  | zero => exact absurd h (Nat.not_lt_zero n)
  | succ fuel ih =>
      have hlast : hexValue? (digit (n % 16)) = some (n % 16) :=
        hdigit _ (Nat.mod_lt n (by decide))
      have hfront : hexValueFrom? 0
          (if n / 16 = 0 then [] else hexDigitsLow digit fuel (n / 16)).reverse =
            some (n / 16) := by
        split
        · next hzero => rw [hzero]; rfl
        · exact ih (by omega)
      rw [hexDigitsLow, List.reverse_cons, hexValueFrom?_append, hfront, Option.bind_some,
        hexValueFrom?, List.foldlM_cons, hlast]
      exact congrArg some (Nat.div_add_mod n 16)

/-- The shortest spelling of a number is read as the number. -/
theorem hexNumber?_toHex (n : ℕ) : hexNumber? (toHex n) = some n := by
  have hne : toHex n ≠ [] := mt List.reverse_eq_nil_iff.mp (hexDigitsLow_ne_nil hexDigit n n)
  rw [hexNumber?_eq hne]
  exact hexValueFrom?_reverse_hexDigitsLow hexValue?_hexDigit (Nat.lt_succ_self n)

/-- A number below a power of sixteen has at most as many digits as the exponent. -/
theorem length_hexDigitsLow_le (digit : ℕ → Char) (fuel : ℕ) {n k : ℕ} (h : n < 16 ^ (k + 1)) :
    (hexDigitsLow digit fuel n).length ≤ k + 1 := by
  induction fuel generalizing n k with
  | zero => exact Nat.zero_le _
  | succ fuel ih =>
      rw [hexDigitsLow, List.length_cons]
      split
      · exact Nat.succ_le_succ (Nat.zero_le k)
      · next hzero =>
        cases k with
        | zero => exact absurd (Nat.div_eq_of_lt h) hzero
        | succ k =>
            have hdiv : n / 16 < 16 ^ (k + 1) := Nat.div_lt_of_lt_mul (by rwa [← Nat.pow_succ'])
            exact Nat.succ_le_succ (ih hdiv)

theorem length_toHex_le {n k : ℕ} (h : n < 16 ^ (k + 1)) : (toHex n).length ≤ k + 1 := by
  rw [toHex, List.length_reverse]
  exact length_hexDigitsLow_le hexDigit _ h

/-! ### Four digits -/

theorem hexNumber?_upperHex4 (n : ℕ) : hexNumber? (upperHex4 n) = some n := by
  have hzeros (k : ℕ) : hexValueFrom? 0 (List.replicate k '0') = some 0 := by
    induction k with
    | zero => rfl
    | succ k ih => exact ih
  have hne : upperHex4 n ≠ [] := by
    simp [upperHex4, hexDigitsLow_ne_nil]
  rw [hexNumber?_eq hne, upperHex4, hexValueFrom?_append, hzeros, Option.bind_some]
  exact hexValueFrom?_reverse_hexDigitsLow hexValue?_hexDigitUpper (Nat.lt_succ_self n)

/-- A number below `16 ^ 4` has exactly four digits. -/
theorem exists_upperHex4_eq {n : ℕ} (h : n < 0x10000) :
    ∃ a b c d, upperHex4 n = [a, b, c, d] := by
  have hlength : (hexDigitsLow hexDigitUpper (n + 1) n).length ≤ 4 :=
    length_hexDigitsLow_le hexDigitUpper (n + 1) h
  have hfour : (upperHex4 n).length = 4 := by
    simp only [upperHex4, List.length_append, List.length_replicate, List.length_reverse]
    omega
  match upperHex4 n, hfour with
  | [a, b, c, d], _ => exact ⟨a, b, c, d, rfl⟩

theorem mem_hexDigitsLow {digit : ℕ → Char} {fuel n : ℕ} {c : Char}
    (h : c ∈ hexDigitsLow digit fuel n) : ∃ d < 16, c = digit d := by
  induction fuel generalizing n with
  | zero => exact absurd h List.not_mem_nil
  | succ fuel ih =>
      rw [hexDigitsLow] at h
      rcases List.mem_cons.mp h with rfl | h
      · exact ⟨n % 16, Nat.mod_lt n (by decide), rfl⟩
      · split at h
        · exact absurd h List.not_mem_nil
        · exact ih h

/-- All of them are digits, the zeros they are filled up with as well. -/
theorem mem_upperHex4 {n : ℕ} {c : Char} (h : c ∈ upperHex4 n) :
    ∃ d < 16, c = hexDigitUpper d := by
  rcases List.mem_append.mp h with h | h
  · exact ⟨0, by decide, (List.mem_replicate.mp h).2⟩
  · exact mem_hexDigitsLow (List.mem_reverse.mp h)

/-- The character at the code point of a character is that character. -/
@[simp] theorem scalar?_toNat (c : Char) : scalar? c.toNat = some c := by
  have hvalid : c.toNat.isValidChar := c.valid
  rw [scalar?, dif_pos hvalid]
  rfl

end LivePages.Text
