import LivePages.Escape.Query
import LivePages.Proofs.Text.Percent

/-!
# Components of Queries

A component of a query is made of characters that stand for themselves, plus signs for spaces, and
percent codes for all others. None of the characters that separate components is among them, and
what is left when the plus signs have been read is a percent coded text.

The plus sign is none of the characters that a component keeps, so a plus sign of the text is
written as a code, and reading all plus signs as spaces before the codes loses nothing.

## Main definitions

* `IsComponent`: what a component may look like.

## Main results

* `notMem_query`: what separates the components does not stand in one.
* `map_query`: a component in which the plus signs have been read.
* `query_read_back`: a component is well formed and read back.
-/

namespace LivePages.Escape

open Text

/-- The characters that a component keeps, once its plus signs are read as spaces. -/
def isQueryKept (c : Char) : Bool :=
  isQuerySafe c || c = ' '

/-- A component consists of characters that it keeps, plus signs, percent signs and digits. -/
theorem mem_query {text : String} {c : Char} (h : c ∈ (query text).toList) :
    isQuerySafe c = true ∨ c = '+' ∨ c = '%' ∨ ∃ n < 16, c = hexDigitUpper n := by
  rw [query, String.toList_ofList] at h
  obtain ⟨d, -, hd⟩ := List.mem_flatMap.mp h
  rw [queryPiece] at hd
  split at hd
  · exact .inr (.inl (List.mem_singleton.mp hd))
  · rcases Percent.mem_encode hd with hsafe | hpercent | hdigit
    · exact .inl hsafe
    · exact .inr (.inr (.inl hpercent))
    · exact .inr (.inr (.inr hdigit))

/-- What separates the components does not stand in one. -/
theorem notMem_query {c : Char} (hc : c = '&' ∨ c = '=') (text : String) :
    c ∉ (query text).toList := by
  intro h
  rcases mem_query h with hsafe | rfl | rfl | ⟨n, hn, rfl⟩
  · rcases hc with rfl | rfl <;> exact absurd hsafe (by decide)
  · exact absurd hc (by decide)
  · exact absurd hc (by decide)
  · have hdigit : ∀ n < 16, ¬ (hexDigitUpper n = '&' ∨ hexDigitUpper n = '=') := by decide
    exact hdigit n hn hc

/-- A plus sign stands for a space, and for nothing else. -/
theorem map_query (text : String) :
    ((query text).toList.map fun c => if c = '+' then ' ' else c) =
      Percent.encode isQueryKept text.toList := by
  have hpiece (c : Char) : ((queryPiece c).map fun d => if d = '+' then ' ' else d) =
      Percent.encode isQueryKept [c] := by
    by_cases hc : c = ' '
    · subst hc
      decide
    · have hplus : ∀ d ∈ Percent.encode isQuerySafe [c], (if d = '+' then ' ' else d) = d := by
        intro d hd
        refine if_neg ?_
        rintro rfl
        rcases Percent.mem_encode hd with hsafe | hpercent | ⟨n, hn, hdigit⟩
        · exact absurd hsafe (by decide)
        · exact absurd hpercent (by decide)
        · have hne : ∀ n < 16, '+' ≠ hexDigitUpper n := by decide
          exact hne n hn hdigit
      have hkept : isQueryKept c = isQuerySafe c := by simp [isQueryKept, hc]
      rw [queryPiece, if_neg hc, List.map_congr_left hplus, List.map_id']
      simp [Percent.encode, hkept]
  rw [query, String.toList_ofList, List.map_flatMap]
  simp only [hpiece, Percent.encode, List.flatMap_singleton]

/-! ### What a component looks like -/

/-- An ASCII letter, an ASCII digit, or one of the four marks. -/
def IsUnreserved (c : Char) : Prop :=
  'a' ≤ c ∧ c ≤ 'z' ∨ 'A' ≤ c ∧ c ≤ 'Z' ∨ '0' ≤ c ∧ c ≤ '9' ∨ c ∈ ['-', '_', '.', '~']

/-- A hexadecimal digit of either case. -/
def IsHexDigit (c : Char) : Prop :=
  '0' ≤ c ∧ c ≤ '9' ∨ 'A' ≤ c ∧ c ≤ 'F' ∨ 'a' ≤ c ∧ c ≤ 'f'

instance : DecidablePred IsUnreserved :=
  fun c => inferInstanceAs (Decidable ('a' ≤ c ∧ c ≤ 'z' ∨ 'A' ≤ c ∧ c ≤ 'Z' ∨ _))

instance : DecidablePred IsHexDigit :=
  fun c => inferInstanceAs (Decidable ('0' ≤ c ∧ c ≤ '9' ∨ 'A' ≤ c ∧ c ≤ 'F' ∨ _))

/-- A component of a query, from left to right: a percent sign stands only before two hexadecimal
digits. -/
inductive IsComponent : List Char → Prop where
  | nil : IsComponent []
  | kept {c : Char} {s : List Char} (hc : IsUnreserved c) (hs : IsComponent s) :
      IsComponent (c :: s)
  | plus {s : List Char} (hs : IsComponent s) : IsComponent ('+' :: s)
  | code {a b : Char} {s : List Char} (ha : IsHexDigit a) (hb : IsHexDigit b)
      (hs : IsComponent s) : IsComponent ('%' :: a :: b :: s)

theorem isUnreserved_of_isAlphanum {c : Char} (h : c.isAlphanum = true) : IsUnreserved c := by
  have hrange : ((decide ('A' ≤ c ∧ c ≤ 'Z') || (decide ('a' ≤ c) && decide (c ≤ 'z'))) ||
      (decide ('0' ≤ c) && decide (c ≤ '9'))) = true := h
  simp only [Bool.or_eq_true, Bool.and_eq_true, decide_eq_true_eq] at hrange
  rcases hrange with (hupper | hlower) | hdigit
  · exact .inr (.inl hupper)
  · exact .inl hlower
  · exact .inr (.inr (.inl hdigit))

theorem isUnreserved_of_isQuerySafe {c : Char} (h : isQuerySafe c = true) : IsUnreserved c := by
  simp only [isQuerySafe, Percent.isAlphanumeric, Bool.or_eq_true, Bool.and_eq_true,
    decide_eq_true_eq] at h
  rcases h with (((⟨-, halphanum⟩ | rfl) | rfl) | rfl) | rfl
  · exact isUnreserved_of_isAlphanum halphanum
  all_goals decide

theorem isHexDigit_hexDigitUpper : ∀ n < 16, IsHexDigit (hexDigitUpper n) := by
  decide

/-- The code of a byte is a percent sign and two digits. -/
theorem IsComponent.code_append (b : UInt8) {s : List Char} (hs : IsComponent s) :
    IsComponent (Percent.code b ++ s) := by
  have hhigh : b.toNat / 16 < 16 := by have := b.toNat_lt; omega
  have hlow : b.toNat % 16 < 16 := Nat.mod_lt _ (by decide)
  exact .code (isHexDigit_hexDigitUpper _ hhigh) (isHexDigit_hexDigitUpper _ hlow) hs

theorem IsComponent.flatMap_code_append (bytes : List UInt8) {s : List Char}
    (hs : IsComponent s) : IsComponent (bytes.flatMap Percent.code ++ s) := by
  induction bytes with
  | nil => exact hs
  | cons b bytes ih =>
      rw [List.flatMap_cons, List.append_assoc]
      exact ih.code_append b

/-- What is written for a character stands in a component before any other component. -/
theorem IsComponent.queryPiece_append (c : Char) {s : List Char} (hs : IsComponent s) :
    IsComponent (queryPiece c ++ s) := by
  rw [queryPiece]
  split
  · exact .plus hs
  · rw [Percent.encode, List.flatMap_singleton]
    split
    · next hsafe => exact .kept (isUnreserved_of_isQuerySafe hsafe) hs
    · exact hs.flatMap_code_append _

theorem isComponent_query (text : String) : IsComponent (query text).toList := by
  rw [query, String.toList_ofList]
  induction text.toList with
  | nil => exact .nil
  | cons c s ih => exact ih.queryPiece_append c

theorem unquery_query (text : String) : unquery (query text) = text := by
  rw [unquery, map_query, Percent.decodeText_encode (by decide), String.ofList_toList]

/-- **A component is well formed and read back.** Every text, written as a component of a query,
consists of unreserved characters, plus signs, and percent signs with two hexadecimal digits after
each, and what is read from it is the text. -/
theorem query_read_back (text : String) :
    unquery (query text) = text ∧ IsComponent (query text).toList :=
  ⟨unquery_query text, isComponent_query text⟩

example : query "a+b c%\u00e9" = "a%2Bb+c%25%C3%A9" := by decide

end LivePages.Escape
