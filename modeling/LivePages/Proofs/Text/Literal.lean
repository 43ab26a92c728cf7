import LivePages.Proofs.Text.Hex
import LivePages.Text.Quoted

/-!
# String Literals

What a string literal on one line stands for, said by a grammar of its own, and that `Quoted.write`
spells a text as the literal that stands for it.

## Main results

* `IsLiteral.unique`: a literal stands for one text only.
* `isLiteral_write`: the spelling of a text is a literal, and stands for the text.
-/

namespace LivePages.Text

/-- The inside of a literal, and the text it stands for. A character may stand for itself unless
it is a quote, a backslash or breaks the line. The rest are escapes: a backslash with a letter,
`\xNN` for an ASCII character, and `\u` with one to six digits between braces for any character. -/
inductive Denotes : List Char → List Char → Prop where
  | nil : Denotes [] []
  | plain {c : Char} {s t : List Char} (hquote : c ≠ '"') (hslash : c ≠ '\\') (hreturn : c ≠ '\r')
      (hfeed : c ≠ '\n') (h : Denotes s t) : Denotes (c :: s) (c :: t)
  | letter {e c : Char} {s t : List Char} (he : Quoted.simpleEscape? e = some c)
      (h : Denotes s t) : Denotes ('\\' :: e :: s) (c :: t)
  | byte {a b c : Char} {n : ℕ} {s t : List Char} (hn : hexNumber? [a, b] = some n)
      (hascii : n < 0x80) (hc : scalar? n = some c) (h : Denotes s t) :
      Denotes ('\\' :: 'x' :: a :: b :: s) (c :: t)
  | code {digits : List Char} {c : Char} {n : ℕ} {s t : List Char} (hlength : digits.length ≤ 6)
      (hn : hexNumber? digits = some n) (hc : scalar? n = some c) (h : Denotes s t) :
      Denotes ('\\' :: 'u' :: '{' :: (digits ++ '}' :: s)) (c :: t)

/-- A literal, with its quotes, that stands for a text. -/
def IsLiteral (literal text : List Char) : Prop :=
  ∃ inside, literal = '"' :: (inside ++ ['"']) ∧ Denotes inside text

/-! ### One text for a literal -/

/-- Where a sequence first holds a value tells the two sides apart. -/
theorem append_cons_inj_of_notMem {s s' r r' : List Char} {c : Char} (hs : c ∉ s) (hs' : c ∉ s')
    (h : s ++ c :: r = s' ++ c :: r') : s = s' ∧ r = r' := by
  rcases List.append_eq_append_iff.mp h with ⟨m, rfl, hm⟩ | ⟨m, rfl, hm⟩
  · cases m with
    | nil => exact ⟨(List.append_nil s).symm, (List.cons.inj hm).2⟩
    | cons d m =>
        obtain ⟨rfl, -⟩ := List.cons.inj hm
        exact absurd (List.mem_append_right s List.mem_cons_self) hs'
  · cases m with
    | nil => exact ⟨List.append_nil s', (List.cons.inj hm).2.symm⟩
    | cons d m =>
        obtain ⟨rfl, -⟩ := List.cons.inj hm
        exact absurd (List.mem_append_right s' List.mem_cons_self) hs

/-- What the inside of a literal begins with tells how its first character is written. -/
theorem Denotes.unique {s t t' : List Char} (h : Denotes s t) (h' : Denotes s t') : t = t' := by
  induction h generalizing t' with
  | nil => cases h'; rfl
  | plain _ hslash _ _ _ ih =>
      cases h' with
      | plain _ _ _ _ h' => rw [ih h']
      | letter => exact absurd rfl hslash
      | byte => exact absurd rfl hslash
      | code => exact absurd rfl hslash
  | letter he _ ih =>
      cases h' with
      | plain _ hslash => exact absurd rfl hslash
      | letter he' h' => rw [ih h', Option.some.inj (he.symm.trans he')]
      | byte => exact absurd he (by simp [Quoted.simpleEscape?])
      | code => exact absurd he (by simp [Quoted.simpleEscape?])
  | byte hn _ hc _ ih =>
      cases h' with
      | plain _ hslash => exact absurd rfl hslash
      | letter he' => exact absurd he' (by simp [Quoted.simpleEscape?])
      | byte hn' _ hc' h' =>
          cases Option.some.inj (hn.symm.trans hn')
          rw [ih h', Option.some.inj (hc.symm.trans hc')]
  | code _ hn hc _ ih =>
      generalize hs : '\\' :: 'u' :: '{' :: _ = s at h'
      cases h' with
      | nil => cases hs
      | plain _ hslash => exact absurd (List.cons.inj hs).1.symm hslash
      | letter he' =>
          cases hs
          exact absurd he' (by simp [Quoted.simpleEscape?])
      | byte => cases hs
      | code _ hn' hc' h' =>
          simp only [List.cons.injEq, true_and] at hs
          obtain ⟨rfl, rfl⟩ := append_cons_inj_of_notMem (c := '}')
            (notMem_of_hexNumber? hn rfl) (notMem_of_hexNumber? hn' rfl) hs
          cases Option.some.inj (hn.symm.trans hn')
          rw [ih h', Option.some.inj (hc.symm.trans hc')]

/-- A literal stands for one text only. -/
theorem IsLiteral.unique {literal t t' : List Char} (h : IsLiteral literal t)
    (h' : IsLiteral literal t') : t = t' := by
  obtain ⟨inside, rfl, hinside⟩ := h
  obtain ⟨inside', heq, hinside'⟩ := h'
  obtain rfl := List.append_cancel_right (List.cons.inj heq).2
  exact hinside.unique hinside'

/-! ### The spelling of a text -/

/-- A code point needs at most six digits. -/
theorem length_toHex_toNat_le (c : Char) : (toHex c.toNat).length ≤ 6 := by
  have hvalid : c.toNat.isValidChar := c.valid
  refine length_toHex_le (k := 5) ?_
  rcases hvalid with h | ⟨-, h⟩ <;> omega

/-- The spelling of a character stands for the character. -/
theorem Denotes.spell_append (c : Char) {s t : List Char} (h : Denotes s t) :
    Denotes (Quoted.spell c ++ s) (c :: t) := by
  rw [Quoted.spell]
  split_ifs with hzero htab hreturn hfeed hquote hslash hshows
  · subst hzero; exact letter rfl h
  · subst htab; exact letter rfl h
  · subst hreturn; exact letter rfl h
  · subst hfeed; exact letter rfl h
  · subst hquote; exact letter rfl h
  · subst hslash; exact letter rfl h
  · exact plain hquote hslash hreturn hfeed h
  · have hcode := code (length_toHex_toNat_le c) (hexNumber?_toHex c.toNat) (scalar?_toNat c) h
    simpa using hcode

/-- The spelling of a text is a literal, and stands for the text. -/
theorem isLiteral_write (s : List Char) : IsLiteral (Quoted.write s) s := by
  refine ⟨s.flatMap Quoted.spell, rfl, ?_⟩
  induction s with
  | nil => exact .nil
  | cons c s ih =>
      rw [List.flatMap_cons]
      exact ih.spell_append c

/-- A literal stays on its line. -/
theorem Denotes.feed_notMem {s t : List Char} (h : Denotes s t) : '\n' ∉ s := by
  induction h with
  | nil => exact List.not_mem_nil
  | plain _ _ _ hfeed _ ih => simp [hfeed.symm, ih]
  | @letter e _ _ _ he _ ih =>
      have hletter : '\n' ≠ e := by
        rintro rfl
        simp [Quoted.simpleEscape?] at he
      simp [hletter, ih]
  | byte hn _ _ _ ih =>
      have hdigits := notMem_of_hexNumber? (c := '\n') hn (by decide)
      simp_all
  | code _ hn _ _ ih =>
      have hdigits := notMem_of_hexNumber? (c := '\n') hn (by decide)
      simp [hdigits, ih]

end LivePages.Text
