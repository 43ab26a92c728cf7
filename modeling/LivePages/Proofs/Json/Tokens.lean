import Mathlib.Tactic.IntervalCases
import LivePages.Json.Typed
import LivePages.Proofs.Json.Layout
import LivePages.Proofs.Text.Hex
import LivePages.Proofs.Text.Utf8

/-!
# Tokens Read Back

A reader is given the bytes of a text. Blanks before a token are passed over, a text between quotes
is read as the text that was written, and a number as the number, provided that no digit, point or
exponent comes after it.

## Main results

* `peekToken_gap`: blanks are passed over.
* `textFrom_quoted`: a quoted text is read as the text.
* `number_digits`: the digits of a number are read as the number.
-/

namespace LivePages.Json

open Text.Utf8 (encode)

/-! ### Readers -/

section

variable {α β : Type} {x : Reader α} {f : α → Reader β} {s r : List UInt8} {a : α}

/-- A reader that goes on from the value of another one. -/
theorem Reader.bind_of_ok (h : x s = .ok (a, r)) : (x >>= f) s = f a r := by
  show (x s >>= fun p => f p.1 p.2) = f a r
  rw [h]
  rfl

/-- A reader that changes the value of another one. -/
theorem Reader.map_of_ok (g : α → β) (h : x s = .ok (a, r)) : (g <$> x) s = .ok (g a, r) := by
  show (x s >>= fun p => pure (g p.1, p.2)) = _
  rw [h]
  rfl

end

/-! ### Bytes -/

theorem encode_append (s t : List Char) : encode (s ++ t) = encode s ++ encode t :=
  List.flatMap_append

theorem encode_cons (c : Char) (s : List Char) :
    encode (c :: s) = String.utf8EncodeChar c ++ encode s :=
  List.flatMap_cons

/-- The bytes of blanks. -/
theorem isBlank_of_mem_encode {gap : List Char} (hgap : IsGap gap) {b : UInt8}
    (hb : b ∈ encode gap) : Reader.isBlank b = true := by
  obtain ⟨c, hc, hbc⟩ := List.mem_flatMap.mp hb
  rcases hgap c hc with rfl | rfl | rfl | rfl
  all_goals
    rw [Text.Utf8.utf8EncodeChar_of_le (by decide), List.mem_singleton] at hbc
    subst hbc
    decide

/-- The first byte, if there is one, is no blank. -/
def StartsToken (s : List UInt8) : Prop :=
  ∀ b ∈ s.head?, Reader.isBlank b = false

theorem dropWhile_gap {gap : List Char} (hgap : IsGap gap) {s : List UInt8} (hs : StartsToken s) :
    (encode gap ++ s).dropWhile Reader.isBlank = s := by
  rw [List.dropWhile_append_of_pos fun b => isBlank_of_mem_encode hgap]
  cases s with
  | nil => rfl
  | cons b s => exact List.dropWhile_cons_of_neg (by simp [hs b rfl])

/-- **Blanks before a token are passed over.** -/
theorem peekToken_gap {gap : List Char} (hgap : IsGap gap) {s : List UInt8} (hs : StartsToken s) :
    Reader.peekToken (encode gap ++ s) = .ok (s.head?, s) := by
  rw [Reader.peekToken, dropWhile_gap hgap hs]

theorem startsToken_cons {b : UInt8} (hb : Reader.isBlank b = false) (s : List UInt8) :
    StartsToken (b :: s) := by
  rintro c hc
  rwa [← Option.some.inj hc]

/-- `peekToken_gap` at a byte that is known. -/
theorem peekToken_cons {gap : List Char} (hgap : IsGap gap) {b : UInt8}
    (hb : Reader.isBlank b = false) (s : List UInt8) :
    Reader.peekToken (encode gap ++ b :: s) = .ok (some b, b :: s) :=
  peekToken_gap hgap (startsToken_cons hb s)

theorem valueStart_cons {gap : List Char} (hgap : IsGap gap) {b : UInt8}
    (hb : Reader.isBlank b = false) (s : List UInt8) :
    Reader.valueStart (encode gap ++ b :: s) = .ok (b, b :: s) := by
  rw [Reader.valueStart, Reader.bind_of_ok (peekToken_cons hgap hb s)]
  rfl

/-! ### Texts -/

theorem prependBytes_append (s t : List UInt8) (x : Except Failure (List UInt8 × List UInt8)) :
    prependBytes (s ++ t) x = prependBytes s (prependBytes t x) := by
  cases x with
  | error f => rfl
  | ok p => simp [prependBytes]

/-- Bytes that stand for themselves in a text. -/
theorem textFrom_append_of_plain {s : List UInt8}
    (hs : ∀ b ∈ s, b ≠ 0x22 ∧ ¬ b < 0x20 ∧ b ≠ 0x5C) (r : List UInt8) :
    textFrom (s ++ r) = prependBytes s (textFrom r) := by
  induction s with
  | nil => cases h : textFrom r <;> simp [prependBytes, h]
  | cons b s ih =>
      obtain ⟨hquote, hcontrol, hslash⟩ := hs b List.mem_cons_self
      have hrest := ih fun c hc => hs c (List.mem_cons_of_mem b hc)
      rw [List.cons_append, textFrom.eq_def]
      simp only [hquote, hcontrol, hslash, hrest, if_false, if_true, ne_eq, not_false_eq_true,
        ← prependBytes_append, List.singleton_append]

/-- A letter after a backslash. -/
theorem textFrom_letter {e b : UInt8} (he : simpleEscape? e = some b) (r : List UInt8) :
    textFrom (0x5C :: e :: r) = prependBytes [b] (textFrom r) := by
  rw [textFrom.eq_def]
  simp [he]

/-- The number of a control after a backslash. -/
theorem textFrom_control {a b : UInt8} {n : ℕ} (hn : hex4? 0x30 0x30 a b = some n) (h : n < 0x20)
    (r : List UInt8) : textFrom (0x5C :: 0x75 :: 0x30 :: 0x30 :: a :: b :: r) =
      prependBytes (String.utf8EncodeChar (Char.ofNat n)) (textFrom r) := by
  have hletter : simpleEscape? 0x75 = none := rfl
  have htrailing : ¬ (0xDC00 ≤ n ∧ n ≤ 0xDFFF) := by omega
  have hplain : n < 0xD800 ∨ 0xDFFF < n := by omega
  rw [textFrom.eq_def]
  simp [hletter, hn, htrailing, hplain]

/-- The bytes of a character that is written as itself stand for themselves. -/
theorem plain_of_mem_utf8EncodeChar {c : Char} (hquote : c ≠ '"') (hslash : c ≠ '\\')
    (hcontrol : ¬ c.toNat < 0x20) {b : UInt8} (hb : b ∈ String.utf8EncodeChar c) :
    b ≠ 0x22 ∧ ¬ b < 0x20 ∧ b ≠ 0x5C := by
  have hascii (hlow : b.toNat < 0x80) : c.toNat = b.toNat :=
    Text.Utf8.toNat_of_mem_utf8EncodeChar hlow hb
  refine ⟨?_, ?_, ?_⟩
  · rintro rfl
    exact hquote (Char.toNat_inj.mp (hascii (by decide)))
  · intro hlow
    have hlow' : b.toNat < 0x20 := UInt8.lt_iff_toNat_lt.mp hlow
    have hsame := hascii (by omega)
    omega
  · rintro rfl
    exact hslash (Char.toNat_inj.mp (hascii (by decide)))

/-- The digits of a control are read as its number. -/
theorem hex4?_control : ∀ n < 0x20, hex4? 0x30 0x30 (UInt8.ofNat (Text.hexDigit (n / 16)).toNat)
    (UInt8.ofNat (Text.hexDigit (n % 16)).toNat) = some n := by
  decide

theorem utf8EncodeChar_hexDigit : ∀ n < 16,
    String.utf8EncodeChar (Text.hexDigit n) = [UInt8.ofNat (Text.hexDigit n).toNat] := by
  decide

/-- The spelling of a character is read as the character. -/
theorem textFrom_spellText_append (c : Char) (r : List UInt8) :
    textFrom (encode (spellText c) ++ r) =
      prependBytes (String.utf8EncodeChar c) (textFrom r) := by
  rw [spellText]
  split_ifs with hquote hslash hback hform hfeed hreturn htab hcontrol
  · subst hquote; exact textFrom_letter rfl r
  · subst hslash; exact textFrom_letter rfl r
  · obtain rfl : c = '\x08' := Char.toNat_inj.mp hback
    exact textFrom_letter rfl r
  · obtain rfl : c = '\x0C' := Char.toNat_inj.mp hform
    exact textFrom_letter rfl r
  · subst hfeed; exact textFrom_letter rfl r
  · subst hreturn; exact textFrom_letter rfl r
  · subst htab; exact textFrom_letter rfl r
  · have hbytes : encode ['\\', 'u', '0', '0', Text.hexDigit (c.toNat / 16),
        Text.hexDigit (c.toNat % 16)] = [0x5C, 0x75, 0x30, 0x30,
          UInt8.ofNat (Text.hexDigit (c.toNat / 16)).toNat,
          UInt8.ofNat (Text.hexDigit (c.toNat % 16)).toNat] := by
      simp only [encode_cons, utf8EncodeChar_hexDigit _ (show c.toNat / 16 < 16 by omega),
        utf8EncodeChar_hexDigit _ (show c.toNat % 16 < 16 by omega)]
      rfl
    have hread := textFrom_control (hex4?_control _ hcontrol) hcontrol r
    rw [hbytes]
    rwa [Char.ofNat_toNat] at hread
  · have hbytes : encode [c] = String.utf8EncodeChar c := List.append_nil _
    rw [hbytes]
    exact textFrom_append_of_plain
      (fun b => plain_of_mem_utf8EncodeChar hquote hslash hcontrol) r

/-- **A quoted text is read as the bytes of the text**, up to its closing quote. -/
theorem textFrom_quoted (s : List Char) (r : List UInt8) :
    textFrom (encode (s.flatMap spellText) ++ 0x22 :: r) = .ok (encode s, r) := by
  induction s with
  | nil =>
      show textFrom (0x22 :: r) = .ok ([], r)
      rw [textFrom.eq_def]
      rfl
  | cons c s ih =>
      rw [List.flatMap_cons, encode_append, List.append_assoc, textFrom_spellText_append, ih,
        encode_cons]
      rfl

/-- The bytes of a quoted text. -/
theorem encode_quoteText (s : String) :
    encode (quoteText s).toList = 0x22 :: (encode (s.toList.flatMap spellText) ++ [0x22]) := by
  rw [quoteText, String.toList_ofList, encode_cons, encode_append]
  rfl

/-- What is after the opening quote of a text is read as the text. -/
theorem text_quoted (s : String) (r : List UInt8) :
    Reader.text (encode (s.toList.flatMap spellText) ++ 0x22 :: r) = .ok (s, r) := by
  rw [Reader.text, textFrom_quoted]
  simp [Except.map, Text.Utf8.toStringLossy, Text.Utf8.decodeLossy_encode]

/-! ### Numbers -/

/-- No digit, point or exponent comes next. -/
def EndsNumber (r : List UInt8) : Prop :=
  ∀ b ∈ r.head?, isDigit b = false ∧ b ≠ 0x2E ∧ b ≠ 0x65 ∧ b ≠ 0x45

/-- The byte of a decimal digit. -/
def digitByte (c : Char) : UInt8 :=
  UInt8.ofNat c.toNat

theorem toNat_of_isDigit {c : Char} (h : c.isDigit = true) : 0x30 ≤ c.toNat ∧ c.toNat ≤ 0x39 := by
  simpa [Char.isDigit, UInt32.le_iff_toNat_le] using h

theorem toNat_digitByte {c : Char} (h : c.isDigit = true) : (digitByte c).toNat = c.toNat :=
  UInt8.toNat_ofNat_of_lt' (Nat.lt_of_le_of_lt (toNat_of_isDigit h).2 (by decide))

theorem isDigit_digitByte {c : Char} (h : c.isDigit = true) : isDigit (digitByte c) = true := by
  obtain ⟨hlow, hhigh⟩ := toNat_of_isDigit h
  have hbyte := toNat_digitByte h
  simp [isDigit, UInt8.le_iff_toNat_le, hbyte, hlow, hhigh]

theorem encode_of_isDigit {ds : List Char} (h : ∀ c ∈ ds, c.isDigit = true) :
    encode ds = ds.map digitByte := by
  induction ds with
  | nil => rfl
  | cons c ds ih =>
      have hascii : c.toNat ≤ 0x7F :=
        Nat.le_trans (toNat_of_isDigit (h c List.mem_cons_self)).2 (by decide)
      rw [encode_cons, Text.Utf8.utf8EncodeChar_of_le hascii,
        ih fun d hd => h d (List.mem_cons_of_mem c hd)]
      rfl

theorem isDigit_of_mem_toDigits {n : ℕ} {c : Char} (hc : c ∈ Nat.toDigits 10 n) :
    c.isDigit = true :=
  Nat.isDigit_of_mem_toDigits (by decide) (by decide) hc

/-- A number is written with the bytes of its digits. -/
theorem encode_toString (n : ℕ) :
    encode (toString n).toList = (Nat.toDigits 10 n).map digitByte := by
  rw [Nat.toString_eq_ofList_toDigits, String.toList_ofList,
    encode_of_isDigit fun _ => isDigit_of_mem_toDigits]

/-- A number is not below one that its digits begin with. -/
theorem le_ofDigitChars (ds : List Char) (n : ℕ) : n ≤ Nat.ofDigitChars 10 ds n := by
  induction ds generalizing n with
  | nil => exact Nat.le_of_eq Nat.ofDigitChars_nil.symm
  | cons c ds ih =>
      rw [Nat.ofDigitChars_cons]
      exact Nat.le_trans (by omega) (ih _)

/-- All digits of a number in range are taken. -/
theorem boundedDigits_go {ds : List Char} (h : ∀ c ∈ ds, c.isDigit = true) {n : ℕ} (count : ℕ)
    (hn : Nat.ofDigitChars 10 ds n < wordBound) {r : List UInt8} (hr : EndsNumber r) :
    Reader.boundedDigits.go n count (ds.map digitByte ++ r) =
      .ok ((Nat.ofDigitChars 10 ds n, count + ds.length), r) := by
  induction ds generalizing n count with
  | nil =>
      cases r with
      | nil => rfl
      | cons b r =>
          have hb := (hr b rfl).1
          simp [Reader.boundedDigits.go, hb]
  | cons c ds ih =>
      have hc := h c List.mem_cons_self
      have hvalue : digitValue (digitByte c) = c.toNat - '0'.toNat := by
        rw [digitValue, toNat_digitByte hc]
        rfl
      have hfit : 10 * n + digitValue (digitByte c) < wordBound := by
        rw [Nat.ofDigitChars_cons, ← hvalue] at hn
        exact Nat.lt_of_le_of_lt (le_ofDigitChars ds _) hn
      rw [Nat.ofDigitChars_cons, ← hvalue] at hn ⊢
      rw [List.map_cons, List.cons_append, Reader.boundedDigits.go, isDigit_digitByte hc,
        decide_eq_true hfit, Bool.and_true, if_pos rfl,
        ih (fun d hd => h d (List.mem_cons_of_mem c hd)) _ hn, List.length_cons]
      congr 3
      omega

/-- The digits of a positive number do not begin with zero. -/
theorem exists_toDigits_of_pos {n : ℕ} (h : 0 < n) :
    ∃ c ds, Nat.toDigits 10 n = c :: ds ∧ c ≠ '0' := by
  induction n using Nat.strong_induction_on with
  | _ n ih =>
      by_cases hn : n < 10
      · refine ⟨n.digitChar, [], Nat.toDigits_of_lt_base hn, ?_⟩
        interval_cases n <;> decide
      · obtain ⟨c, ds, hds, hc⟩ := ih (n / 10) (by omega) (by omega)
        refine ⟨c, ds ++ [(n % 10).digitChar], ?_, hc⟩
        rw [Nat.toDigits_of_base_le (by decide) (by omega), hds]
        rfl

/-- Where no number goes on, a whole number is all there is. -/
theorem numberRest_of_ends {r : List UInt8} (hr : EndsNumber r) (n : ℕ) :
    Reader.numberRest true n r = .ok (.natural n, r) := by
  cases r with
  | nil => rfl
  | cons b r =>
      obtain ⟨-, hpoint, hlower, hupper⟩ := hr b rfl
      have hpeek : Reader.peek (b :: r) = .ok (some b, b :: r) := rfl
      rw [Reader.numberRest, Reader.bind_of_ok hpeek, if_pos rfl]
      generalize hb : some b = next
      split
      · exact absurd (Option.some.inj hb) hpoint
      · exact absurd (Option.some.inj hb) hlower
      · exact absurd (Option.some.inj hb) hupper
      · rfl

/-- What comes after a digit is looked at once more. -/
theorem numberRest_of_peek {α : Type} {r : List UInt8} (hr : EndsNumber r) {x : α}
    {f : UInt8 → Reader α} {y : Reader α} (hdigit : ∀ b, isDigit b = false → f b r = .ok (x, r))
    (hend : y r = .ok (x, r)) :
    (Reader.peek >>= fun next => match next with
      | some b => f b
      | none => y) r = .ok (x, r) := by
  have hpeek : Reader.peek r = .ok (r.head?, r) := rfl
  rw [Reader.bind_of_ok hpeek]
  cases hhead : r.head? with
  | none => exact hend
  | some b => exact hdigit b (hr b hhead).1

/-- **The digits of a number are read as the number.** -/
theorem number_digits {n : ℕ} (hn : n < wordBound) {r : List UInt8} (hr : EndsNumber r) :
    Reader.number true (encode (toString n).toList ++ r) = .ok (.natural n, r) := by
  have hall : ∀ c ∈ Nat.toDigits 10 n, c.isDigit = true := fun _ => isDigit_of_mem_toDigits
  rw [encode_toString]
  rcases Nat.eq_zero_or_pos n with rfl | hpos
  · -- a zero stands alone
    have hnext : Reader.next (0x30 :: r) = .ok (some 0x30, r) := rfl
    show Reader.number true (0x30 :: r) = _
    rw [Reader.number, Reader.bind_of_ok hnext]
    refine numberRest_of_peek hr (fun b hb => ?_) (numberRest_of_ends hr 0)
    simp [hb, numberRest_of_ends hr]
  · obtain ⟨c, ds, hds, hzero⟩ := exists_toDigits_of_pos hpos
    have hvalue : Nat.ofDigitChars 10 ds (digitValue (digitByte c)) = n := by
      have hwhole := Nat.ofDigitChars_ten_toDigits (n := n)
      rw [hds, Nat.ofDigitChars_cons] at hwhole
      rw [digitValue, toNat_digitByte (hall c (hds ▸ List.mem_cons_self))]
      simpa using hwhole
    rw [hds] at hall ⊢
    have hc := hall c List.mem_cons_self
    have hne : digitByte c ≠ 0x30 := by
      intro heq
      have hsame := congrArg UInt8.toNat heq
      rw [toNat_digitByte hc] at hsame
      exact hzero (Char.toNat_inj.mp hsame)
    have hnext : Reader.next (digitByte c :: (ds.map digitByte ++ r)) =
        .ok (some (digitByte c), ds.map digitByte ++ r) := rfl
    have hbounded : Reader.boundedDigits (digitValue (digitByte c)) (ds.map digitByte ++ r) =
        .ok ((n, 0 + ds.length), r) := by
      rw [Reader.boundedDigits, boundedDigits_go (fun d hd => hall d (List.mem_cons_of_mem c hd)) 0
        (hvalue.symm ▸ hn) hr, hvalue]
    rw [List.map_cons, List.cons_append, Reader.number, Reader.bind_of_ok hnext]
    generalize hfirst : some (digitByte c) = first
    split
    · cases hfirst
    · exact absurd (Option.some.inj hfirst) hne
    · obtain rfl := Option.some.inj hfirst
      rw [isDigit_digitByte hc, if_neg (by simp), Reader.bind_of_ok hbounded]
      refine numberRest_of_peek hr (fun b hb => ?_) (numberRest_of_ends hr n)
      simp [hb, numberRest_of_ends hr]

end LivePages.Json
