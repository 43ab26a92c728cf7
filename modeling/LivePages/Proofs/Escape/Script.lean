import LivePages.Escape.Script
import LivePages.Proofs.Text.Hex

/-!
# Text Inside Strings of Scripts

A string of a script stands between two quotes of one kind. Its characters are read from left to
right: a backslash begins an escape, the quote ends the string, and a line feed or a carriage return
must not stand in it. The value is a sequence of units of sixteen bits, in which a character above
the first plane takes two.

The grammar of such strings is that of the ECMAScript language, with all its escapes: letters and
other characters after a backslash, ends of lines that are left out, octal numbers, and codes of
two, of four and of any number of hexadecimal digits. In strict code there are no octal numbers but
a single zero.

Escaped text uses a small part of it. Every character is written as itself, as a backslash and
itself, or as a backslash and a code of four digits, and each of these is read in one way only,
whatever follows. So the string ends at the quote after the text, and its value is the text.

## Main results

* `jsPiece_cases`: how a character is written.
* `stringRest_jsPiece_iff`: what is written for a character is read as that character.
* `js_isString`: escaped text between quotes is one string, and there is nothing in it that ends the
  string, the script or the line, or begins markup.
-/

namespace LivePages.Escape

open Text

/-! ### Units -/

/-- A code point in units of sixteen bits. -/
def codeUnits (n : ℕ) : List ℕ :=
  if n < 0x10000 then [n]
  else [0xD800 + (n - 0x10000) / 0x400, 0xDC00 + (n - 0x10000) % 0x400]

/-- The string that is a text, as its units. -/
def stringValue (s : List Char) : List ℕ :=
  s.flatMap fun c => codeUnits c.toNat

/-! ### Escapes -/

/-- The characters that end a line. -/
def lineEnds : List Char :=
  ['\n', '\r', '\u2028', '\u2029']

/-- The unit that a letter or a mark after a backslash stands for. -/
def letterUnit? (c : Char) : Option ℕ :=
  if c ∈ ['\\', '\'', '"'] then some c.toNat
  else if c = 'b' then some 0x08
  else if c = 't' then some 0x09
  else if c = 'n' then some 0x0A
  else if c = 'v' then some 0x0B
  else if c = 'f' then some 0x0C
  else if c = 'r' then some 0x0D
  else none

/-- The value of an octal digit. -/
def octalValue? (c : Char) : Option ℕ :=
  if '0' ≤ c ∧ c ≤ '7' then some (c.toNat - 0x30) else none

/-- The number spelled by octal digits. -/
def octalNumber? (digits : List Char) : Option ℕ :=
  digits.foldlM (fun n c => (octalValue? c).map (8 * n + ·)) 0

/-- What stands after a backslash, the units that it stands for, and what follows it. -/
inductive EscapeSequence (strict : Bool) : List Char → List ℕ → List Char → Prop where
  | letter {c : Char} {n : ℕ} {rest : List Char} (hn : letterUnit? c = some n) :
      EscapeSequence strict (c :: rest) [n] rest
  /-- A character that begins no other escape stands for itself. -/
  | itself {c : Char} {rest : List Char} (hletter : letterUnit? c = none)
      (hdigit : octalValue? c = none) (hcode : c ∉ ['x', 'u']) (hline : c ∉ lineEnds)
      (hstrict : strict = true → c ∉ ['8', '9']) :
      EscapeSequence strict (c :: rest) (codeUnits c.toNat) rest
  /-- The end of a line is left out. -/
  | lineEnd {c : Char} {rest : List Char} (hline : c ∈ lineEnds)
      (hpair : c = '\r' → rest.head? ≠ some '\n') : EscapeSequence strict (c :: rest) [] rest
  | lineEndPair {rest : List Char} : EscapeSequence strict ('\r' :: '\n' :: rest) [] rest
  /-- Up to three octal digits, as many as there are and give a number of eight bits. -/
  | octal {s digits rest : List Char} {n : ℕ} (hs : s = digits ++ rest) (hne : digits ≠ [])
      (hn : octalNumber? digits = some n) (hmax : n ≤ 0xFF) (hlength : digits.length ≤ 3)
      (hend : digits.length < 3 → ∀ c ∈ rest.head?, ∀ d ∈ octalValue? c, 0xFF < 8 * n + d)
      (hstrict : strict = true → digits = ['0'] ∧ ∀ c ∈ rest.head?, c ∉ ['8', '9']) :
      EscapeSequence strict s [n] rest
  | byte {a b : Char} {n : ℕ} {rest : List Char} (hn : hexNumber? [a, b] = some n) :
      EscapeSequence strict ('x' :: a :: b :: rest) [n] rest
  | unit {a b c d : Char} {n : ℕ} {rest : List Char} (hn : hexNumber? [a, b, c, d] = some n) :
      EscapeSequence strict ('u' :: a :: b :: c :: d :: rest) [n] rest
  | code {s digits rest : List Char} {n : ℕ} (hs : s = digits ++ '}' :: rest)
      (hn : hexNumber? digits = some n) (hmax : n ≤ 0x10FFFF) :
      EscapeSequence strict ('u' :: '{' :: s) (codeUnits n) rest

section

variable {strict : Bool} {c : Char} {s rest : List Char} {units : List ℕ} {n : ℕ}

/-- No octal digit has a meaning as a letter. -/
theorem octalValue?_of_letterUnit? (h : letterUnit? c = some n) : octalValue? c = none := by
  have hmarks : ∀ d ∈ ['\\', '\'', '"'], octalValue? d = none := by simp [octalValue?]
  unfold letterUnit? at h
  split_ifs at h with hmark hb ht hn hv hf hr
  · exact hmarks c hmark
  all_goals
    subst c
    decide

/-- An octal number begins with an octal digit. -/
theorem octalValue?_ne_none {digits : List Char} (h : octalNumber? (c :: digits) = some n) :
    octalValue? c ≠ none := by
  intro hnone
  simp [octalNumber?, hnone] at h

/-- A letter with a meaning is read as that, whatever follows. -/
theorem escapeSequence_letter_iff (h : letterUnit? c = some n) :
    EscapeSequence strict (c :: s) units rest ↔ units = [n] ∧ rest = s := by
  constructor
  · intro hescape
    cases hescape with
    | letter hn => exact ⟨by rw [Option.some.inj (h.symm.trans hn)], rfl⟩
    | itself hletter => exact absurd (h.symm.trans hletter) (Option.some_ne_none n)
    | lineEnd hline =>
        have hnone : ∀ d ∈ lineEnds, letterUnit? d = none := by simp [letterUnit?, lineEnds]
        exact absurd (h.symm.trans (hnone c hline)) (Option.some_ne_none n)
    | @octal _ digits _ _ hs hne hn =>
        cases digits with
        | nil => exact absurd rfl hne
        | cons d digits =>
            obtain ⟨rfl, -⟩ := List.cons.inj hs
            exact absurd (octalValue?_of_letterUnit? h) (octalValue?_ne_none hn)
    | lineEndPair | byte | unit | code => simp [letterUnit?] at h
  · rintro ⟨rfl, rfl⟩
    exact .letter h

/-- A code of four digits is read as that, whatever follows. -/
theorem escapeSequence_unit_iff {a b c d : Char} (h : hexNumber? [a, b, c, d] = some n) :
    EscapeSequence strict ('u' :: a :: b :: c :: d :: s) units rest ↔ units = [n] ∧ rest = s := by
  constructor
  · intro hescape
    cases hescape with
    | letter hn => simp [letterUnit?] at hn
    | itself _ _ hcode => exact absurd hcode (by decide)
    | lineEnd hline => exact absurd hline (by decide)
    | @octal _ digits _ _ hs hne hn =>
        cases digits with
        | nil => exact absurd rfl hne
        | cons e digits =>
            obtain ⟨rfl, -⟩ := List.cons.inj hs
            exact absurd (by decide) (octalValue?_ne_none hn)
    | unit hn => exact ⟨by rw [Option.some.inj (h.symm.trans hn)], rfl⟩
    | code => exact absurd List.mem_cons_self (notMem_of_hexNumber? h (by decide))
  · rintro ⟨rfl, rfl⟩
    exact .unit h

end

/-! ### Strings -/

/-- The quotes that a string can stand between. -/
inductive QuoteMark where
  | single
  | double
  deriving DecidableEq, Repr

/-- The character that the quote is. -/
def QuoteMark.char : QuoteMark → Char
  | .single => '\''
  | .double => '"'

/-- What stands after the opening quote of a string: characters with these units and the closing
quote, and then the rest. -/
inductive StringRest (strict : Bool) (mark : QuoteMark) :
    List Char → List ℕ → List Char → Prop where
  | closed {c : Char} {rest : List Char} (hc : c = mark.char) :
      StringRest strict mark (c :: rest) [] rest
  | plain {c : Char} {s rest : List Char} {units : List ℕ} (hmark : c ≠ mark.char)
      (hslash : c ≠ '\\') (hline : c ∉ ['\n', '\r']) (h : StringRest strict mark s units rest) :
      StringRest strict mark (c :: s) (codeUnits c.toNat ++ units) rest
  | escape {s t rest : List Char} {first units : List ℕ}
      (hescape : EscapeSequence strict s first t) (h : StringRest strict mark t units rest) :
      StringRest strict mark ('\\' :: s) (first ++ units) rest

/-- A source begins with a string of a value, and the rest follows. -/
def BeginsWithString (strict : Bool) (source : List Char) (value : List ℕ) (rest : List Char) :
    Prop :=
  ∃ mark : QuoteMark, ∃ s, source = mark.char :: s ∧ StringRest strict mark s value rest

section

variable {strict : Bool} {mark : QuoteMark} {c : Char} {s rest : List Char} {units : List ℕ}

theorem QuoteMark.char_ne_slash (mark : QuoteMark) : mark.char ≠ '\\' := by
  cases mark <;> decide

theorem QuoteMark.char_injective {mark mark' : QuoteMark} (h : mark.char = mark'.char) :
    mark = mark' := by
  cases mark <;> cases mark' <;> first | rfl | exact absurd h (by decide)

/-- The quote that opens a source is that of its string. -/
theorem beginsWithString_cons_iff :
    BeginsWithString strict (mark.char :: s) units rest ↔ StringRest strict mark s units rest := by
  constructor
  · rintro ⟨mark', s', hsource, h⟩
    obtain ⟨hmark, rfl⟩ := List.cons.inj hsource
    rwa [QuoteMark.char_injective hmark]
  · exact fun h => ⟨mark, s, rfl, h⟩

/-- The quote ends the string. -/
theorem stringRest_mark_iff :
    StringRest strict mark (mark.char :: s) units rest ↔ units = [] ∧ rest = s := by
  constructor
  · intro h
    generalize hc : mark.char = c at h
    cases h with
    | closed => exact ⟨rfl, rfl⟩
    | plain hmark => exact absurd hc.symm hmark
    | escape => exact absurd hc mark.char_ne_slash
  · rintro ⟨rfl, rfl⟩
    exact .closed rfl

/-- A character that may stand for itself does so. -/
theorem stringRest_plain_iff (hmark : c ≠ mark.char) (hslash : c ≠ '\\')
    (hline : c ∉ ['\n', '\r']) :
    StringRest strict mark (c :: s) units rest ↔
      ∃ more, units = codeUnits c.toNat ++ more ∧ StringRest strict mark s more rest := by
  constructor
  · intro h
    cases h with
    | closed hc => exact absurd hc hmark
    | plain _ _ _ h => exact ⟨_, rfl, h⟩
    | escape => exact absurd rfl hslash
  · rintro ⟨more, rfl, h⟩
    exact .plain hmark hslash hline h

/-- A backslash begins an escape. -/
theorem stringRest_slash_iff :
    StringRest strict mark ('\\' :: s) units rest ↔
      ∃ first t more, EscapeSequence strict s first t ∧ units = first ++ more ∧
        StringRest strict mark t more rest := by
  constructor
  · intro h
    cases h with
    | closed hc => exact absurd hc.symm mark.char_ne_slash
    | plain _ hslash => exact absurd rfl hslash
    | escape hescape h => exact ⟨_, _, _, hescape, rfl, h⟩
  · rintro ⟨first, t, more, hescape, rfl, h⟩
    exact .escape hescape h

/-- An escape that can be read in one way only is read in that way. -/
theorem stringRest_escape_iff {e : List Char} {value : List ℕ}
    (hescape : ∀ first t, EscapeSequence strict e first t ↔ first = value ∧ t = s) :
    StringRest strict mark ('\\' :: e) units rest ↔
      ∃ more, units = value ++ more ∧ StringRest strict mark s more rest := by
  rw [stringRest_slash_iff]
  constructor
  · rintro ⟨first, t, more, ht, rfl, hmore⟩
    obtain ⟨rfl, rfl⟩ := (hescape first t).mp ht
    exact ⟨more, rfl, hmore⟩
  · rintro ⟨more, rfl, hmore⟩
    exact ⟨value, s, more, (hescape value s).mpr ⟨rfl, rfl⟩, rfl, hmore⟩

end

/-! ### What is written for a character -/

/-- The characters that must not be seen in a script: those of markup, control characters of ASCII,
and ends of lines. -/
def IsHidden (c : Char) : Prop :=
  c ∈ ['<', '>', '&', '='] ∨ c.toNat < 0x20 ∨ c ∈ ['\u0085', '\u2028', '\u2029']

instance : DecidablePred IsHidden :=
  fun _ => inferInstanceAs (Decidable (_ ∨ _))

/-- Control characters and blanks are in the first plane. -/
theorem toNat_lt_of_isBlank {c : Char} (h : (isControl c || isBlank c) = true) :
    c.toNat < 0x10000 := by
  simp only [isControl, isBlank, Bool.or_eq_true, Bool.and_eq_true, decide_eq_true_eq,
    beq_iff_eq] at h
  omega

theorem not_isHidden {c : Char} (hmarkup : ¬ (c = '<' ∨ c = '>' ∨ c = '&' ∨ c = '='))
    (hcontrol : ¬ c.toNat < 0x20) (hends : c ∉ ['\u0085', '\u2028', '\u2029']) :
    ¬ IsHidden c := by
  rintro (hmem | hlow | hmem)
  · exact hmarkup (by simpa using hmem)
  · exact hcontrol hlow
  · exact hends hmem

/-- **How a character is written**: as a backslash and itself, as its code, or as itself. -/
theorem jsPiece_cases (c : Char) :
    (c ∈ ['\\', '\'', '"'] ∧ jsPiece c = ['\\', c]) ∨
    (c.toNat < 0x10000 ∧ jsPiece c = codeEscape c) ∨
    (c ∉ ['\\', '\'', '"'] ∧ ¬ IsHidden c ∧ jsPiece c = [c]) := by
  have hends : ∀ d ∈ ['\u0085', '\u2028', '\u2029'], 0x80 ≤ d.toNat ∧ isBlank d = true := by
    simp [isBlank]
  unfold jsPiece
  split_ifs with hmark hmarkup hcontrol hascii hblank
  · exact .inl ⟨by simpa using hmark, rfl⟩
  · refine .inr (.inl ⟨?_, rfl⟩)
    rcases hmarkup with rfl | rfl | rfl | rfl <;> decide
  · exact .inr (.inl ⟨by omega, rfl⟩)
  · refine .inr (.inr ⟨by simpa using hmark, not_isHidden hmarkup hcontrol ?_, rfl⟩)
    exact fun hmem => absurd (hends c hmem).1 (by omega)
  · exact .inr (.inl ⟨toNat_lt_of_isBlank hblank, rfl⟩)
  · refine .inr (.inr ⟨by simpa using hmark, not_isHidden hmarkup hcontrol ?_, rfl⟩)
    exact fun hmem => hblank (by rw [(hends c hmem).2, Bool.or_true])

section

variable {strict : Bool} {mark : QuoteMark} {c d : Char} {s rest : List Char} {units : List ℕ}

/-- A code is read as the character. -/
theorem stringRest_codeEscape_iff (h : c.toNat < 0x10000) :
    StringRest strict mark (codeEscape c ++ s) units rest ↔
      ∃ more, units = codeUnits c.toNat ++ more ∧ StringRest strict mark s more rest := by
  obtain ⟨a₁, a₂, a₃, a₄, hdigits⟩ := exists_upperHex4_eq h
  have hnumber := hexNumber?_upperHex4 c.toNat
  rw [hdigits] at hnumber
  have hunit : codeUnits c.toNat = [c.toNat] := if_pos h
  have hcode : codeEscape c ++ s = '\\' :: 'u' :: a₁ :: a₂ :: a₃ :: a₄ :: s := by
    rw [codeEscape, hdigits]
    rfl
  rw [hcode, hunit]
  exact stringRest_escape_iff fun _ _ => escapeSequence_unit_iff hnumber

/-- **What is written for a character is read as that character**, and what follows is read from
there. -/
theorem stringRest_jsPiece_iff :
    StringRest strict mark (jsPiece c ++ s) units rest ↔
      ∃ more, units = codeUnits c.toNat ++ more ∧ StringRest strict mark s more rest := by
  rcases jsPiece_cases c with ⟨hmark, heq⟩ | ⟨hplane, heq⟩ | ⟨hmark, hhidden, heq⟩
  · have hletter : letterUnit? c = some c.toNat := if_pos hmark
    have hunit : ∀ d ∈ ['\\', '\'', '"'], codeUnits d.toNat = [d.toNat] := by simp [codeUnits]
    rw [heq, List.cons_append, List.singleton_append, hunit c hmark]
    exact stringRest_escape_iff fun _ _ => escapeSequence_letter_iff hletter
  · rw [heq, stringRest_codeEscape_iff hplane]
  · have hnot : c ≠ mark.char := by
      rintro rfl
      exact hmark (by cases mark <;> decide)
    have hline : c ∉ ['\n', '\r'] := by
      intro hmem
      have hlow : ∀ d ∈ ['\n', '\r'], IsHidden d := by simp [IsHidden]
      exact hhidden (hlow c hmem)
    rw [heq, List.singleton_append]
    exact stringRest_plain_iff hnot (fun hslash => hmark (hslash ▸ List.mem_cons_self)) hline

/-- Escaped text is read as the text, up to the quote after it. -/
theorem stringRest_flatMap_jsPiece_iff (text : List Char) {after : List Char} :
    StringRest strict mark (text.flatMap jsPiece ++ mark.char :: after) units rest ↔
      units = stringValue text ∧ rest = after := by
  induction text generalizing units with
  | nil => exact stringRest_mark_iff
  | cons c text ih =>
      rw [List.flatMap_cons, List.append_assoc, stringRest_jsPiece_iff]
      simp only [ih]
      constructor
      · rintro ⟨more, rfl, rfl, rfl⟩
        exact ⟨rfl, rfl⟩
      · rintro ⟨rfl, rfl⟩
        exact ⟨_, rfl, rfl, rfl⟩

/-! ### What is not in escaped text -/

/-- The characters of a text that no backslash escapes: it is read from left to right, with each
backslash paired with the character after it. -/
def unescaped : List Char → List Char
  | [] => []
  | [c] => [c]
  | c :: d :: rest => if c = '\\' then unescaped rest else c :: unescaped (d :: rest)

theorem unescaped_cons (h : c ≠ '\\') (s : List Char) : unescaped (c :: s) = c :: unescaped s := by
  cases s with
  | nil => rfl
  | cons d s => rw [unescaped, if_neg h]

theorem unescaped_append (h : '\\' ∉ s) (rest : List Char) :
    unescaped (s ++ rest) = s ++ unescaped rest := by
  induction s with
  | nil => rfl
  | cons c s ih =>
      rw [List.mem_cons, not_or] at h
      rw [List.cons_append, unescaped_cons (Ne.symm h.1), ih h.2, List.cons_append]

/-- The characters of a code that stand after its backslash. -/
theorem mem_codeEscape (h : d ∈ codeEscape c) :
    d = '\\' ∨ d = 'u' ∨ ∃ n < 16, d = hexDigitUpper n := by
  rw [codeEscape, List.cons_append, List.singleton_append] at h
  rcases List.mem_cons.mp h with hslash | h
  · exact .inl hslash
  · rcases List.mem_cons.mp h with hletter | h
    · exact .inr (.inl hletter)
    · exact .inr (.inr (mem_upperHex4 h))

/-- Nothing that is written is hidden. -/
theorem not_isHidden_of_mem_jsPiece (h : d ∈ jsPiece c) : ¬ IsHidden d := by
  rcases jsPiece_cases c with ⟨hmark, heq⟩ | ⟨-, heq⟩ | ⟨-, hhidden, heq⟩ <;> rw [heq] at h
  · have hmarks : ∀ e ∈ ['\\', '\'', '"'], ¬ IsHidden e := by simp [IsHidden]
    rcases List.mem_cons.mp h with rfl | h
    · exact hmarks _ List.mem_cons_self
    · rw [List.mem_singleton.mp h]
      exact hmarks c hmark
  · have hdigit : ∀ n < 16, ¬ IsHidden (hexDigitUpper n) := by decide
    rcases mem_codeEscape h with rfl | rfl | ⟨n, hn, rfl⟩
    · decide
    · decide
    · exact hdigit n hn
  · rwa [List.mem_singleton.mp h]

/-- What is written for a character has no quote that is not escaped. -/
theorem mem_unescaped_jsPiece (h : d ∈ unescaped (jsPiece c ++ s)) :
    d ∉ ['\'', '"'] ∨ d ∈ unescaped s := by
  rcases jsPiece_cases c with ⟨-, heq⟩ | ⟨-, heq⟩ | ⟨hmark, -, heq⟩ <;> rw [heq] at h
  · exact .inr h
  · have hdigit : ∀ n < 16, hexDigitUpper n ∉ ['\\', '\'', '"'] := by decide
    have hslash : '\\' ∉ upperHex4 c.toNat := by
      intro hmem
      obtain ⟨n, hn, heq⟩ := mem_upperHex4 hmem
      exact hdigit n hn (heq ▸ List.mem_cons_self)
    have hcode : unescaped (codeEscape c ++ s) = upperHex4 c.toNat ++ unescaped s :=
      unescaped_append hslash s
    rw [hcode] at h
    rcases List.mem_append.mp h with h | h
    · obtain ⟨n, hn, rfl⟩ := mem_upperHex4 h
      exact .inl fun hquote => hdigit n hn (List.mem_cons_of_mem _ hquote)
    · exact .inr h
  · rw [List.mem_cons, not_or] at hmark
    rw [List.singleton_append, unescaped_cons hmark.1] at h
    rcases List.mem_cons.mp h with rfl | h
    · exact .inl hmark.2
    · exact .inr h

theorem mem_unescaped_flatMap_jsPiece {text : List Char}
    (h : d ∈ unescaped (text.flatMap jsPiece)) : d ∉ ['\'', '"'] := by
  induction text with
  | nil => exact absurd h List.not_mem_nil
  | cons c text ih => exact (mem_unescaped_jsPiece h).elim id ih

end

/-- **Escaped text between quotes is one string, and its value is the text.** With quotes of either
kind around it, and whatever comes after it, a string begins that ends at the quote after the text,
in strict code and elsewhere; it has no other value and no other end. In the escaped text there is
no character of markup, no control character of ASCII and no end of a line, and no quote but after a
backslash that escapes it. -/
theorem js_isString (text : String) :
    (∀ (strict : Bool) (mark : QuoteMark) (after : List Char) (value : List ℕ) (rest : List Char),
      BeginsWithString strict (mark.char :: ((js text).toList ++ mark.char :: after)) value rest ↔
        value = stringValue text.toList ∧ rest = after) ∧
    (∀ c ∈ (js text).toList, ¬ IsHidden c) ∧
    ∀ c ∈ unescaped (js text).toList, c ∉ ['\'', '"'] := by
  rw [js, String.toList_ofList]
  refine ⟨fun strict mark after value rest => ?_, fun c hc => ?_, fun c hc => ?_⟩
  · rw [beginsWithString_cons_iff]
    exact stringRest_flatMap_jsPiece_iff text.toList
  · obtain ⟨d, -, hd⟩ := List.mem_flatMap.mp hc
    exact not_isHidden_of_mem_jsPiece hd
  · exact mem_unescaped_flatMap_jsPiece hc

/-- A quote, the end of an element, and an end of a line. -/
example : js "'</b>\u2028é" = "\\'\\u003C/b\\u003E\\u2028é" := by
  decide +kernel

end LivePages.Escape
