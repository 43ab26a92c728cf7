import LivePages.Proofs.Except
import LivePages.Proofs.Text.Literal

/-!
# Quoted Arguments

The argument of a directive is a quoted text: between back quotes as it is, or between double quotes
with escapes. What the reader takes is said by a grammar of its own, which tells the arguments that
are written strictly from those with a liberty: a number in an escape may have a plus sign, and the
brace after the last number may be missing. No argument is both, so the liberties are all that the
reader takes beyond the strict ones.

## Main results

* `read_eq_ok_iff`: the reader takes the arguments of the grammar, and reads what they stand for.
* `unquote_eq_ok_iff`: this on strings. A strict argument is read strictly.
* `readFrom_append_quote`: nothing is read that goes on after a quote.
* `unquote_loose`: arguments that are read and are not strict.
* `IsLiteral.isArgument`, `read_write`: a literal is a strict argument, so the literal of a text is
  read as the text; `unquote_quote` says this on strings.
-/

namespace LivePages.Text

open Quoted

/-! ### The grammar -/

/-- The number of an escape: hexadecimal digits. Less strictly, a plus sign may stand before
them. -/
inductive Numeral : Bool → List Char → ℕ → Prop
  | digits {ds : List Char} {n : ℕ} (h : hexNumber? ds = some n) : Numeral true ds n
  | signed {ds : List Char} {n : ℕ} (h : hexNumber? ds = some n) : Numeral false ('+' :: ds) n

/-- The inside of a double-quoted argument, and the text it stands for. Strictly, a character
stands for itself unless it is a quote or a backslash, and the rest are complete escapes. Less
strictly, a number may have a sign, and the last brace may be missing. -/
inductive Inside : Bool → List Char → List Char → Prop
  | nil : Inside true [] []
  | plain {strict : Bool} {c : Char} {s t : List Char} (hquote : c ≠ '"') (hslash : c ≠ '\\')
      (h : Inside strict s t) : Inside strict (c :: s) (c :: t)
  | letter {strict : Bool} {e c : Char} {s t : List Char} (he : simpleEscape? e = some c)
      (h : Inside strict s t) : Inside strict ('\\' :: e :: s) (c :: t)
  | byte {strict strict' : Bool} {a b c : Char} {n : ℕ} {s t : List Char}
      (hn : Numeral strict [a, b] n) (hascii : n < 0x80) (hc : scalar? n = some c)
      (h : Inside strict' s t) :
      Inside (strict && strict') ('\\' :: 'x' :: a :: b :: s) (c :: t)
  | code {strict strict' : Bool} {ds : List Char} {c : Char} {n : ℕ} {s t : List Char}
      (hn : Numeral strict ds n) (hc : scalar? n = some c) (h : Inside strict' s t) :
      Inside (strict && strict') ('\\' :: 'u' :: '{' :: (ds ++ '}' :: s)) (c :: t)
  | unclosed {strict : Bool} {ds : List Char} {c : Char} {n : ℕ} (hn : Numeral strict ds n)
      (hc : scalar? n = some c) : Inside false ('\\' :: 'u' :: '{' :: ds) [c]

/-- A quoted argument, and the text it stands for: without escapes between back quotes, or with
escapes between double quotes. -/
inductive IsArgument : Bool → List Char → List Char → Prop
  | raw {body : List Char} (h : '\x60' ∉ body) :
      IsArgument true ('\x60' :: (body ++ ['\x60'])) body
  | escaped {strict : Bool} {inside text : List Char} (h : Inside strict inside text) :
      IsArgument strict ('"' :: (inside ++ ['"'])) text

/-! ### Numbers -/

/-- Numbers are read with or without the sign. -/
theorem readHex?_eq_some_iff {ds : List Char} {n : ℕ} :
    readHex? ds = some n ↔ ∃ strict, Numeral strict ds n := by
  constructor
  · intro h
    rw [readHex?.eq_def] at h
    split at h
    · exact ⟨false, .signed h⟩
    · exact ⟨true, .digits h⟩
  · rintro ⟨strict, h | h⟩
    · have hsign : '+' ∉ ds := notMem_of_hexNumber? h rfl
      rw [readHex?.eq_def]
      split
      · exact absurd List.mem_cons_self hsign
      · exact h
    · exact h

/-- Every number is read. -/
theorem Numeral.readHex?_eq {strict : Bool} {ds : List Char} {n : ℕ} (h : Numeral strict ds n) :
    readHex? ds = some n :=
  readHex?_eq_some_iff.mpr ⟨strict, h⟩

/-- What is neither a digit nor a sign stands in no number. -/
theorem Numeral.notMem {strict : Bool} {ds : List Char} {n : ℕ} {c : Char}
    (h : Numeral strict ds n) (hc : hexValue? c = none) (hsign : c ≠ '+') : c ∉ ds := by
  cases h with
  | digits h => exact notMem_of_hexNumber? h hc
  | signed h => exact List.not_mem_cons_of_ne_of_not_mem hsign (notMem_of_hexNumber? h hc)

/-- A number is either strict or not. -/
theorem Numeral.strict_unique {strict strict' : Bool} {ds : List Char} {n n' : ℕ}
    (h : Numeral strict ds n) (h' : Numeral strict' ds n') : strict = strict' := by
  cases h with
  | digits h =>
      cases h' with
      | digits => rfl
      | signed => exact absurd List.mem_cons_self (notMem_of_hexNumber? h rfl)
  | signed h =>
      cases h' with
      | digits h' => exact absurd List.mem_cons_self (notMem_of_hexNumber? h' rfl)
      | signed => rfl

/-! ### One way to spell an argument -/

/-- The inside of an argument is either strict or not. -/
theorem Inside.strict_unique {strict strict' : Bool} {s t t' : List Char}
    (h : Inside strict s t) (h' : Inside strict' s t') : strict = strict' := by
  induction h generalizing strict' t' with
  | nil => cases h'; rfl
  | plain _ hslash _ ih =>
      cases h' with
      | plain _ _ h' => exact ih h'
      | letter => exact absurd rfl hslash
      | byte => exact absurd rfl hslash
      | code => exact absurd rfl hslash
      | unclosed => exact absurd rfl hslash
  | letter he _ ih =>
      cases h' with
      | plain _ hslash => exact absurd rfl hslash
      | letter _ h' => exact ih h'
      | byte => exact absurd he (by simp [simpleEscape?])
      | code => exact absurd he (by simp [simpleEscape?])
      | unclosed => exact absurd he (by simp [simpleEscape?])
  | byte hn _ _ _ ih =>
      cases h' with
      | plain _ hslash => exact absurd rfl hslash
      | letter he' => exact absurd he' (by simp [simpleEscape?])
      | byte hn' _ _ h' => rw [hn.strict_unique hn', ih h']
  | @code _ _ ds _ _ s _ hn _ _ ih =>
      generalize hs : '\\' :: 'u' :: '{' :: _ = s at h'
      cases h' with
      | nil => cases hs
      | plain _ hslash => exact absurd (List.cons.inj hs).1.symm hslash
      | letter he' =>
          cases hs
          exact absurd he' (by simp [simpleEscape?])
      | byte => cases hs
      | code hn' _ h' =>
          simp only [List.cons.injEq, true_and] at hs
          obtain ⟨rfl, rfl⟩ := append_cons_inj_of_notMem (c := '}')
            (hn.notMem rfl (by decide)) (hn'.notMem rfl (by decide)) hs
          rw [hn.strict_unique hn', ih h']
      | unclosed hn' _ =>
          simp only [List.cons.injEq, true_and] at hs
          have hbrace : '}' ∈ ds ++ '}' :: s := List.mem_append_right ds List.mem_cons_self
          exact absurd (hs ▸ hbrace) (hn'.notMem rfl (by decide))
  | @unclosed _ ds _ _ hn _ =>
      generalize hs : '\\' :: 'u' :: '{' :: ds = s at h'
      cases h' with
      | nil => cases hs
      | plain _ hslash => exact absurd (List.cons.inj hs).1.symm hslash
      | letter he' =>
          cases hs
          exact absurd he' (by simp [simpleEscape?])
      | byte => cases hs
      | @code _ _ ds' _ _ s' _ _ _ _ =>
          simp only [List.cons.injEq, true_and] at hs
          have hbrace : '}' ∈ ds' ++ '}' :: s' := List.mem_append_right ds' List.mem_cons_self
          exact absurd (hs ▸ hbrace) (hn.notMem rfl (by decide))
      | unclosed => rfl

/-- An argument is either strict or not. -/
theorem IsArgument.strict_unique {strict strict' : Bool} {s t t' : List Char}
    (h : IsArgument strict s t) (h' : IsArgument strict' s t') : strict = strict' := by
  cases h with
  | raw =>
      generalize hs : '\x60' :: _ = s at h'
      cases h' with
      | raw => rfl
      | escaped => cases hs
  | escaped h =>
      generalize hs : '"' :: _ = s at h'
      cases h' with
      | raw => cases hs
      | escaped h' =>
          obtain rfl := List.append_cancel_right (List.cons.inj hs).2
          exact h.strict_unique h'

/-! ### What is read -/

/-- What has been read of an escape. -/
def Quoted.Mode.taken : Quoted.Mode → List Char
  | .plain => []
  | .escape => ['\\']
  | .byteFirst => ['\\', 'x']
  | .byteSecond a => ['\\', 'x', a]
  | .brace => ['\\', 'u']
  | .code digits => '\\' :: 'u' :: '{' :: digits.reverse

/-- Two characters after `\x` are read if they are the number of an ASCII character. -/
theorem byteEscape_eq_ok_iff {a b c : Char} : byteEscape a b = .ok c ↔
    ∃ n, readHex? [a, b] = some n ∧ n < 0x80 ∧ scalar? n = some c := by
  rw [byteEscape]
  cases readHex? [a, b] with
  | none => simp
  | some n =>
      by_cases hn : n < 0x80
      · cases hc : scalar? n <;> simp [Option.filter, hn, hc]
      · simp [Option.filter, hn]

/-- Characters after `\u{` are read if they are the number of a character. -/
theorem codeEscape_eq_ok_iff {digits : List Char} {c : Char} : codeEscape digits = .ok c ↔
    ∃ n, readHex? digits.reverse = some n ∧ scalar? n = some c := by
  rw [codeEscape]
  cases readHex? digits.reverse with
  | none => simp
  | some n => cases hc : scalar? n <;> simp [hc]

/-- **What is read is the inside of an argument**, together with what has been read of an escape. -/
theorem exists_inside_of_readFrom {mode : Mode} {s t : List Char}
    (h : readFrom mode s = .ok t) : ∃ strict, Inside strict (mode.taken ++ s) t := by
  fun_induction readFrom mode s generalizing t with
  | case1 =>
      obtain rfl := Except.ok.inj h
      exact ⟨true, .nil⟩
  | case4 c r hquote hslash ih =>
      obtain ⟨u, hu, rfl⟩ := map_eq_ok_iff.mp h
      obtain ⟨strict, hinside⟩ := ih hu
      exact ⟨strict, .plain hquote hslash hinside⟩
  | case3 r _ ih | case6 r ih | case7 r _ ih | case11 c r ih | case15 r ih => exact ih h
  | case8 c r _ _ d hd ih =>
      obtain ⟨u, hu, rfl⟩ := map_eq_ok_iff.mp h
      obtain ⟨strict, hinside⟩ := ih hu
      exact ⟨strict, .letter hd hinside⟩
  | case13 a b r ih =>
      obtain ⟨c, hc, hrest⟩ := bind_eq_ok_iff.mp h
      obtain ⟨u, hu, rfl⟩ := map_eq_ok_iff.mp hrest
      obtain ⟨strict', hinside⟩ := ih hu
      obtain ⟨n, hn, hascii, hc⟩ := byteEscape_eq_ok_iff.mp hc
      obtain ⟨strict, hn⟩ := readHex?_eq_some_iff.mp hn
      exact ⟨_, .byte hn hascii hc hinside⟩
  | case17 digits =>
      obtain ⟨c, hc, rfl⟩ := map_eq_ok_iff.mp h
      obtain ⟨n, hn, hc⟩ := codeEscape_eq_ok_iff.mp hc
      obtain ⟨strict, hn⟩ := readHex?_eq_some_iff.mp hn
      rw [List.append_nil]
      exact ⟨false, .unclosed hn hc⟩
  | case18 digits r ih =>
      obtain ⟨c, hc, hrest⟩ := bind_eq_ok_iff.mp h
      obtain ⟨u, hu, rfl⟩ := map_eq_ok_iff.mp hrest
      obtain ⟨strict', hinside⟩ := ih hu
      obtain ⟨n, hn, hc⟩ := codeEscape_eq_ok_iff.mp hc
      obtain ⟨strict, hn⟩ := readHex?_eq_some_iff.mp hn
      exact ⟨_, .code hn hc hinside⟩
  | case19 digits c r hc ih =>
      simpa [Mode.taken] using ih h
  | _ => exact absurd h (by simp)

/-- Characters are put together as a number up to the brace. -/
theorem readFrom_code_append {ds : List Char} (h : '}' ∉ ds) (digits s : List Char) :
    readFrom (.code digits) (ds ++ s) = readFrom (.code (ds.reverse ++ digits)) s := by
  induction ds generalizing digits with
  | nil => rfl
  | cons d ds ih =>
      rw [List.mem_cons, not_or] at h
      rw [List.cons_append, readFrom, if_neg (Ne.symm h.1), ih h.2]
      simp

/-- **The inside of an argument is read as what it stands for.** -/
theorem Inside.readFrom_eq {strict : Bool} {s t : List Char} (h : Inside strict s t) :
    readFrom .plain s = .ok t := by
  have hslash (r : List Char) : readFrom .plain ('\\' :: r) = readFrom .escape r := rfl
  have hcode (r : List Char) :
      readFrom .escape ('u' :: '{' :: r) = readFrom (.code []) r := rfl
  induction h with
  | nil => rfl
  | plain hquote hslash _ ih =>
      rw [readFrom, if_neg hquote, if_neg hslash, ih]
      rfl
  | @letter _ e c s t he _ ih =>
      have hx : e ≠ 'x' := by rintro rfl; simp [simpleEscape?] at he
      have hu : e ≠ 'u' := by rintro rfl; simp [simpleEscape?] at he
      rw [hslash, readFrom, if_neg hx, if_neg hu, he]
      simp only [ih]
      rfl
  | @byte _ _ a b c n s t hn hascii hc _ ih =>
      have hbyte : byteEscape a b = .ok c :=
        byteEscape_eq_ok_iff.mpr ⟨n, hn.readHex?_eq, hascii, hc⟩
      have hread : readFrom .plain ('\\' :: 'x' :: a :: b :: s) =
          byteEscape a b >>= fun c => (readFrom .plain s).map (c :: ·) := rfl
      rw [hread, hbyte, ih]
      rfl
  | @code _ _ ds c n s t hn hc _ ih =>
      have hescape : codeEscape ds.reverse = .ok c := by
        rw [codeEscape_eq_ok_iff, List.reverse_reverse]
        exact ⟨n, hn.readHex?_eq, hc⟩
      rw [hslash, hcode, readFrom_code_append (hn.notMem rfl (by decide)), List.append_nil,
        readFrom, if_pos rfl, hescape, ih]
      rfl
  | @unclosed _ ds c n hn hc =>
      have hescape : codeEscape ds.reverse = .ok c := by
        rw [codeEscape_eq_ok_iff, List.reverse_reverse]
        exact ⟨n, hn.readHex?_eq, hc⟩
      have hread := readFrom_code_append (hn.notMem rfl (by decide)) [] []
      rw [List.append_nil, List.append_nil] at hread
      rw [hslash, hcode, hread, readFrom, hescape]
      rfl

/-- No number has a quote in it. -/
theorem readFrom_code_ne_ok {digits : List Char} (h : '"' ∈ digits) (s t : List Char) :
    readFrom (.code digits) s ≠ .ok t := by
  have hescape {digits : List Char} (h : '"' ∈ digits) (c : Char) : codeEscape digits ≠ .ok c := by
    intro hc
    obtain ⟨n, hn, -⟩ := codeEscape_eq_ok_iff.mp hc
    obtain ⟨strict, hn⟩ := readHex?_eq_some_iff.mp hn
    exact hn.notMem rfl (by decide) (List.mem_reverse.mpr h)
  induction s generalizing digits with
  | nil =>
      intro hread
      obtain ⟨c, hc, -⟩ := map_eq_ok_iff.mp hread
      exact hescape h c hc
  | cons c s ih =>
      rw [readFrom]
      split
      · intro hread
        obtain ⟨d, hd, -⟩ := bind_eq_ok_iff.mp hread
        exact hescape h d hd
      · exact ih (List.mem_cons_of_mem c h)

/-- **After what can be read, a quote ends the reading**: with a quote and more behind it, it cannot
be read. -/
theorem readFrom_append_quote {mode : Mode} {s t : List Char} (h : readFrom mode s = .ok t)
    (r t' : List Char) : readFrom mode (s ++ '"' :: r) ≠ .ok t' := by
  fun_induction readFrom mode s generalizing t t' with
  | case1 => simp [readFrom]
  | case17 digits => exact readFrom_code_ne_ok List.mem_cons_self r t'
  | case4 c s hquote hslash ih =>
      obtain ⟨u, hu, -⟩ := map_eq_ok_iff.mp h
      intro hread
      rw [List.cons_append, readFrom, if_neg hquote, if_neg hslash] at hread
      obtain ⟨u', hu', -⟩ := map_eq_ok_iff.mp hread
      exact ih hu u' hu'
  | case8 e s hx hbrace c hc ih =>
      obtain ⟨u, hu, -⟩ := map_eq_ok_iff.mp h
      intro hread
      rw [List.cons_append, readFrom, if_neg hx, if_neg hbrace, hc] at hread
      obtain ⟨u', hu', -⟩ := map_eq_ok_iff.mp hread
      exact ih hu u' hu'
  | case13 _ _ s ih | case18 _ s ih =>
      obtain ⟨c, -, hrest⟩ := bind_eq_ok_iff.mp h
      obtain ⟨u, hu, -⟩ := map_eq_ok_iff.mp hrest
      intro hread
      obtain ⟨c', -, hrest'⟩ := bind_eq_ok_iff.mp hread
      obtain ⟨u', hu', -⟩ := map_eq_ok_iff.mp hrest'
      exact ih hu u' hu'
  | case3 s _ ih | case6 s ih | case7 s _ ih | case11 c s ih | case15 s ih => exact ih h t'
  | case19 digits c s hc ih =>
      rw [List.cons_append, readFrom, if_neg hc]
      exact ih h t'
  | _ => exact absurd h (by simp)

/-- The inside of a text is what stands between its quotes. -/
theorem inside?_eq_some_iff {q : Char} {s body : List Char} :
    inside? q s = some body ↔ s = q :: (body ++ [q]) := by
  cases s with
  | nil => simp [inside?]
  | cons c r =>
      rw [inside?]
      constructor
      · intro h
        obtain ⟨⟨rfl, hlast⟩, hbody⟩ := Option.ite_none_right_eq_some.mp h
        obtain ⟨front, rfl⟩ := List.getLast?_eq_some_iff.mp hlast
        obtain rfl := Option.some.inj hbody
        rw [List.dropLast_concat]
      · intro h
        obtain ⟨rfl, rfl⟩ := List.cons.inj h
        rw [if_pos ⟨rfl, List.getLast?_concat⟩, List.dropLast_concat]

/-- **The reader takes the arguments, and reads what they stand for.** -/
theorem read_eq_ok_iff {s t : List Char} :
    Quoted.read s = .ok t ↔ ∃ strict, IsArgument strict s t := by
  rw [Quoted.read]
  constructor
  · intro h
    split at h
    · next body hbody =>
      obtain rfl := inside?_eq_some_iff.mp hbody
      split at h
      · exact absurd h (by simp)
      · next hmark =>
        obtain rfl := Except.ok.inj h
        rw [List.contains_iff_mem] at hmark
        exact ⟨true, .raw hmark⟩
    · split at h
      · next body hbody =>
        obtain rfl := inside?_eq_some_iff.mp hbody
        obtain ⟨strict, hinside⟩ := exists_inside_of_readFrom h
        exact ⟨strict, .escaped hinside⟩
      · exact absurd h (by simp)
  · rintro ⟨strict, hraw | hinside⟩
    · rw [inside?_eq_some_iff.mpr rfl]
      simp [hraw]
    · next inside =>
      have hback : inside? '\x60' ('"' :: (inside ++ ['"'])) = none := by simp [inside?]
      rw [hback, inside?_eq_some_iff.mpr rfl]
      exact hinside.readFrom_eq

/-- **An argument is read exactly if it is of the grammar**, as what it stands for. One that is
written strictly cannot be taken for one with a liberty. -/
theorem unquote_eq_ok_iff (s t : String) :
    (unquote s = .ok t ↔ ∃ strict, IsArgument strict s.toList t.toList) ∧
      (IsArgument true s.toList t.toList → ∀ t', ¬ IsArgument false s.toList t') := by
  refine ⟨?_, fun hstrict t' hloose => absurd (hstrict.strict_unique hloose) (by decide)⟩
  rw [unquote, map_eq_ok_iff, ← read_eq_ok_iff]
  constructor
  · rintro ⟨u, hu, rfl⟩
    rwa [String.toList_ofList]
  · intro h
    exact ⟨t.toList, h, String.ofList_toList⟩

/-- The argument is read as a text, and is not strict. -/
def ReadLoosely (s t : String) : Prop :=
  unquote s = .ok t ∧ ¬ ∃ u, IsArgument true s.toList u

/-- **More is read than what is written strictly**: numbers with a sign, and a number without the
brace after it. -/
theorem unquote_loose : ReadLoosely "\"\\x+5\"" "\x05" ∧
    ReadLoosely "\"\\u\x7b+41\x7d\"" "A" ∧ ReadLoosely "\"\\u\x7b41\"" "A" := by
  have hnot {s t : List Char} (hloose : IsArgument false s t) : ¬ ∃ u, IsArgument true s u :=
    fun ⟨_, hstrict⟩ => absurd (hstrict.strict_unique hloose) (by decide)
  have hbyte : IsArgument false "\"\\x+5\"".toList ['\x05'] :=
    .escaped (.byte (.signed (by decide : hexNumber? ['5'] = some 5)) (by decide) (by decide) .nil)
  have hcode : IsArgument false "\"\\u\x7b+41\x7d\"".toList ['A'] :=
    .escaped (.code (.signed (by decide : hexNumber? ['4', '1'] = some 0x41)) (by decide) .nil)
  have hopen : IsArgument false "\"\\u\x7b41\"".toList ['A'] :=
    .escaped (.unclosed (.digits (by decide : hexNumber? ['4', '1'] = some 0x41)) (by decide))
  exact ⟨⟨by decide +kernel, hnot hbyte⟩, ⟨by decide +kernel, hnot hcode⟩,
    ⟨by decide +kernel, hnot hopen⟩⟩

/-! ### Literals -/

/-- The inside of a literal is a strict one of an argument. -/
theorem Denotes.inside {s t : List Char} (h : Denotes s t) : Inside true s t := by
  induction h with
  | nil => exact .nil
  | plain hquote hslash _ _ _ ih => exact .plain hquote hslash ih
  | letter he _ ih => exact .letter he ih
  | byte hn hascii hc _ ih => exact .byte (.digits hn) hascii hc ih
  | code _ hn hc _ ih => exact .code (.digits hn) hc ih

/-- A literal is a strict argument. -/
theorem IsLiteral.isArgument {literal text : List Char} (h : IsLiteral literal text) :
    IsArgument true literal text := by
  obtain ⟨inside, rfl, hinside⟩ := h
  exact .escaped hinside.inside

/-- The inside of the literal of a text. -/
theorem inside_flatMap_spell (s : List Char) : Inside true (s.flatMap spell) s := by
  obtain ⟨inside, hwrite, hinside⟩ := isLiteral_write s
  obtain rfl := List.append_cancel_right (List.cons.inj hwrite).2
  exact hinside.inside

/-- What is written as a literal is read back. -/
theorem read_write (s : List Char) : Quoted.read (write s) = .ok s :=
  read_eq_ok_iff.mpr ⟨true, (isLiteral_write s).isArgument⟩

/-- A literal is read as what it stands for. -/
theorem IsLiteral.unquote_eq {literal text : String}
    (h : IsLiteral literal.toList text.toList) : unquote literal = .ok text := by
  rw [unquote, read_eq_ok_iff.mpr ⟨true, h.isArgument⟩, Except.map, String.ofList_toList]

/-- **The literal of a text is read as the text.** -/
theorem unquote_quote (text : String) : unquote (quote text) = .ok text := by
  rw [unquote, quote, String.toList_ofList, read_write, Except.map, String.ofList_toList]

end LivePages.Text
