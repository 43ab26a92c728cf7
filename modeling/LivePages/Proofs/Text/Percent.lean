import LivePages.Proofs.Text.Hex
import LivePages.Proofs.Text.Utf8
import LivePages.Text.Percent

/-!
# Percent Coding Read Back

A text in which some characters stand for themselves, and not the percent sign, and all others are
coded byte by byte is decoded to the text.

## Main results

* `decode_encode`: the coded bytes of a text are decoded.
* `decodeText_encode`: a coded text is read back.
* `mem_encode`: the characters of a coded text.
-/

namespace LivePages.Text.Percent

/-! ### Bytes -/

/-- A byte other than that of the percent sign stands for itself. -/
theorem decode_cons_of_ne {b : UInt8} (h : b ≠ 0x25) (r : List UInt8) :
    decode (b :: r) = b :: decode r := by
  rw [decode]
  rintro a c s rfl
  exact absurd rfl h

theorem decode_append_of_notMem {bytes : List UInt8} (h : 0x25 ∉ bytes) (r : List UInt8) :
    decode (bytes ++ r) = bytes ++ decode r := by
  induction bytes with
  | nil => rfl
  | cons b bytes ih =>
      rw [List.mem_cons, not_or] at h
      rw [List.cons_append, decode_cons_of_ne (Ne.symm h.1), ih h.2, List.cons_append]

/-- The digits of a byte are ASCII. -/
theorem utf8EncodeChar_hexDigitUpper : ∀ n < 16,
    String.utf8EncodeChar (hexDigitUpper n) = [UInt8.ofNat (hexDigitUpper n).toNat] := by
  decide

theorem digit?_hexDigitUpper : ∀ n < 16,
    digit? (UInt8.ofNat (hexDigitUpper n).toNat) = some n := by
  decide

/-- A coded byte is decoded. -/
theorem decode_encode_code (b : UInt8) (r : List UInt8) :
    decode (Utf8.encode (code b) ++ r) = b :: decode r := by
  have hhigh : b.toNat / 16 < 16 := by have := b.toNat_lt; omega
  have hlow : b.toNat % 16 < 16 := Nat.mod_lt _ (by decide)
  have hbytes : Utf8.encode (code b) ++ r =
      0x25 :: UInt8.ofNat (hexDigitUpper (b.toNat / 16)).toNat ::
        UInt8.ofNat (hexDigitUpper (b.toNat % 16)).toNat :: r := by
    have hpercent : String.utf8EncodeChar '%' = [0x25] := by decide
    simp [Utf8.encode, code, hpercent, utf8EncodeChar_hexDigitUpper _ hhigh,
      utf8EncodeChar_hexDigitUpper _ hlow]
  have hvalue : 16 * (b.toNat / 16) + b.toNat % 16 = b.toNat := Nat.div_add_mod _ 16
  rw [hbytes, decode]
  simp only [digit?_hexDigitUpper _ hhigh, digit?_hexDigitUpper _ hlow, hvalue, UInt8.ofNat_toNat]

theorem decode_encode_flatMap_code (bytes r : List UInt8) :
    decode (Utf8.encode (bytes.flatMap code) ++ r) = bytes ++ decode r := by
  induction bytes with
  | nil => rfl
  | cons b bytes ih =>
      have hsplit : Utf8.encode ((b :: bytes).flatMap code) =
          Utf8.encode (code b) ++ Utf8.encode (bytes.flatMap code) := by
        rw [Utf8.encode, List.flatMap_cons, List.flatMap_append]
        rfl
      rw [hsplit, List.append_assoc, decode_encode_code, ih, List.cons_append]

/-! ### Texts -/

variable {keep : Char → Bool}

/-- **The bytes of a coded text are decoded to those of the text**, if the percent sign is not
among the characters that stand for themselves. -/
theorem decode_encode (hkeep : keep '%' = false) (s : List Char) :
    decode (Utf8.encode (encode keep s)) = Utf8.encode s := by
  induction s with
  | nil => rfl
  | cons c s ih =>
      have hsplit : Utf8.encode (encode keep (c :: s)) =
          Utf8.encode (if keep c then [c] else (String.utf8EncodeChar c).flatMap code) ++
            Utf8.encode (encode keep s) := by
        rw [encode, List.flatMap_cons, Utf8.encode, List.flatMap_append]
        rfl
      have hchar : decode (Utf8.encode (encode keep (c :: s))) =
          String.utf8EncodeChar c ++ decode (Utf8.encode (encode keep s)) := by
        rw [hsplit]
        split
        · next hc =>
          have hpercent : 0x25 ∉ String.utf8EncodeChar c := by
            intro hmem
            have hnat := Utf8.toNat_of_mem_utf8EncodeChar (by decide) hmem
            have heq : c = '%' := Char.toNat_inj.mp hnat
            exact absurd (heq ▸ hc) (by simp [hkeep])
          have hself : Utf8.encode [c] = String.utf8EncodeChar c := List.flatMap_singleton _ _
          rw [hself, decode_append_of_notMem hpercent]
        · exact decode_encode_flatMap_code _ _
      rw [hchar, ih, Utf8.encode, Utf8.encode, List.flatMap_cons]

/-- **A coded text is read back.** -/
theorem decodeText_encode (hkeep : keep '%' = false) (s : List Char) :
    decodeText (encode keep s) = s := by
  rw [decodeText, decode_encode hkeep, Utf8.decodeLossy_encode]

/-- A coded text has characters that stand for themselves, percent signs and digits. -/
theorem mem_encode {s : List Char} {c : Char} (h : c ∈ encode keep s) :
    keep c = true ∨ c = '%' ∨ ∃ n < 16, c = hexDigitUpper n := by
  obtain ⟨d, -, hd⟩ := List.mem_flatMap.mp h
  split at hd
  · next hkept =>
    rw [List.mem_singleton.mp hd]
    exact .inl hkept
  · obtain ⟨b, -, hb⟩ := List.mem_flatMap.mp hd
    have hhigh : b.toNat / 16 < 16 := by have := b.toNat_lt; omega
    have hlow : b.toNat % 16 < 16 := Nat.mod_lt _ (by decide)
    simp only [code, List.mem_cons, List.not_mem_nil, or_false] at hb
    rcases hb with rfl | rfl | rfl
    · exact .inr (.inl rfl)
    · exact .inr (.inr ⟨_, hhigh, rfl⟩)
    · exact .inr (.inr ⟨_, hlow, rfl⟩)

end LivePages.Text.Percent
