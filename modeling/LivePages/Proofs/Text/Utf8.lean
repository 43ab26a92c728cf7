import Mathlib.Data.List.Basic
import LivePages.Text.Utf8

/-!
# UTF-8 Read Back

The bytes of a character lead the reader from the start to that character and nowhere else, so the
bytes of a text are read as the text.

## Main results

* `reads_utf8EncodeChar`: the moves of the reader over the bytes of one character.
* `decodeLossy_encode`: a text is read back.
-/

namespace LivePages.Text.Utf8

/-- The bytes lead the reader from a state to the end of a character. -/
inductive Reads : State → List UInt8 → Char → Prop where
  | finish {state : State} {b : UInt8} {c : Char} (h : state.move b = .finish c) :
      Reads state [b] c
  | more {state next : State} {b : UInt8} {r : List UInt8} {c : Char}
      (h : state.move b = .more next) (hr : Reads next r c) : Reads state (b :: r) c

/-- A character that is led to is read, and then the rest. -/
theorem Reads.lossyFrom_append {state : State} {bytes : List UInt8} {c : Char}
    (h : Reads state bytes c) (rest : List UInt8) :
    lossyFrom state (bytes ++ rest) = c :: lossyFrom .start rest := by
  induction h with
  | @finish state _ _ h => cases state <;> simp [lossyFrom, h]
  | @more state _ _ _ _ h _ ih => cases state <;> simp [lossyFrom, h, ih]

/-! ### Moves -/

/-- The first move, by the value of the byte. -/
theorem lead_eq (b : UInt8) : lead b =
    if b.toNat < 0x80 then .finish (Char.ofNat b.toNat)
    else if b.toNat < 0xC2 then .refuse
    else if b.toNat < 0xE0 then .more (.inside (b.toNat - 0xC0) 1 0x80 0xBF)
    else if b.toNat = 0xE0 then .more (.inside 0 2 0xA0 0xBF)
    else if b.toNat = 0xED then .more (.inside 13 2 0x80 0x9F)
    else if b.toNat < 0xF0 then .more (.inside (b.toNat - 0xE0) 2 0x80 0xBF)
    else if b.toNat = 0xF0 then .more (.inside 0 3 0x90 0xBF)
    else if b.toNat < 0xF4 then .more (.inside (b.toNat - 0xF0) 3 0x80 0xBF)
    else if b.toNat = 0xF4 then .more (.inside 4 3 0x80 0x8F)
    else .refuse := by
  simp only [lead, UInt8.lt_iff_toNat_lt, ← UInt8.toNat_inj]
  rfl

/-- The first byte of two. -/
theorem lead_two {n : ℕ} (h : 2 ≤ n) (h' : n < 0x20) :
    lead (UInt8.ofNat (n + 0xC0)) = .more (.inside n 1 0x80 0xBF) := by
  have hb : (UInt8.ofNat (n + 0xC0)).toNat = n + 0xC0 :=
    UInt8.toNat_ofNat_of_lt' (by simp only [UInt8.size]; omega)
  rw [lead_eq, hb, if_neg (by omega), if_neg (by omega), if_pos (by omega), Nat.add_sub_cancel]

/-- The first byte of three, with the range of the byte after it: a number that begins with zero
has more bits there, and one of a surrogate is no character. -/
theorem exists_lead_three {v : ℕ} (h : 0x800 ≤ v) (h' : v < 0x10000)
    (hv : v < 0xD800 ∨ 0xDFFF < v) :
    ∃ low high, lead (UInt8.ofNat (v / 4096 + 0xE0)) = .more (.inside (v / 4096) 2 low high) ∧
      low.toNat ≤ v / 64 % 64 + 0x80 ∧ v / 64 % 64 + 0x80 ≤ high.toNat := by
  have hb : (UInt8.ofNat (v / 4096 + 0xE0)).toNat = v / 4096 + 0xE0 :=
    UInt8.toNat_ofNat_of_lt' (by simp only [UInt8.size]; omega)
  rw [lead_eq, hb, if_neg (by omega), if_neg (by omega), if_neg (by omega)]
  rcases Nat.lt_trichotomy (v / 4096) 0 with hzero | hzero | hzero
  · omega
  · rw [if_pos (by omega), hzero]
    exact ⟨_, _, rfl, by simp; omega, by simp; omega⟩
  · rw [if_neg (by omega)]
    by_cases hd : v / 4096 = 13
    · rw [if_pos (by omega), hd]
      exact ⟨_, _, rfl, by simp, by simp; omega⟩
    · rw [if_neg (by omega), if_pos (by omega), Nat.add_sub_cancel]
      exact ⟨_, _, rfl, by simp, by simp; omega⟩

/-- The first byte of four, with the range of the byte after it. -/
theorem exists_lead_four {v : ℕ} (h : 0x10000 ≤ v) (h' : v < 0x110000) :
    ∃ low high, lead (UInt8.ofNat (v / 262144 + 0xF0)) =
        .more (.inside (v / 262144) 3 low high) ∧
      low.toNat ≤ v / 4096 % 64 + 0x80 ∧ v / 4096 % 64 + 0x80 ≤ high.toNat := by
  have hb : (UInt8.ofNat (v / 262144 + 0xF0)).toNat = v / 262144 + 0xF0 :=
    UInt8.toNat_ofNat_of_lt' (by simp only [UInt8.size]; omega)
  rw [lead_eq, hb, if_neg (by omega), if_neg (by omega), if_neg (by omega), if_neg (by omega),
    if_neg (by omega), if_neg (by omega)]
  by_cases hzero : v / 262144 = 0
  · rw [if_pos (by omega), hzero]
    exact ⟨_, _, rfl, by simp; omega, by simp; omega⟩
  · rw [if_neg (by omega)]
    by_cases hfour : v / 262144 = 4
    · rw [if_neg (by omega), if_pos (by omega), hfour]
      exact ⟨_, _, rfl, by simp, by simp; omega⟩
    · rw [if_pos (by omega), Nat.add_sub_cancel]
      exact ⟨_, _, rfl, by simp, by simp; omega⟩

/-- A byte in its range adds six bits. -/
theorem move_inside {bits owed : ℕ} {low high : UInt8} {x : ℕ} (hlow : low.toNat ≤ x + 0x80)
    (hhigh : x + 0x80 ≤ high.toNat) :
    (State.inside bits owed low high).move (UInt8.ofNat (x + 0x80)) =
      if owed ≤ 1 then .finish (Char.ofNat (bits * 64 + x))
      else .more (.inside (bits * 64 + x) (owed - 1) 0x80 0xBF) := by
  have hb : (UInt8.ofNat (x + 0x80)).toNat = x + 0x80 :=
    UInt8.toNat_ofNat_of_lt' (Nat.lt_of_le_of_lt hhigh high.toNat_lt)
  have hrange : low ≤ UInt8.ofNat (x + 0x80) ∧ UInt8.ofNat (x + 0x80) ≤ high := by
    rw [UInt8.le_iff_toNat_le, UInt8.le_iff_toNat_le, hb]
    exact ⟨hlow, hhigh⟩
  simp only [State.move, if_pos hrange, hb, Nat.add_sub_cancel]

/-- A byte before the last one. -/
theorem Reads.inside {bits owed : ℕ} {low high : UInt8} {x : ℕ} {r : List UInt8} {c : Char}
    (hlow : low.toNat ≤ x + 0x80) (hhigh : x + 0x80 ≤ high.toNat)
    (hr : Reads (.inside (bits * 64 + x) (owed + 1) 0x80 0xBF) r c) :
    Reads (.inside bits (owed + 2) low high) (UInt8.ofNat (x + 0x80) :: r) c :=
  .more (move_inside hlow hhigh) hr

/-- The last byte of a character. -/
theorem reads_tail (bits n : ℕ) :
    Reads (.inside bits 1 0x80 0xBF) [UInt8.ofNat (n % 64 + 0x80)]
      (Char.ofNat (bits * 64 + n % 64)) :=
  .finish (move_inside (by simp) (by simp; omega))

/-- **The bytes of a character lead to it.** -/
theorem reads_utf8EncodeChar (c : Char) : Reads .start (String.utf8EncodeChar c) c := by
  have hvalid : c.toNat.isValidChar := c.valid
  have hc : Char.ofNat c.toNat = c := Char.ofNat_toNat c
  generalize hv : c.toNat = v at hvalid hc
  have hval : c.val.toNat = v := hv
  simp only [String.utf8EncodeChar, hval]
  split_ifs with h1 h2 h3
  · have hb : (UInt8.ofNat v).toNat = v :=
      UInt8.toNat_ofNat_of_lt' (by simp only [UInt8.size]; omega)
    refine .finish ?_
    rw [State.move, lead_eq, hb, if_pos (by omega), hc]
  · have hfirst : v / 64 % 32 = v / 64 := by omega
    have hlast := reads_tail (v / 64) v
    rw [show v / 64 * 64 + v % 64 = v by omega, hc] at hlast
    rw [hfirst]
    exact .more (lead_two (by omega) (by omega)) hlast
  · have hfirst : v / 4096 % 16 = v / 4096 := by omega
    obtain ⟨low, high, hlead, hlow, hhigh⟩ := exists_lead_three (v := v) (by omega) (by omega)
      (by rcases hvalid with h | h <;> omega)
    have hlast := reads_tail (v / 4096 * 64 + v / 64 % 64) v
    rw [show (v / 4096 * 64 + v / 64 % 64) * 64 + v % 64 = v by omega, hc] at hlast
    rw [hfirst]
    exact .more hlead (.inside hlow hhigh hlast)
  · have hbound : v < 0x110000 := by rcases hvalid with h | h <;> omega
    have hfirst : v / 262144 % 8 = v / 262144 := by omega
    obtain ⟨low, high, hlead, hlow, hhigh⟩ := exists_lead_four (v := v) (by omega) hbound
    have hlast := reads_tail ((v / 262144 * 64 + v / 4096 % 64) * 64 + v / 64 % 64) v
    rw [show ((v / 262144 * 64 + v / 4096 % 64) * 64 + v / 64 % 64) * 64 + v % 64 = v by omega,
      hc] at hlast
    rw [hfirst]
    exact .more hlead (.inside hlow hhigh (.inside (by simp) (by simp; omega) hlast))

/-- An ASCII character is one byte. -/
theorem utf8EncodeChar_of_le {c : Char} (h : c.toNat ≤ 0x7F) :
    String.utf8EncodeChar c = [UInt8.ofNat c.toNat] :=
  if_pos h

/-- An ASCII byte stands for its own character only. -/
theorem toNat_of_mem_utf8EncodeChar {b : UInt8} {c : Char} (hb : b.toNat < 0x80)
    (h : b ∈ String.utf8EncodeChar c) : c.toNat = b.toNat := by
  have hval : c.val.toNat = c.toNat := rfl
  simp only [String.utf8EncodeChar, hval] at h
  have hsize (n : ℕ) (hn : n < 0x100) : (UInt8.ofNat n).toNat = n := UInt8.toNat_ofNat_of_lt' hn
  split_ifs at h with h1 h2 h3
  · rw [List.mem_singleton.mp h, hsize _ (by omega)]
  -- every byte of a longer character has its highest bit set
  all_goals
    simp only [List.mem_cons, List.not_mem_nil, or_false] at h
    rcases h with rfl | rfl | rfl | rfl <;>
      (rw [hsize _ (by omega)] at hb; omega)

/-! ### Texts -/

/-- An ASCII byte of a text is one of its characters. -/
theorem exists_of_mem_encode {b : UInt8} {s : List Char} (hb : b.toNat < 0x80)
    (h : b ∈ encode s) : ∃ c ∈ s, c.toNat = b.toNat := by
  obtain ⟨c, hc, hbc⟩ := List.mem_flatMap.mp h
  exact ⟨c, hc, toNat_of_mem_utf8EncodeChar hb hbc⟩

/-- To put one ASCII byte for another is to put one character for another. -/
theorem map_encode {a b : UInt8} {x y : Char} (ha : a.toNat < 0x80)
    (hx : String.utf8EncodeChar x = [a]) (hy : String.utf8EncodeChar y = [b]) (s : List Char) :
    (encode s).map (fun d => if d = a then b else d) =
      encode (s.map fun c => if c = x then y else c) := by
  have hchar (c : Char) : (String.utf8EncodeChar c).map (fun d => if d = a then b else d) =
      String.utf8EncodeChar (if c = x then y else c) := by
    by_cases hc : c = x
    · rw [if_pos hc, hc, hx, hy]
      simp
    · have hnone : ∀ d ∈ String.utf8EncodeChar c, (if d = a then b else d) = d := by
        intro d hd
        refine if_neg ?_
        rintro rfl
        have hsame := toNat_of_mem_utf8EncodeChar ha (hx ▸ List.mem_singleton_self d)
        exact hc (Char.toNat_inj.mp ((toNat_of_mem_utf8EncodeChar ha hd).trans hsame.symm))
      rw [if_neg hc, List.map_congr_left hnone, List.map_id']
  rw [encode, encode, List.map_flatMap, List.flatMap_map]
  exact List.flatMap_congr fun c _ => hchar c

/-- The bytes of a text are read as the text, and then the rest. -/
theorem lossyFrom_encode_append (s : List Char) (rest : List UInt8) :
    lossyFrom .start (encode s ++ rest) = s ++ lossyFrom .start rest := by
  induction s with
  | nil => rfl
  | cons c s ih =>
      rw [encode, List.flatMap_cons, List.append_assoc,
        (reads_utf8EncodeChar c).lossyFrom_append, ← encode, ih, List.cons_append]

/-- **A text is read back from its bytes.** -/
theorem decodeLossy_encode (s : List Char) : decodeLossy (encode s) = s := by
  have h := lossyFrom_encode_append s []
  rwa [List.append_nil, lossyFrom, List.append_nil] at h

end LivePages.Text.Utf8
