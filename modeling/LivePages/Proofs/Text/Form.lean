import LivePages.Proofs.Escape.Query
import LivePages.Proofs.Files.Join
import LivePages.Text.Form

/-!
# Forms Read Back

Pairs of names and values are written as a form by escaping both as components of a query. The form
is taken apart at the bytes of ampersands and equals signs, of which there are none in a component.
So the same pairs are read, in their order, whatever characters they have and even if a name or a
value is empty.

## Main results

* `decode_query`: a component is read as the text that was escaped.
* `pairs_ofString_write`: a form is read back.
* `value?_ofString_write`: the value of a name is that of the first pair with it.
-/

namespace LivePages.Text

variable {α : Type} [DecidableEq α] {separator : α}

/-- The first separator is the one after a text without separators. -/
theorem splitFirst?_append_cons {s : List α} (h : separator ∉ s) (t : List α) :
    splitFirst? separator (s ++ separator :: t) = some (s, t) := by
  induction s with
  | nil => exact if_pos rfl
  | cons a s ih =>
      rw [List.mem_cons, not_or] at h
      rw [List.cons_append, splitFirst?, if_neg (Ne.symm h.1), ih h.2]
      rfl

end LivePages.Text

namespace LivePages.Text.Form

open Escape (query)

/-! ### Components -/

/-- **A component is read as the text that was escaped.** -/
theorem decode_query (text : String) : decode (Utf8.ofString (query text)) = text := by
  have hplus : (Utf8.ofString (query text)).map (fun b => if b = 0x2B then 0x20 else b) =
      Utf8.encode ((query text).toList.map fun c => if c = '+' then ' ' else c) :=
    Utf8.map_encode (by decide) (by decide) (by decide) _
  rw [decode, hplus, Escape.map_query, Percent.decode_encode (by decide), Utf8.toStringLossy,
    Utf8.decodeLossy_encode, String.ofList_toList]

/-! ### Pairs -/

/-- One pair, with its name and its value escaped. -/
def writePair (p : String × String) : String :=
  query p.1 ++ "=" ++ query p.2

/-- The pairs as a form. -/
def write (pairs : List (String × String)) : String :=
  joined "&" (pairs.map writePair)

/-- The bytes of a component do not include the ASCII byte of what separates components. -/
theorem notMem_ofString_query {c : Char} {b : UInt8} (hc : c = '&' ∨ c = '=')
    (hb : b.toNat = c.toNat) (text : String) : b ∉ Utf8.ofString (query text) := by
  intro h
  have hascii : b.toNat < 0x80 := by rcases hc with rfl | rfl <;> simp [hb]
  obtain ⟨d, hd, hnat⟩ := Utf8.exists_of_mem_encode hascii h
  obtain rfl : d = c := Char.toNat_inj.mp (hnat.trans hb)
  exact Escape.notMem_query hc text hd

/-- The bytes of a pair. -/
theorem ofString_writePair (p : String × String) : Utf8.ofString (writePair p) =
    Utf8.ofString (query p.1) ++ 0x3D :: Utf8.ofString (query p.2) := by
  have hequals : Utf8.ofString "=" = [0x3D] := by decide
  have happend (s t : String) : Utf8.ofString (s ++ t) = Utf8.ofString s ++ Utf8.ofString t := by
    simp [Utf8.ofString, Utf8.encode]
  rw [writePair, happend, happend, hequals, List.append_assoc, List.singleton_append]

/-- A pair is read back. -/
theorem pair_ofString_writePair (p : String × String) :
    pair (Utf8.ofString (writePair p)) = p := by
  have hname : 0x3D ∉ Utf8.ofString (query p.1) :=
    notMem_ofString_query (.inr rfl) (by decide) p.1
  rw [pair, ofString_writePair, splitFirst?_append_cons hname]
  exact Prod.ext (decode_query p.1) (decode_query p.2)

/-! ### Forms -/

/-- The pieces of a form are the pairs. -/
theorem splitOn_ofString_write {pairs : List (String × String)} (hne : pairs ≠ []) :
    splitOn 0x26 (Utf8.ofString (write pairs)) =
      pairs.map fun p => Utf8.ofString (writePair p) := by
  have hpair (p : String × String) : 0x26 ∉ Utf8.ofString (writePair p) := by
    rw [ofString_writePair, List.mem_append, List.mem_cons]
    rintro (h | h | h)
    · exact notMem_ofString_query (.inl rfl) (by decide) _ h
    · exact absurd h (by decide)
    · exact notMem_ofString_query (.inl rfl) (by decide) _ h
  induction pairs with
  | nil => exact absurd rfl hne
  | cons p pairs ih =>
      have hp := splitOn_of_notMem (hpair p)
      cases pairs with
      | nil => simpa [write, joined] using hp
      | cons q pairs =>
          have hbytes : Utf8.ofString (write (p :: q :: pairs)) =
              Utf8.ofString (writePair p) ++ 0x26 :: Utf8.ofString (write (q :: pairs)) := by
            have hmark : String.utf8EncodeChar '&' = [0x26] := by decide
            simp [write, joined, Utf8.ofString, Utf8.encode, hmark]
          rw [hbytes, splitOn_append_cons, hp, ih (List.cons_ne_nil q pairs)]
          rfl

/-- **A form is read back, pair by pair.** -/
theorem pairs_ofString_write (pairs : List (String × String)) :
    Form.pairs (Utf8.ofString (write pairs)) = pairs := by
  by_cases hne : pairs = []
  · subst hne
    decide
  · -- no piece is empty, as there is an equals sign in it
    have hfull : ∀ piece ∈ pairs.map (fun p => Utf8.ofString (writePair p)),
        (!piece.isEmpty) = true := by
      intro piece hpiece
      obtain ⟨p, -, rfl⟩ := List.mem_map.mp hpiece
      rw [ofString_writePair]
      simp
    have hread (p : String × String) : (pair ∘ fun p => Utf8.ofString (writePair p)) p = p := by
      rw [Function.comp_apply, pair_ofString_writePair]
    rw [Form.pairs, splitOn_ofString_write hne, List.filter_eq_self.mpr hfull, List.map_map,
      funext hread, List.map_id']

/-- The value of a name in a form is that of the first pair with the name. -/
theorem value?_ofString_write (pairs : List (String × String)) (name : String) :
    value? (Utf8.ofString (write pairs)) name = pairs.lookup name := by
  rw [value?, pairs_ofString_write]
  induction pairs with
  | nil => rfl
  | cons p pairs ih =>
      obtain ⟨key, value⟩ := p
      by_cases hname : key = name
      · subst hname
        simp
      · have hother : (name == key) = false := beq_false_of_ne (Ne.symm hname)
        rw [List.lookup_cons, hother, ← ih]
        simp [hname]

end LivePages.Text.Form
