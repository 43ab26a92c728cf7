import LivePages.Proofs.Json.Tokens

/-!
# Values Read Back

A typed reader takes every layout of a value of its type for what the value was written from. It may
have blanks before it and anything after it, unless that would go on with a number.

Lists and objects are read item by item. A reader of items is given one unit of fuel more than there
are bytes, and every item has a byte of its own.

## Main results

* `Takes`: a reader takes a value for something.
* `takes_textFor`, `takes_natural`, `takes_bool`, `takes_optional_none`, `takes_optional_some`:
  single values.
* `takes_listOf`, `takes_mapOf`: lists, and objects with any keys.
-/

namespace LivePages.Json

open Text.Utf8 (encode)

variable {α : Type}

/-- The reader takes all texts of a value for the same thing. -/
def Takes (reader : Reader α) (v : Value) (a : α) : Prop :=
  ∀ ⦃gap spelled : List Char⦄ ⦃r : List UInt8⦄, IsGap gap → IsSpelling v spelled →
    EndsNumber r → reader (encode gap ++ (encode spelled ++ r)) = .ok (a, r)

/-- A value with no blanks before it. -/
theorem Takes.bare {reader : Reader α} {v : Value} {a : α} (h : Takes reader v a)
    {spelled : List Char} (hspelled : IsSpelling v spelled) {r : List UInt8} (hr : EndsNumber r) :
    reader (encode spelled ++ r) = .ok (a, r) :=
  h isGap_nil hspelled hr

theorem skip_cons (b : UInt8) (s : List UInt8) : Reader.skip (b :: s) = .ok ((), s) :=
  rfl

/-! ### Single values -/

/-- A text is taken for itself. -/
theorem takes_textFor (expected s : String) : Takes (Reader.textFor expected) (.text s) s := by
  intro gap spelled r hgap h _
  cases h
  rw [encode_quoteText, List.cons_append, List.append_assoc, Reader.textFor,
    Reader.bind_of_ok (valueStart_cons hgap (by decide) _), if_pos rfl,
    Reader.bind_of_ok (skip_cons _ _)]
  exact text_quoted s r

theorem exists_digits (n : ℕ) :
    ∃ b s, encode (toString n).toList = b :: s ∧ isDigit b = true := by
  obtain ⟨c, ds, hds⟩ := List.exists_cons_of_ne_nil (Nat.toDigits_ne_nil (n := n) (b := 10))
  rw [encode_toString, hds]
  exact ⟨_, _, rfl, isDigit_digitByte (isDigit_of_mem_toDigits (hds ▸ List.mem_cons_self))⟩

theorem not_isBlank_of_isDigit {b : UInt8} (h : isDigit b = true) : Reader.isBlank b = false := by
  have hlow : 0x30 ≤ b.toNat := by
    simp [isDigit, UInt8.le_iff_toNat_le] at h
    exact h.1
  have hne (c : UInt8) (hc : c.toNat < 0x30) : b ≠ c := by
    rintro rfl
    omega
  simp [Reader.isBlank, hne]

/-- A number in range is taken for itself. -/
theorem takes_natural {n bound : ℕ} (expected : String) (hn : n < bound)
    (hbound : bound ≤ wordBound) : Takes (Reader.natural bound expected) (.natural n) n := by
  intro gap spelled r hgap h hr
  cases h
  have hread := number_digits (Nat.lt_of_lt_of_le hn hbound) hr
  obtain ⟨b, s, hbytes, hb⟩ := exists_digits n
  have hsign : b ≠ 0x2D := by
    rintro rfl
    cases hb
  show Reader.natural bound expected (encode gap ++ (encode (toString n).toList ++ r)) = _
  rw [hbytes, List.cons_append] at hread ⊢
  rw [Reader.natural, Reader.bind_of_ok (valueStart_cons hgap (not_isBlank_of_isDigit hb) _),
    if_neg hsign, if_pos hb, Reader.bind_of_ok hread, Reader.checkNatural, if_pos hn]
  rfl

/-- The rest of a word is gone past. -/
theorem word_encode {s : List Char} (hs : ∀ c ∈ s, c.toNat ≤ 0x7F) (r : List UInt8) :
    Reader.word s (encode s ++ r) = .ok ((), r) := by
  induction s with
  | nil => rfl
  | cons c s ih =>
      have hc := hs c List.mem_cons_self
      have hnext : Reader.next (UInt8.ofNat c.toNat :: (encode s ++ r)) =
          .ok (some (UInt8.ofNat c.toNat), encode s ++ r) := rfl
      rw [encode_cons, Text.Utf8.utf8EncodeChar_of_le hc, List.singleton_append, List.cons_append,
        Reader.word, Reader.bind_of_ok hnext]
      simp only [UInt8.toNat_ofNat_of_lt' (Nat.lt_of_le_of_lt hc (by decide)), if_true]
      exact ih fun d hd => hs d (List.mem_cons_of_mem c hd)

/-- A truth value is taken for itself. -/
theorem takes_bool (b : Bool) : Takes Reader.bool (.bool b) b := by
  intro gap spelled r hgap h _
  cases h with
  | true =>
      show Reader.bool (encode gap ++ 0x74 :: (encode "rue".toList ++ r)) = _
      rw [Reader.bool, Reader.bind_of_ok (valueStart_cons hgap (by decide) _), if_pos rfl,
        Reader.bind_of_ok (skip_cons _ _), Reader.bind_of_ok (word_encode (by simp) r)]
      rfl
  | false =>
      show Reader.bool (encode gap ++ 0x66 :: (encode "alse".toList ++ r)) = _
      rw [Reader.bool, Reader.bind_of_ok (valueStart_cons hgap (by decide) _),
        if_neg (by decide), if_pos rfl, Reader.bind_of_ok (skip_cons _ _),
        Reader.bind_of_ok (word_encode (by simp) r)]
      rfl

/-- The value begins with a byte that is neither blank nor the start of a null or the end of a
list. -/
def StartsPlain (v : Value) : Prop :=
  ∀ ⦃spelled : List Char⦄, IsSpelling v spelled → ∃ b s, encode spelled = b :: s ∧
    Reader.isBlank b = false ∧ b ≠ 0x6E ∧ b ≠ 0x5D

theorem startsPlain_text (s : String) : StartsPlain (.text s) := by
  intro spelled h
  cases h
  exact ⟨_, _, encode_quoteText s, by decide, by decide, by decide⟩

theorem startsPlain_natural (n : ℕ) : StartsPlain (.natural n) := by
  intro spelled h
  cases h
  obtain ⟨b, s, hbytes, hb⟩ := exists_digits n
  refine ⟨b, s, hbytes, not_isBlank_of_isDigit hb, ?_, ?_⟩
  all_goals
    rintro rfl
    cases hb

/-- Null is taken for nothing. -/
theorem takes_optional_none (reader : Reader α) : Takes (Reader.optional reader) .null none := by
  intro gap spelled r hgap h _
  cases h
  show Reader.optional reader (encode gap ++ 0x6E :: (encode "ull".toList ++ r)) = _
  rw [Reader.optional, Reader.bind_of_ok (peekToken_cons hgap (by decide) _), if_pos rfl,
    Reader.bind_of_ok (skip_cons _ _), Reader.bind_of_ok (word_encode (by simp) r)]
  rfl

/-- A value that is there is taken for what it is. -/
theorem takes_optional_some {reader : Reader α} {v : Value} {a : α} (h : Takes reader v a)
    (hv : StartsPlain v) : Takes (Reader.optional reader) v (some a) := by
  intro gap spelled r hgap hspelled hr
  have hread := h.bare hspelled hr
  obtain ⟨b, s, hbytes, hb, hnull, -⟩ := hv hspelled
  rw [hbytes, List.cons_append] at hread ⊢
  rw [Reader.optional, Reader.bind_of_ok (peekToken_cons hgap hb _),
    if_neg (mt Option.some.inj hnull)]
  exact Reader.map_of_ok some hread

/-! ### What comes between items -/

/-- The bytes of blanks with an ASCII character after them. -/
theorem encode_concat (gap : List Char) {c : Char} (hc : c.toNat ≤ 0x7F) (r : List UInt8) :
    encode (gap ++ [c]) ++ r = encode gap ++ UInt8.ofNat c.toNat :: r := by
  rw [encode_append, encode_cons, Text.Utf8.utf8EncodeChar_of_le hc, List.append_assoc]
  rfl

theorem endsNumber_cons {b : UInt8} (hb : isDigit b = false ∧ b ≠ 0x2E ∧ b ≠ 0x65 ∧ b ≠ 0x45)
    (s : List UInt8) : EndsNumber (b :: s) := by
  rintro c hc
  rwa [← Option.some.inj hc]

/-- Blanks do not go on with a number. -/
theorem endsNumber_gap {gap : List Char} (hgap : IsGap gap) {s : List UInt8} (hs : EndsNumber s) :
    EndsNumber (encode gap ++ s) := by
  cases gap with
  | nil => exact hs
  | cons c gap =>
      rw [encode_cons]
      rcases hgap c List.mem_cons_self with rfl | rfl | rfl | rfl <;>
        exact endsNumber_cons (by decide) _

theorem endsNumber_lead {lead : List Char} (hlead : IsLead false lead) (s : List UInt8) :
    EndsNumber (encode lead ++ s) := by
  cases hlead with
  | next hbefore hafter =>
      rw [encode_append, List.append_assoc]
      exact endsNumber_gap hbefore (endsNumber_cons (by decide) _)

theorem endsNumber_items {items : List Value} {rest : List Char}
    (h : ItemsSpelled false items rest) (r : List UInt8) : EndsNumber (encode rest ++ r) := by
  cases h with
  | nil hgap =>
      rw [encode_concat _ (by decide)]
      exact endsNumber_gap hgap (endsNumber_cons (by decide) _)
  | cons hlead =>
      rw [encode_append, encode_append, List.append_assoc, List.append_assoc]
      exact endsNumber_lead hlead _

theorem endsNumber_entries {entries : List (String × Value)} {rest : List Char}
    (h : EntriesSpelled false entries rest) (r : List UInt8) : EndsNumber (encode rest ++ r) := by
  cases h with
  | nil hgap =>
      rw [encode_concat _ (by decide)]
      exact endsNumber_gap hgap (endsNumber_cons (by decide) _)
  | cons hlead =>
      simp only [encode_append, List.append_assoc]
      exact endsNumber_lead hlead _

/-- Every character has a byte. -/
theorem length_le_length_encode (s : List Char) : s.length ≤ (encode s).length := by
  induction s with
  | nil => exact Nat.le_refl 0
  | cons c s ih =>
      have hpos := c.utf8Size_pos
      rw [encode_cons, List.length_append, List.length_cons, String.length_utf8EncodeChar]
      omega

/-- There is a comma or a bracket after every item. -/
theorem length_items_le {first : Bool} {items : List Value} {inside : List Char}
    (h : ItemsSpelled first items inside) :
    items.length + (if first then 0 else 1) ≤ inside.length := by
  induction items generalizing first inside with
  | nil =>
      cases h
      cases first <;> simp
  | cons v items ih =>
      cases h with
      | cons hlead _ hrest =>
          have hle := ih hrest
          cases hlead <;> simp at hle ⊢ <;> omega

theorem length_entries_le {first : Bool} {entries : List (String × Value)} {inside : List Char}
    (h : EntriesSpelled first entries inside) :
    entries.length + (if first then 0 else 1) ≤ inside.length := by
  induction entries generalizing first inside with
  | nil =>
      cases h
      cases first <;> simp
  | cons e entries ih =>
      cases h with
      | cons hlead _ _ _ hrest =>
          have hle := ih hrest
          cases hlead <;> simp at hle ⊢ <;> omega

/-- One unit of fuel more than there are bytes is enough for a list, -/
theorem length_items_lt {items : List Value} {inside : List Char}
    (h : ItemsSpelled true items inside) (r : List UInt8) :
    items.length < (encode inside ++ r).length + 1 := by
  have hchars := length_items_le h
  have hbytes := length_le_length_encode inside
  simp only [List.length_append, if_true] at hchars ⊢
  omega

/-- and for an object. -/
theorem length_entries_lt {entries : List (String × Value)} {inside : List Char}
    (h : EntriesSpelled true entries inside) (r : List UInt8) :
    entries.length < (encode inside ++ r).length + 1 := by
  have hchars := length_entries_le h
  have hbytes := length_le_length_encode inside
  simp only [List.length_append, if_true] at hchars ⊢
  omega

/-- A reader looks at the bytes that are left. -/
theorem remaining_eq (s : List UInt8) :
    (fun s => .ok (s, s) : Reader (List UInt8)) s = .ok (s, s) :=
  rfl

theorem listEnd_cons (r : List UInt8) : Reader.listEnd (0x5D :: r) = .ok ((), r) :=
  rfl

theorem objectEnd_cons (r : List UInt8) : Reader.objectEnd (0x7D :: r) = .ok ((), r) :=
  rfl

/-! ### Lists -/

/-- An item of a list comes next. -/
theorem nextElement_lead {first : Bool} {lead : List Char} (hlead : IsLead first lead) {b : UInt8}
    (hb : Reader.isBlank b = false) (hclose : b ≠ 0x5D) (s : List UInt8) :
    Reader.nextElement first (encode lead ++ b :: s) = .ok (true, b :: s) := by
  cases hlead with
  | first hgap =>
      rw [Reader.nextElement, Reader.bind_of_ok (peekToken_cons hgap hb s)]
      simp only [hclose, if_false]
      rfl
  | next hbefore hafter =>
      rw [encode_append, List.append_assoc]
      show Reader.nextElement false (encode _ ++ 0x2C :: (encode _ ++ b :: s)) = _
      rw [Reader.nextElement, Reader.bind_of_ok (peekToken_cons hbefore (by decide) _)]
      show (Reader.skip >>= fun _ => Reader.peekToken >>= _) _ = _
      rw [Reader.bind_of_ok (skip_cons _ _), Reader.bind_of_ok (peekToken_cons hafter hb s)]
      generalize hnext : some b = next
      split
      · exact absurd (Option.some.inj hnext) hclose
      · rfl
      · cases hnext

/-- The end of a list comes next. -/
theorem nextElement_close (first : Bool) {gap : List Char} (hgap : IsGap gap) (s : List UInt8) :
    Reader.nextElement first (encode gap ++ 0x5D :: s) = .ok (false, 0x5D :: s) := by
  rw [Reader.nextElement, Reader.bind_of_ok (peekToken_cons hgap (by decide) s)]
  rfl

/-- The items of a list are read one by one. -/
theorem elements_itemsSpelled {item : Reader α} {f : α → Value} {as : List α}
    (h : ∀ a ∈ as, Takes item (f a) a ∧ StartsPlain (f a)) {first : Bool} {inside : List Char}
    (hinside : ItemsSpelled first (as.map f) inside) {fuel : ℕ} (hfuel : as.length < fuel)
    (r : List UInt8) :
    Reader.elements item fuel first (encode inside ++ r) = .ok (as, 0x5D :: r) := by
  induction as generalizing first inside fuel with
  | nil =>
      obtain ⟨fuel, rfl⟩ := Nat.exists_eq_add_one_of_ne_zero (Nat.ne_zero_of_lt hfuel)
      cases hinside with
      | nil hgap =>
          rw [encode_concat _ (by decide), Reader.elements]
          exact Reader.bind_of_ok (nextElement_close first hgap r)
  | cons a as ih =>
      obtain ⟨fuel, rfl⟩ := Nat.exists_eq_add_one_of_ne_zero (Nat.ne_zero_of_lt hfuel)
      cases hinside with
      | cons hlead hspelled hrest =>
          obtain ⟨htakes, hplain⟩ := h a List.mem_cons_self
          have hread := htakes.bare hspelled (endsNumber_items hrest r)
          have hmore := ih (fun b hb => h b (List.mem_cons_of_mem a hb)) hrest
            (Nat.lt_of_succ_lt_succ hfuel)
          obtain ⟨b, s, hbytes, hb, -, hclose⟩ := hplain hspelled
          rw [encode_append, encode_append, List.append_assoc, List.append_assoc, hbytes,
            List.cons_append, Reader.elements,
            Reader.bind_of_ok (nextElement_lead hlead hb hclose _), if_pos rfl]
          rw [hbytes, List.cons_append] at hread
          rw [Reader.bind_of_ok hread]
          exact Reader.map_of_ok (a :: ·) hmore

/-- **A list is taken for the list of what its items are taken for.** -/
theorem takes_listOf {item : Reader α} {f : α → Value} {as : List α}
    (h : ∀ a ∈ as, Takes item (f a) a ∧ StartsPlain (f a)) :
    Takes (Reader.listOf item) (.list (as.map f)) as := by
  intro gap spelled r hgap hspelled _
  cases hspelled with
  | @list _ inside hinside =>
      have hfuel := length_items_lt hinside r
      rw [List.length_map] at hfuel
      have hread := elements_itemsSpelled h hinside hfuel r
      show Reader.listOf item (encode gap ++ 0x5B :: (encode inside ++ r)) = _
      rw [Reader.listOf, Reader.bind_of_ok (valueStart_cons hgap (by decide) _), if_pos rfl,
        Reader.bind_of_ok (skip_cons _ _), Reader.bind_of_ok (remaining_eq _),
        Reader.bind_of_ok hread, Reader.bind_of_ok (listEnd_cons r)]
      rfl

/-! ### Objects -/

/-- A key of an object comes next. -/
theorem nextKey_lead {first : Bool} {lead : List Char} (hlead : IsLead first lead) (key : String)
    (s : List UInt8) :
    Reader.nextKey first (encode lead ++ (encode (quoteText key).toList ++ s)) =
      .ok (some key, s) := by
  rw [encode_quoteText, List.cons_append, List.append_assoc]
  have htext := Reader.map_of_ok some (text_quoted key s)
  cases hlead with
  | first hgap =>
      rw [Reader.nextKey, Reader.bind_of_ok (peekToken_cons hgap (by decide) _)]
      exact htext
  | next hbefore hafter =>
      rw [encode_append, List.append_assoc]
      show Reader.nextKey false (encode _ ++ 0x2C :: (encode _ ++ 0x22 :: _)) = _
      rw [Reader.nextKey, Reader.bind_of_ok (peekToken_cons hbefore (by decide) _)]
      show (Reader.skip >>= fun _ => Reader.peekToken >>= _) _ = _
      rw [Reader.bind_of_ok (skip_cons _ _),
        Reader.bind_of_ok (peekToken_cons hafter (by decide) _)]
      exact htext

/-- The end of an object comes next. -/
theorem nextKey_close (first : Bool) {gap : List Char} (hgap : IsGap gap) (s : List UInt8) :
    Reader.nextKey first (encode gap ++ 0x7D :: s) = .ok (none, 0x7D :: s) := by
  rw [Reader.nextKey, Reader.bind_of_ok (peekToken_cons hgap (by decide) s)]
  rfl

theorem colon_gap {gap : List Char} (hgap : IsGap gap) (s : List UInt8) :
    Reader.colon (encode gap ++ 0x3A :: s) = .ok ((), s) := by
  rw [Reader.colon, Reader.bind_of_ok (peekToken_cons hgap (by decide) s)]
  rfl

/-- The bytes of an entry and what comes after it. -/
theorem encode_entry (lead before after spelled rest : List Char) (key : String)
    (r : List UInt8) :
    encode (lead ++ (quoteText key).toList ++ before ++ ':' :: (after ++ spelled ++ rest)) ++ r =
      encode lead ++ (encode (quoteText key).toList ++ (encode before ++
        0x3A :: (encode after ++ (encode spelled ++ (encode rest ++ r))))) := by
  have hcolon : String.utf8EncodeChar ':' = [0x3A] := by decide
  simp only [encode_append, encode_cons, hcolon, List.append_assoc, List.cons_append,
    List.nil_append]

/-- The entries of an object are read one by one. -/
theorem entries_entriesSpelled {reader : Reader α} {f : α → Value} {ps : List (String × α)}
    (h : ∀ p ∈ ps, Takes reader (f p.2) p.2) {first : Bool} {inside : List Char}
    (hinside : EntriesSpelled first (ps.map fun p => (p.1, f p.2)) inside) {fuel : ℕ}
    (hfuel : ps.length < fuel) (r : List UInt8) :
    Reader.entries reader fuel first (encode inside ++ r) = .ok (ps, 0x7D :: r) := by
  induction ps generalizing first inside fuel with
  | nil =>
      obtain ⟨fuel, rfl⟩ := Nat.exists_eq_add_one_of_ne_zero (Nat.ne_zero_of_lt hfuel)
      cases hinside with
      | nil hgap =>
          rw [encode_concat _ (by decide), Reader.entries]
          exact Reader.bind_of_ok (nextKey_close first hgap r)
  | cons p ps ih =>
      obtain ⟨fuel, rfl⟩ := Nat.exists_eq_add_one_of_ne_zero (Nat.ne_zero_of_lt hfuel)
      cases hinside with
      | cons hlead hbefore hafter hspelled hrest =>
          have hread := h p List.mem_cons_self hafter hspelled (endsNumber_entries hrest r)
          have hmore := ih (fun q hq => h q (List.mem_cons_of_mem p hq)) hrest
            (Nat.lt_of_succ_lt_succ hfuel)
          rw [encode_entry, Reader.entries, Reader.bind_of_ok (nextKey_lead hlead p.1 _)]
          show (Reader.colon >>= fun _ => reader >>= _) _ = _
          rw [Reader.bind_of_ok (colon_gap hbefore _), Reader.bind_of_ok hread]
          exact Reader.map_of_ok ((p.1, p.2) :: ·) hmore

/-- **An object is taken for its entries in order.** -/
theorem takes_mapOf {reader : Reader α} {f : α → Value} {ps : List (String × α)}
    (h : ∀ p ∈ ps, Takes reader (f p.2) p.2) :
    Takes (Reader.mapOf reader) (.object (ps.map fun p => (p.1, f p.2))) ps := by
  intro gap spelled r hgap hspelled _
  cases hspelled with
  | @object _ inside hinside =>
      have hfuel := length_entries_lt hinside r
      rw [List.length_map] at hfuel
      have hread := entries_entriesSpelled h hinside hfuel r
      show Reader.mapOf reader (encode gap ++ 0x7B :: (encode inside ++ r)) = _
      rw [Reader.mapOf, Reader.bind_of_ok (valueStart_cons hgap (by decide) _), if_pos rfl,
        Reader.bind_of_ok (skip_cons _ _), Reader.bind_of_ok (remaining_eq _),
        Reader.bind_of_ok hread, Reader.bind_of_ok (objectEnd_cons r)]
      rfl

end LivePages.Json
