import Mathlib.Data.Set.Monotone
import Mathlib.Order.Interval.Set.Defs
import LivePages.Proofs.Escape.Html

/-!
# Spaces That Stay Visible

A plain space of element content does not show at the beginning of the text, after the break of a
line, or after a character that is no higher than a space. A fixed space is written there, and a
plain one everywhere else.

Which of the two it is depends on one character, the last one that was written. It often belongs to
no character of the text, but ends a reference. So the invariant is about what has been written:
`htmlFrom_append` says that the character kept in mind is the last one of it, whatever was escaped
before, and that writing can go on from there. Every place of written text is then reached by
writing a beginning of the text.

## Main results

* `htmlFrom_append`: writing can be cut in two anywhere.
* `beginsWithSpace_drop_htmlFrom`: the places of the spaces that are shown.
* `swallowsSpace_iff`: what the character kept in mind says about all that was written.
* `html_spaces_shown`: every space of a text is shown, in its place, and plainly if that is enough.
-/

namespace LivePages.Escape

/-! ### Writing cut in two -/

theorem htmlFrom_cons (last c : Char) (s : List Char) :
    htmlFrom last (c :: s) =
      htmlPiece last c ++ htmlFrom ((htmlPiece last c).getLastD last) s :=
  rfl

/-- **Writing can be cut in two anywhere**: all that is kept in mind is the last character that was
written. -/
theorem htmlFrom_append (last : Char) (s t : List Char) :
    htmlFrom last (s ++ t) =
      htmlFrom last s ++ htmlFrom ((htmlFrom last s).getLastD last) t := by
  induction s generalizing last with
  | nil => rfl
  | cons c s ih =>
      have hlast : (htmlFrom last (c :: s)).getLastD last =
          (htmlFrom ((htmlPiece last c).getLastD last) s).getLastD
            ((htmlPiece last c).getLastD last) := by
        simp only [htmlFrom_cons, List.getLastD_eq_getLast?, List.getLast?_append, Option.getD_or]
      rw [hlast, List.cons_append, htmlFrom_cons, htmlFrom_cons, ih, List.append_assoc]

/-- Something is written for every character. -/
theorem htmlFrom_ne_nil (last : Char) {s : List Char} (h : s ≠ []) : htmlFrom last s ≠ [] := by
  obtain ⟨c, t, rfl⟩ := List.exists_cons_of_ne_nil h
  obtain ⟨p, hp, -, -⟩ := exists_htmlPiece last c
  rw [htmlFrom_cons, hp]
  exact List.append_ne_nil_of_left_ne_nil p.spelling_ne_nil _

/-! ### Places of spaces -/

/-- The text begins with a space that is shown, a plain one or a fixed one. -/
def BeginsWithSpace (s : List Char) : Prop :=
  " ".toList <+: s ∨ "&nbsp;".toList <+: s

instance (s : List Char) : Decidable (BeginsWithSpace s) :=
  inferInstanceAs (Decidable (_ ∨ _))

section

variable {p : Piece} {s : List Char}

theorem BeginsWithSpace.head? (h : BeginsWithSpace s) :
    s.head? = some ' ' ∨ s.head? = some '&' := by
  rcases h with ⟨rest, rfl⟩ | ⟨rest, rfl⟩
  · exact .inl rfl
  · exact .inr rfl

/-- A piece begins with a space if it is read as one, whatever follows it. -/
theorem beginsWithSpace_spelling_append (h : p.IsNeat) (s : List Char) :
    BeginsWithSpace (p.spelling ++ s) ↔ p.meaning = ' ' := by
  cases p with
  | plain c =>
      constructor
      · intro hs
        rcases hs.head? with hc | hc
        · exact Option.some.inj hc
        · exact absurd (Option.some.inj hc) fun hc => h (by simp [hc])
      · rintro rfl
        exact .inl (List.prefix_append _ s)
  | reference r =>
      have hmeaning : r.meaning = ' ' ↔ r = .space := by cases r <;> decide
      rw [Piece.meaning, hmeaning]
      constructor
      · rintro (⟨rest, hrest⟩ | ⟨rest, hrest⟩)
        · have hhead : ((Piece.reference r).spelling ++ s).head? = some ' ' := by
            rw [← hrest]
            rfl
          rw [List.head?_append_of_ne_nil _ (Piece.reference r).spelling_ne_nil] at hhead
          exact absurd (List.mem_of_mem_head? hhead) (by cases r <;> decide)
        · -- Two references that begin the same text are the same one.
          have hfound : referenceAt? ("&nbsp;".toList ++ rest) = some r :=
            hrest ▸ referenceAt?_append r s
          exact Option.some.inj (hfound.symm.trans (referenceAt?_append .space rest))
      · rintro rfl
        exact .inr (List.prefix_append _ s)

/-- Within a piece there is no character that a space begins with. -/
theorem notMem_tail_spelling (p : Piece) : ' ' ∉ p.spelling.tail ∧ '&' ∉ p.spelling.tail := by
  cases p with
  | plain c => exact ⟨List.not_mem_nil, List.not_mem_nil⟩
  | reference r => cases r <;> decide

/-- There is no space at the places of such characters. -/
theorem beginsWithSpace_drop_append {x : List Char} (hspace : ' ' ∉ x) (hampersand : '&' ∉ x)
    (s : List Char) (j : ℕ) :
    BeginsWithSpace ((x ++ s).drop j) ↔ ∃ k, BeginsWithSpace (s.drop k) ∧ x.length + k = j := by
  induction x generalizing j with
  | nil => simp
  | cons c x ih =>
      rw [List.mem_cons, not_or] at hspace hampersand
      cases j with
      | zero =>
          have hnot : ¬BeginsWithSpace (c :: (x ++ s)) := by
            intro h
            rcases h.head? with hc | hc
            · exact hspace.1 (Option.some.inj hc).symm
            · exact hampersand.1 (Option.some.inj hc).symm
          exact iff_of_false hnot fun ⟨k, _, hk⟩ => by simp at hk
      | succ j =>
          rw [List.cons_append, List.drop_succ_cons, ih hspace.2 hampersand.2]
          refine exists_congr fun k => and_congr_right fun _ => ?_
          rw [List.length_cons]
          omega

/-- The spaces of a piece with anything after it: its own one, and those that follow. -/
theorem beginsWithSpace_drop_spelling (h : p.IsNeat) (s : List Char) (j : ℕ) :
    BeginsWithSpace ((p.spelling ++ s).drop j) ↔
      p.meaning = ' ' ∧ 0 = j ∨
        ∃ k, BeginsWithSpace (s.drop k) ∧ p.spelling.length + k = j := by
  cases j with
  | zero =>
      have hlength : p.spelling.length ≠ 0 := mt List.length_eq_zero_iff.mp p.spelling_ne_nil
      rw [List.drop_zero, beginsWithSpace_spelling_append h]
      refine ⟨fun hmeaning => .inl ⟨hmeaning, rfl⟩, ?_⟩
      rintro (⟨hmeaning, -⟩ | ⟨k, -, hk⟩)
      · exact hmeaning
      · omega
  | succ j =>
      obtain ⟨hspace, hampersand⟩ := notMem_tail_spelling p
      obtain ⟨c, x, hx⟩ := List.exists_cons_of_ne_nil p.spelling_ne_nil
      rw [hx, List.tail_cons] at hspace hampersand
      rw [hx, List.cons_append, List.drop_succ_cons,
        beginsWithSpace_drop_append hspace hampersand]
      simp only [Nat.zero_ne_add_one, and_false, false_or, List.length_cons]
      refine exists_congr fun k => and_congr_right fun _ => ?_
      omega

/-- **The spaces that are shown are those of the text**: each of them stands behind all that is
written for the characters before it. -/
theorem beginsWithSpace_drop_htmlFrom (last : Char) (s : List Char) (j : ℕ) :
    BeginsWithSpace ((htmlFrom last s).drop j) ↔
      ∃ i, s[i]? = some ' ' ∧ (htmlFrom last (s.take i)).length = j := by
  induction s generalizing last j with
  | nil => simp [htmlFrom, BeginsWithSpace]
  | cons c s ih =>
      obtain ⟨p, hp, hmeaning, hneat⟩ := exists_htmlPiece last c
      have hlater (i : ℕ) : (htmlFrom last ((c :: s).take (i + 1))).length =
          (htmlPiece last c).length +
            (htmlFrom ((htmlPiece last c).getLastD last) (s.take i)).length := by
        rw [List.take_succ_cons, htmlFrom_cons, List.length_append]
      rw [htmlFrom_cons, hp, beginsWithSpace_drop_spelling hneat, hmeaning, ← hp]
      simp only [ih]
      constructor
      · rintro (⟨rfl, hj⟩ | ⟨_, ⟨i, hi, rfl⟩, hj⟩)
        · exact ⟨0, rfl, hj⟩
        · exact ⟨i + 1, hi, (hlater i).trans hj⟩
      · rintro ⟨i, hi, hj⟩
        cases i with
        | zero => exact .inl ⟨Option.some.inj hi, hj⟩
        | succ i => exact .inr ⟨_, ⟨i, hi, rfl⟩, (hlater i).symm.trans hj⟩

end

/-! ### Plain spaces and fixed ones -/

/-- After this text a plain space would not show: it would be the first character, or follow the
break of a line, or follow a character that is no higher than a space. -/
def HidesSpace (s : List Char) : Prop :=
  s = [] ∨ "<br/>".toList <:+ s ∨ ∃ c ∈ s.getLast?, c ≤ ' '

section

variable {last : Char} {s before after : List Char}

/-- A space after all that was written. -/
theorem htmlPiece_space (last : Char) :
    htmlPiece last ' ' = if swallowsSpace last then "&nbsp;".toList else " ".toList := by
  have hnone : entity? ' ' = none := by decide
  rw [htmlPiece, hnone]
  cases swallowsSpace last <;> rfl

/-- If written text ends with an angle bracket, it ends with the break of a line. -/
theorem lineBreak_suffix_htmlFrom (h : (htmlFrom last s).getLast? = some '>') :
    "<br/>".toList <:+ htmlFrom last s := by
  rcases List.eq_nil_or_concat s with rfl | ⟨b, c, rfl⟩
  · cases h
  · obtain ⟨p, hp, -, hneat⟩ := exists_htmlPiece ((htmlFrom last b).getLastD last) c
    have hwritten : htmlFrom last (b ++ [c]) = htmlFrom last b ++ p.spelling := by
      rw [htmlFrom_append, htmlFrom_cons, hp, htmlFrom, List.append_nil]
    rw [List.concat_eq_append, hwritten] at h ⊢
    rw [List.getLast?_append_of_ne_nil _ p.spelling_ne_nil] at h
    obtain rfl := eq_lineBreak_of_mem hneat (.inr (List.mem_of_getLast? h))
    exact List.suffix_append _ _

/-- **What is kept in mind tells whether a space would show.** -/
theorem swallowsSpace_iff (s : List Char) :
    swallowsSpace ((htmlFrom '\x00' s).getLastD '\x00') = true ↔
      HidesSpace (htmlFrom '\x00' s) := by
  rw [List.getLastD_eq_getLast?]
  cases hlast : (htmlFrom '\x00' s).getLast? with
  | none =>
      have hnil := List.getLast?_eq_none_iff.mp hlast
      exact iff_of_true (by decide) (.inl hnil)
  | some d =>
      rw [Option.getD_some, swallowsSpace, Bool.or_eq_true, decide_eq_true_iff, decide_eq_true_iff]
      constructor
      · rintro (hd | rfl)
        · exact .inr (.inr ⟨d, hlast, hd⟩)
        · exact .inr (.inl (lineBreak_suffix_htmlFrom hlast))
      · rintro (hnil | ⟨start, hstart⟩ | ⟨c, hc, hle⟩)
        · rw [hnil] at hlast
          cases hlast
        · rw [← hstart, List.getLast?_append_of_ne_nil _ (by decide)] at hlast
          exact .inr (Option.some.inj hlast).symm
        · rw [Option.mem_def.mp hc] at hlast
          exact .inl (Option.some.inj hlast ▸ hle)

/-- Where a space is shown, it was written after a beginning of the text. -/
theorem exists_of_beginsWithSpace (h : htmlFrom last s = before ++ after)
    (hspace : BeginsWithSpace after) :
    ∃ b rest, before = htmlFrom last b ∧
      after = htmlPiece ((htmlFrom last b).getLastD last) ' ' ++ rest := by
  obtain ⟨i, hi, hlength⟩ := (beginsWithSpace_drop_htmlFrom last s before.length).mp (by
    rwa [h, List.drop_left])
  -- The text is cut at this place, and the character kept in mind there is the last one before it.
  obtain ⟨hlt, hchar⟩ := List.getElem?_eq_some_iff.mp hi
  have hsplit : s = s.take i ++ ' ' :: s.drop (i + 1) := by
    rw [← hchar, ← List.drop_eq_getElem_cons, List.take_append_drop]
  rw [hsplit, htmlFrom_append, htmlFrom_cons] at h
  obtain ⟨hbefore, hafter⟩ := List.append_inj h hlength
  exact ⟨s.take i, _, hbefore.symm, hafter.symm⟩

/-- A plain space stands only where it shows. -/
theorem not_hidesSpace_of_plain (h : htmlFrom '\x00' s = before ++ ' ' :: after) :
    ¬HidesSpace before := by
  have hspace : BeginsWithSpace (' ' :: after) := .inl (List.prefix_append [' '] after)
  obtain ⟨b, rest, rfl, hrest⟩ := exists_of_beginsWithSpace h hspace
  rw [← swallowsSpace_iff]
  intro hswallows
  rw [htmlPiece_space, if_pos hswallows] at hrest
  cases hrest

/-- A fixed space stands only where a plain one would not show. -/
theorem hidesSpace_of_fixed (h : htmlFrom '\x00' s = before ++ "&nbsp;".toList ++ after) :
    HidesSpace before := by
  rw [List.append_assoc] at h
  have hspace : BeginsWithSpace ("&nbsp;".toList ++ after) := .inr (List.prefix_append _ after)
  obtain ⟨b, rest, rfl, hrest⟩ := exists_of_beginsWithSpace h hspace
  rw [← swallowsSpace_iff]
  by_contra hswallows
  rw [htmlPiece_space, if_neg hswallows] at hrest
  cases hrest

end

/-! ### Escaped text -/

/-- Where a character of the text is written: behind all that is written for those before it. -/
def place (text : String) (i : ℕ) : ℕ :=
  (html (String.ofList (text.toList.take i))).length

theorem place_eq (text : String) (i : ℕ) :
    place text i = (htmlFrom '\x00' (text.toList.take i)).length := by
  rw [place, html, String.length_ofList, String.toList_ofList]

/-- Characters are written in their order. -/
theorem strictMonoOn_place (text : String) : StrictMonoOn (place text) (Set.Iic text.length) := by
  intro i _ j hj hij
  obtain ⟨rest, hrest⟩ : text.toList.take i <+: text.toList.take j :=
    List.take_prefix_take_left (Nat.le_of_lt hij)
  have hne : rest ≠ [] := by
    rintro rfl
    have hlength := congrArg List.length hrest
    rw [List.append_nil, List.length_take, List.length_take, String.length_toList] at hlength
    rw [Set.mem_Iic] at hj
    omega
  rw [place_eq, place_eq, ← hrest, htmlFrom_append, List.length_append]
  exact Nat.lt_add_of_pos_right (List.length_pos_iff.mpr (htmlFrom_ne_nil _ hne))

/-- **Runs of spaces stay visible.** A plain space is never the first character of element content,
nor does it follow the break of a line, another plain space, or any other character that is no
higher than a space. A fixed space is written only where this would be so. The plain spaces and the
fixed ones together are the spaces of the text, one for one and in their order: each of them begins
in the place of its own. -/
theorem html_spaces_shown (text : String) :
    (∀ before after, (html text).toList = before ++ ' ' :: after → ¬HidesSpace before) ∧
    (∀ before after, (html text).toList = before ++ "&nbsp;".toList ++ after →
      HidesSpace before) ∧
    Set.BijOn (place text) {i | text.toList[i]? = some ' '}
      {j | BeginsWithSpace ((html text).toList.drop j)} ∧
    StrictMonoOn (place text) (Set.Iic text.length) := by
  have hplaces (j : ℕ) : BeginsWithSpace ((html text).toList.drop j) ↔
      ∃ i, text.toList[i]? = some ' ' ∧ place text i = j := by
    simp only [place_eq]
    rw [html, String.toList_ofList]
    exact beginsWithSpace_drop_htmlFrom '\x00' text.toList j
  have hwithin : {i | text.toList[i]? = some ' '} ⊆ Set.Iic text.length := by
    intro i hi
    obtain ⟨hlt, -⟩ := List.getElem?_eq_some_iff.mp hi
    rw [String.length_toList] at hlt
    exact hlt.le
  have hordered := strictMonoOn_place text
  refine ⟨fun before after h => ?_, fun before after h => ?_, ⟨?_, ?_, ?_⟩, hordered⟩
  · rw [html, String.toList_ofList] at h
    exact not_hidesSpace_of_plain h
  · rw [html, String.toList_ofList] at h
    exact hidesSpace_of_fixed h
  · exact fun i hi => (hplaces _).mpr ⟨i, hi, rfl⟩
  · exact (hordered.mono hwithin).injOn
  · exact fun j hj => (hplaces j).mp hj

/-- Blanks of all kinds, and a space after the end of an entity. -/
example : html "  a  \t > \n b" = "&nbsp; a &nbsp;\t&nbsp;&gt; <br/>&nbsp;b" := by
  decide +kernel

/-- The reference that is written out in this text is no space of it, and is not shown as one. -/
example : html "a  &nbsp;" = "a &nbsp;&amp;nbsp;" ∧
    (List.range 17).filter (fun j => BeginsWithSpace ((html "a  &nbsp;").toList.drop j)) =
      [1, 2] := by
  decide +kernel

end LivePages.Escape
