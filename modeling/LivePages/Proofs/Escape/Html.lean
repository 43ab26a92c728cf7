import Mathlib.Data.List.Basic
import LivePages.Escape.Html

/-!
# Escaped Text Read Back

Escaped text is read from left to right: wherever one of seven references begins, it is read as the
character that it stands for, and any other character is read as itself. No reference is the
beginning of another one, and each of them begins with an ampersand or a less-than sign. If these
two characters are never written plainly, the references that were written are those that are found.

Element content writes a space in two ways, depending on the character before it. Both are read as a
space, so the reading does not depend on what the writing keeps in mind.

## Main results

* `pieces_append`: a piece that was written is found, whatever follows it.
* `pieces_htmlFrom`, `pieces_flatMap_quotedPiece`: escaped text in pieces.
* `html_value_read`: escaped text is read back, and nothing in it has a meaning in markup but the
  references.
-/

namespace LivePages.Escape

/-! ### References -/

/-- What stands for a character in escaped text. -/
inductive Reference where
  | quote
  | apostrophe
  | ampersand
  | less
  | greater
  | space
  | lineBreak
  deriving DecidableEq, Repr

namespace Reference

/-- All of them. -/
def all : List Reference :=
  [quote, apostrophe, ampersand, less, greater, space, lineBreak]

/-- How a reference is written. -/
def spelling : Reference → List Char
  | quote => "&#34;".toList
  | apostrophe => "&#39;".toList
  | ampersand => "&amp;".toList
  | less => "&lt;".toList
  | greater => "&gt;".toList
  | space => "&nbsp;".toList
  | lineBreak => "<br/>".toList

/-- The character that a reference stands for. -/
def meaning : Reference → Char
  | quote => '"'
  | apostrophe => '\''
  | ampersand => '&'
  | less => '<'
  | greater => '>'
  | space => ' '
  | lineBreak => '\n'

end Reference

/-- The reference that a text begins with. -/
def referenceAt? (s : List Char) : Option Reference :=
  Reference.all.find? fun r => r.spelling.isPrefixOf s

/-! ### Pieces -/

/-- A piece of escaped text. -/
inductive Piece where
  | plain (c : Char)
  | reference (r : Reference)
  deriving DecidableEq, Repr

namespace Piece

/-- How a piece is written. -/
def spelling : Piece → List Char
  | plain c => [c]
  | reference r => r.spelling

/-- The character that a piece is read as. -/
def meaning : Piece → Char
  | plain c => c
  | reference r => r.meaning

/-- No character with a meaning in markup is written plainly. -/
def IsNeat : Piece → Prop
  | plain c => c ∉ ['"', '\'', '&', '<', '>']
  | reference _ => True

end Piece

/-- The pieces of a text after as many characters as belong to the reference before them. -/
def piecesFrom : ℕ → List Char → List Piece
  | _, [] => []
  | skip + 1, _ :: s => piecesFrom skip s
  | 0, c :: s =>
    match referenceAt? (c :: s) with
    | some r => .reference r :: piecesFrom (r.spelling.length - 1) s
    | none => .plain c :: piecesFrom 0 s

/-- The pieces of a text, from left to right. -/
def pieces (s : List Char) : List Piece :=
  piecesFrom 0 s

/-! ### Pieces that are found -/

section

variable {p : Piece} {c : Char} {s : List Char}

/-- A reference is found, whatever follows it. -/
theorem referenceAt?_append (r : Reference) (s : List Char) :
    referenceAt? (r.spelling ++ s) = some r := by
  cases r <;> rfl

/-- What is found stands there. -/
theorem spelling_prefix_of_referenceAt? {r : Reference} (h : referenceAt? s = some r) :
    r.spelling <+: s := by
  have hprefix : r.spelling.isPrefixOf s = true :=
    List.find?_some (p := fun r : Reference => r.spelling.isPrefixOf s) h
  exact List.isPrefixOf_iff_prefix.mp hprefix

/-- No reference begins with another character than these two. -/
theorem referenceAt?_cons_eq_none (hampersand : c ≠ '&') (hless : c ≠ '<') (s : List Char) :
    referenceAt? (c :: s) = none := by
  refine List.find?_eq_none.mpr fun r _ hprefix => ?_
  have hhead : r.spelling.head? = some '&' ∨ r.spelling.head? = some '<' := by
    cases r <;> decide
  obtain ⟨rest, hrest⟩ := List.isPrefixOf_iff_prefix.mp hprefix
  rcases hhead with hhead | hhead
  all_goals
    obtain ⟨more, hmore⟩ := List.head?_eq_some_iff.mp hhead
    rw [hmore] at hrest
    obtain ⟨rfl, -⟩ := List.cons.inj hrest
    contradiction

/-- A piece is written with one character at least. -/
theorem Piece.spelling_ne_nil (p : Piece) : p.spelling ≠ [] := by
  cases p with
  | plain c => exact List.cons_ne_nil c []
  | reference r => cases r <;> decide

/-- The characters of a reference belong to it. -/
theorem piecesFrom_length (s t : List Char) : piecesFrom s.length (s ++ t) = pieces t := by
  induction s with
  | nil => rfl
  | cons c s ih => exact ih

/-- **A piece that was written is found**, whatever follows it. -/
theorem pieces_append (h : p.IsNeat) (s : List Char) :
    pieces (p.spelling ++ s) = p :: pieces s := by
  cases p with
  | plain c =>
      have hnone : referenceAt? (c :: s) = none :=
        referenceAt?_cons_eq_none (fun hc => h (by simp [hc])) (fun hc => h (by simp [hc])) s
      rw [Piece.spelling, List.singleton_append, pieces, piecesFrom, hnone]
      rfl
  | reference r =>
      have hfound := referenceAt?_append r s
      obtain ⟨c, more, hmore⟩ : ∃ c more, r.spelling = c :: more :=
        List.exists_cons_of_ne_nil (Piece.reference r).spelling_ne_nil
      have hrest : piecesFrom (r.spelling.length - 1) (more ++ s) = pieces s := by
        rw [hmore]
        exact piecesFrom_length more s
      rw [hmore, List.cons_append] at hfound
      rw [Piece.spelling, hmore, List.cons_append, pieces, piecesFrom, hfound]
      exact congrArg (Piece.reference r :: ·) hrest

/-- Nothing is lost: the pieces of a text, written one after the other, are the text. -/
theorem spelling_piecesFrom (skip : ℕ) (s : List Char) :
    (piecesFrom skip s).flatMap Piece.spelling = s.drop skip := by
  induction s generalizing skip with
  | nil => simp [piecesFrom]
  | cons c s ih =>
      cases skip with
      | succ skip => exact ih skip
      | zero =>
          rw [piecesFrom]
          split
          · next r hr =>
            have hlength : r.spelling.length = r.spelling.length - 1 + 1 := by
              cases r <;> decide
            have hrest : (c :: s).drop r.spelling.length = s.drop (r.spelling.length - 1) := by
              rw [hlength]
              rfl
            rw [List.flatMap_cons, ih, ← hrest]
            exact List.prefix_iff_eq_append.mp (spelling_prefix_of_referenceAt? hr)
          · rw [List.flatMap_cons, ih]
            rfl

theorem spelling_pieces (s : List Char) : (pieces s).flatMap Piece.spelling = s :=
  spelling_piecesFrom 0 s

/-- Of all pieces only the break of a line is written with angle brackets. -/
theorem eq_lineBreak_of_mem (h : p.IsNeat) (hmem : '<' ∈ p.spelling ∨ '>' ∈ p.spelling) :
    p = .reference .lineBreak := by
  cases p with
  | plain c =>
      have hc : c = '<' ∨ c = '>' :=
        hmem.imp (fun h => (List.mem_singleton.mp h).symm) fun h => (List.mem_singleton.mp h).symm
      exact absurd h (by rcases hc with rfl | rfl <;> simp [Piece.IsNeat])
  | reference r =>
      have hother : r ≠ .lineBreak → '<' ∉ r.spelling ∧ '>' ∉ r.spelling := by
        cases r <;> decide
      by_contra hne
      obtain ⟨hless, hgreater⟩ := hother fun heq => hne (congrArg Piece.reference heq)
      exact hmem.elim hless hgreater

end

/-! ### What is written for a character -/

/-- A character with an entity is written as a reference to it. -/
theorem exists_reference {c : Char} {entity : String} (h : entity? c = some entity) :
    ∃ r : Reference, entity.toList = r.spelling ∧ r.meaning = c ∧ r ≠ .lineBreak := by
  unfold entity? at h
  split_ifs at h with hquote hapostrophe hampersand hless hgreater
  all_goals
    obtain rfl := Option.some.inj h
    subst c
  · exact ⟨.quote, rfl, rfl, nofun⟩
  · exact ⟨.apostrophe, rfl, rfl, nofun⟩
  · exact ⟨.ampersand, rfl, rfl, nofun⟩
  · exact ⟨.less, rfl, rfl, nofun⟩
  · exact ⟨.greater, rfl, rfl, nofun⟩

/-- Any other character may be written plainly. -/
theorem isNeat_plain {c : Char} (h : entity? c = none) : (Piece.plain c).IsNeat := by
  unfold entity? at h
  split_ifs at h with hquote hapostrophe hampersand hless hgreater
  simp [Piece.IsNeat, hquote, hapostrophe, hampersand, hless, hgreater]

/-- Element content has a neat piece for a character, whatever was written before it. -/
theorem exists_htmlPiece (last c : Char) :
    ∃ p : Piece, htmlPiece last c = p.spelling ∧ p.meaning = c ∧ p.IsNeat := by
  rw [htmlPiece]
  split
  · next entity hentity =>
    obtain ⟨r, hr, hmeaning, -⟩ := exists_reference hentity
    exact ⟨.reference r, hr, hmeaning, trivial⟩
  · next hnone =>
    split_ifs with hbreak hspace
    · exact ⟨.reference .lineBreak, rfl, hbreak.symm, trivial⟩
    · have hc : c = ' ' := by simp_all
      exact ⟨.reference .space, rfl, hc.symm, trivial⟩
    · exact ⟨.plain c, rfl, rfl, isNeat_plain hnone⟩

/-- The character that an attribute value has for a character. -/
def shown (c : Char) : Char :=
  if c = '\x00' then '\uFFFD' else c

/-- An attribute value has a neat piece for a character, and no break of a line. -/
theorem exists_quotedPiece (c : Char) :
    ∃ p : Piece, quotedPiece c = p.spelling ∧ p.meaning = shown c ∧ p.IsNeat ∧
      p ≠ .reference .lineBreak := by
  rw [quotedPiece]
  split
  · next entity hentity =>
    obtain ⟨r, hr, hmeaning, hne⟩ := exists_reference hentity
    have hshown : shown c = c := by
      refine if_neg ?_
      rintro rfl
      simp [entity?] at hentity
    refine ⟨.reference r, hr, hmeaning.trans hshown.symm, trivial, ?_⟩
    exact fun hpiece => hne (Piece.reference.inj hpiece)
  · next hnone =>
    split_ifs with hzero
    · exact ⟨.plain '\uFFFD', rfl, (if_pos hzero).symm, by simp [Piece.IsNeat], nofun⟩
    · exact ⟨.plain c, rfl, (if_neg hzero).symm, isNeat_plain hnone, nofun⟩

/-! ### Escaped text -/

/-- **Element content is read back**, in neat pieces. Nothing need be known of what was written
before it. -/
theorem pieces_htmlFrom (last : Char) (s : List Char) :
    (pieces (htmlFrom last s)).map Piece.meaning = s ∧
      ∀ p ∈ pieces (htmlFrom last s), p.IsNeat := by
  induction s generalizing last with
  | nil => exact ⟨rfl, List.forall_mem_nil _⟩
  | cons c s ih =>
      obtain ⟨p, hp, hmeaning, hneat⟩ := exists_htmlPiece last c
      obtain ⟨hmeanings, hneats⟩ := ih ((htmlPiece last c).getLastD last)
      have hpieces : pieces (htmlFrom last (c :: s)) =
          p :: pieces (htmlFrom ((htmlPiece last c).getLastD last) s) := by
        rw [← pieces_append hneat, ← hp]
        rfl
      rw [hpieces]
      exact ⟨by rw [List.map_cons, hmeaning, hmeanings], List.forall_mem_cons.mpr ⟨hneat, hneats⟩⟩

/-- **An attribute value is read back**, in neat pieces without a break of a line. -/
theorem pieces_flatMap_quotedPiece (s : List Char) :
    (pieces (s.flatMap quotedPiece)).map Piece.meaning = s.map shown ∧
      ∀ p ∈ pieces (s.flatMap quotedPiece), p.IsNeat ∧ p ≠ .reference .lineBreak := by
  induction s with
  | nil => exact ⟨rfl, List.forall_mem_nil _⟩
  | cons c s ih =>
      obtain ⟨p, hp, hmeaning, hneat, hne⟩ := exists_quotedPiece c
      obtain ⟨hmeanings, hneats⟩ := ih
      rw [List.flatMap_cons, hp, pieces_append hneat]
      exact ⟨by rw [List.map_cons, hmeaning, hmeanings, List.map_cons],
        List.forall_mem_cons.mpr ⟨⟨hneat, hne⟩, hneats⟩⟩

/-- **Escaped text is read back, and it is safe.** Read from left to right, with the references
replaced by the characters that they stand for, element content is the text, and an attribute value
is the text with the replacement character in the place of zero. In neither of them is there a quote
or an ampersand but in references. There is no angle bracket in an attribute value, and in element
content there is none but in breaks of lines. -/
theorem html_value_read (text : String) :
    (pieces (html text).toList).map Piece.meaning = text.toList ∧
    (pieces (value text).toList).map Piece.meaning = text.toList.map shown ∧
    (∀ c, .plain c ∈ pieces (html text).toList ++ pieces (value text).toList →
      c ∉ ['"', '\'', '&']) ∧
    '<' ∉ (value text).toList ∧ '>' ∉ (value text).toList ∧
    ∀ p ∈ pieces (html text).toList, '<' ∈ p.spelling ∨ '>' ∈ p.spelling →
      p = .reference .lineBreak := by
  obtain ⟨hhtml, hhtmlneat⟩ := pieces_htmlFrom '\x00' text.toList
  obtain ⟨hvalue, hvalueneat⟩ := pieces_flatMap_quotedPiece text.toList
  rw [html, value, String.toList_ofList, String.toList_ofList]
  have hangle {d : Char} (hd : d = '<' ∨ d = '>') : d ∉ text.toList.flatMap quotedPiece := by
    rw [← spelling_pieces (text.toList.flatMap quotedPiece)]
    intro hmem
    obtain ⟨p, hp, hdp⟩ := List.mem_flatMap.mp hmem
    refine (hvalueneat p hp).2 (eq_lineBreak_of_mem (hvalueneat p hp).1 ?_)
    rcases hd with rfl | rfl
    · exact .inl hdp
    · exact .inr hdp
  refine ⟨hhtml, hvalue, fun c hc => ?_, hangle (.inl rfl), hangle (.inr rfl),
    fun p hp => eq_lineBreak_of_mem (hhtmlneat p hp)⟩
  have hneat : (Piece.plain c).IsNeat :=
    (List.mem_append.mp hc).elim (hhtmlneat _) fun h => (hvalueneat _ h).1
  exact fun hmem => hneat (List.mem_append_left ['<', '>'] hmem)

/-- Text that looks like a reference is read back as that text. -/
example : html "&lt;\n  '" = "&amp;lt;<br/>&nbsp; &#39;" := by
  decide +kernel

end LivePages.Escape
