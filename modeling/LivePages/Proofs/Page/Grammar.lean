import Mathlib.Data.List.Basic
import LivePages.Page.Scan

/-!
# The Grammar of Pages

What the items of a page and its tail look like, without any scanner: in a run of text each `<` is
paired with the character after it, and no pair is `<%`; in the body of a tag each `%` is paired
with the character after it, and no pair is `%>`. Two runs of text do not stand side by side, and
only the end of the page may leave a `<` without a partner.

A page can be cut into such pieces in one way only, and that is what the scanner does. Both
directions go along the scanner's modes. What a character does in each of them is said once, by
`Mode.Step`.

## Main results

* `spelling_scan`: the pieces of a page, written one after the other, are the page.
* `wellFormed_scan`: the pieces of a page are as the grammar wants them.
* `scan_spelling`: pieces as the grammar wants them are found again.
* `scan_eq_iff`: scanning undoes spelling, and the other way round.
-/

namespace LivePages.Page

/-! ### Pairs -/

/-- Reads a text with each `lead` paired with the character after it: whether a `lead` at the end
is left without a partner, unless one of the pairs is `lead stop`. -/
def unpaired? (lead stop : Char) : List Char → Option Bool
  | [] => some false
  | [c] => some (c = lead)
  | c :: d :: rest =>
    if c = lead then if d = stop then none else unpaired? lead stop rest
    else unpaired? lead stop (d :: rest)

/-- A character that is no `lead` at the start of a text does not matter. -/
theorem unpaired?_cons {lead stop c : Char} (h : c ≠ lead) (s : List Char) :
    unpaired? lead stop (c :: s) = unpaired? lead stop s := by
  cases s with
  | nil => simp [unpaired?, h]
  | cons d s => rw [unpaired?, if_neg h]

/-- A text without an open end can be continued in any way. -/
theorem unpaired?_append {lead stop : Char} {s : List Char}
    (h : unpaired? lead stop s = some false) (t : List Char) :
    unpaired? lead stop (s ++ t) = unpaired? lead stop t := by
  fun_induction unpaired? lead stop s with
  | case1 => rfl
  | case2 c =>
      have hc : c ≠ lead := by simpa using h
      exact unpaired?_cons hc t
  | case3 => exact absurd h (by simp)
  | case4 d rest hd ih =>
      rw [List.cons_append, List.cons_append, unpaired?, if_pos rfl, if_neg hd]
      exact ih h
  | case5 c d rest hc ih =>
      rw [List.cons_append, unpaired?_cons hc]
      exact ih h

/-- The open end of a text is its last character. -/
theorem exists_eq_concat {lead stop : Char} {s : List Char}
    (h : unpaired? lead stop s = some true) :
    ∃ t, s = t ++ [lead] ∧ unpaired? lead stop t = some false := by
  fun_induction unpaired? lead stop s with
  | case1 => exact absurd h (by simp)
  | case2 c =>
      obtain rfl : c = lead := by simpa using h
      exact ⟨[], rfl, rfl⟩
  | case3 => exact absurd h (by simp)
  | case4 d rest hd ih =>
      obtain ⟨t, rfl, ht⟩ := ih h
      exact ⟨lead :: d :: t, rfl, by rw [unpaired?, if_pos rfl, if_neg hd, ht]⟩
  | case5 c d rest hc ih =>
      obtain ⟨t, ht, htop⟩ := ih h
      exact ⟨c :: t, by rw [ht]; rfl, by rw [unpaired?_cons hc, htop]⟩

/-! ### Pieces -/

/-- What comes after the text that opens a tag tells its kind, as far as the opener does not: a tag
of code has no marker, and one that is not marked as a directive begins with a percent sign. -/
def TagKind.Opens : TagKind → List Char → Prop
  | .code, rest => ∀ c ∈ rest.head?, c ∉ ['=', '!', '#', '%']
  | .unmarked, rest => rest.head? = some '%'
  | .eval, _ => True
  | .comment, _ => True
  | .directive, _ => True

instance (kind : TagKind) (rest : List Char) : Decidable (kind.Opens rest) :=
  match kind with
  | .code => Option.decidableForallMem rest.head?
  | .unmarked => inferInstanceAs (Decidable (rest.head? = some '%'))
  | .eval | .comment | .directive => inferInstanceAs (Decidable True)

/-- An item by itself: text is not empty and opens no tag, the body of a tag does not close it. -/
def Item.IsSound : Item → Prop
  | .text run => run ≠ [] ∧ unpaired? '<' '%' run ≠ none
  | .tag kind body => kind.Opens (body ++ ['%', '>']) ∧ unpaired? '%' '>' body = some false

instance : DecidablePred Item.IsSound
  | .text run => inferInstanceAs (Decidable (run ≠ [] ∧ unpaired? '<' '%' run ≠ none))
  | .tag kind body => inferInstanceAs (Decidable
      (kind.Opens (body ++ ['%', '>']) ∧ unpaired? '%' '>' body = some false))

/-- No `<` at the end of an item is left without a partner. -/
def Item.IsClosed : Item → Prop
  | .text run => unpaired? '<' '%' run = some false
  | .tag _ _ => True

instance : DecidablePred Item.IsClosed
  | .text run => inferInstanceAs (Decidable (unpaired? '<' '%' run = some false))
  | .tag _ _ => inferInstanceAs (Decidable True)

/-- The item is a run of text. -/
def Item.isText : Item → Bool
  | .text _ => true
  | .tag _ _ => false

/-- A tail by itself: it is empty or a tag whose body does not close it. -/
def Tail.IsSound : Tail → Prop
  | .none => True
  | .unclosed kind body percent =>
    kind.Opens (body ++ if percent then ['%'] else []) ∧ unpaired? '%' '>' body = some false

instance : DecidablePred Tail.IsSound
  | .none => inferInstanceAs (Decidable True)
  | .unclosed kind body percent => inferInstanceAs (Decidable
      (kind.Opens (body ++ if percent then ['%'] else []) ∧ unpaired? '%' '>' body = some false))

namespace Scan

/-- The text of a page. -/
def spelling (s : Scan) : List Char :=
  spell s.items ++ s.tail.spelling

/-- A page as the grammar wants it. -/
structure WellFormed (s : Scan) : Prop where
  /-- Every item is as it should be by itself. -/
  items : ∀ i ∈ s.items, i.IsSound
  /-- So is the tail. -/
  tail : s.tail.IsSound
  /-- No two runs of text stand side by side. -/
  apart : s.items.IsChain fun i j => ¬ (i.isText = true ∧ j.isText = true)
  /-- Only the last item may leave a `<` without a partner, -/
  closed : ∀ i ∈ s.items.dropLast, i.IsClosed
  /-- and only at the end of the page. -/
  last : s.tail ≠ .none → ∀ i ∈ s.items.getLast?, i.IsClosed

instance : DecidablePred WellFormed := fun s =>
  decidable_of_iff
    ((∀ i ∈ s.items, i.IsSound) ∧ s.tail.IsSound ∧
      (s.items.IsChain fun i j => ¬ (i.isText = true ∧ j.isText = true)) ∧
      (∀ i ∈ s.items.dropLast, i.IsClosed) ∧ (s.tail ≠ .none → ∀ i ∈ s.items.getLast?, i.IsClosed))
    ⟨fun ⟨items, tail, apart, closed, last⟩ => ⟨items, tail, apart, closed, last⟩,
      fun h => ⟨h.items, h.tail, h.apart, h.closed, h.last⟩⟩

/-- The page begins with a tag, with or without an end. -/
def BeginsWithTag (s : Scan) : Prop :=
  (∀ i ∈ s.items.head?, i.isText = false) ∧ (s.items = [] → s.tail ≠ .none)

@[simp] theorem prepend_nil (s : Scan) : s.prepend [] = s := rfl

@[simp] theorem spelling_prepend (items : List Item) (s : Scan) :
    (s.prepend items).spelling = spell items ++ s.spelling := by
  simp [spelling, prepend, spell]

/-- A page with one item more at its start. -/
theorem wellFormed_prepend_iff {i : Item} {s : Scan} : (s.prepend [i]).WellFormed ↔
    (i.IsSound ∧ (∀ j ∈ s.items.head?, ¬ (i.isText = true ∧ j.isText = true)) ∧
      (s.items ≠ [] ∨ s.tail ≠ .none → i.IsClosed)) ∧ s.WellFormed := by
  obtain ⟨items, tail⟩ := s
  cases items with
  | nil =>
      constructor
      · intro h
        refine ⟨⟨h.items i List.mem_cons_self, by simp, ?_⟩, by simp, h.tail, .nil, by simp, by simp⟩
        rintro (hnil | htail)
        · exact absurd rfl hnil
        · exact h.last htail i rfl
      · rintro ⟨⟨hsound, -, hclosed⟩, h⟩
        refine ⟨by simpa [prepend] using hsound, h.tail, .singleton i, by simp [prepend], ?_⟩
        intro htail j hj
        obtain rfl : i = j := by simpa [prepend] using hj
        exact hclosed (Or.inr htail)
  | cons j items =>
      constructor
      · intro h
        obtain ⟨hij, hchain⟩ := List.isChain_cons_cons.mp h.apart
        refine ⟨⟨h.items i List.mem_cons_self, ?_, ?_⟩, ?_, h.tail, hchain, ?_, h.last⟩
        · intro k hk
          obtain rfl : j = k := by simpa using hk
          exact hij
        · exact fun _ => h.closed i List.mem_cons_self
        · exact fun k hk => h.items k (List.mem_cons_of_mem _ hk)
        · exact fun k hk => h.closed k (List.mem_cons_of_mem _ hk)
      · rintro ⟨⟨hsound, hapart, hclosed⟩, h⟩
        refine ⟨?_, h.tail, List.isChain_cons_cons.mpr ⟨hapart j rfl, h.apart⟩, ?_, h.last⟩
        · intro k hk
          rcases List.mem_cons.mp hk with rfl | hk
          · exact hsound
          · exact h.items k hk
        · intro k hk
          rcases List.mem_cons.mp hk with rfl | hk
          · exact hclosed (Or.inl (List.cons_ne_nil j items))
          · exact h.closed k hk

/-- Text without an open end may stand in front of a tag; if there is none, nothing changes. -/
theorem WellFormed.prepend_text {s : Scan} (h : s.WellFormed) (hs : s.BeginsWithTag)
    {run : List Char} (hrun : unpaired? '<' '%' run.reverse = some false) :
    (s.prepend (textItems run)).WellFormed := by
  cases run with
  | nil => exact h
  | cons c run =>
      have hsound : (Item.text (c :: run).reverse).IsSound :=
        ⟨by simp, by rw [hrun]; exact Option.some_ne_none _⟩
      refine wellFormed_prepend_iff.mpr ⟨⟨hsound, ?_, fun _ => hrun⟩, h⟩
      rintro j hj ⟨-, htext⟩
      rw [hs.1 j hj] at htext
      exact absurd htext (by simp)

/-- A tag may stand in front of anything. -/
theorem WellFormed.prepend_tag {s : Scan} (h : s.WellFormed) {kind : TagKind} {body : List Char}
    (hsound : (Item.tag kind body).IsSound) : (s.prepend [.tag kind body]).WellFormed :=
  wellFormed_prepend_iff.mpr
    ⟨⟨hsound, fun _ _ htext => absurd htext.1 (by simp [Item.isText]), fun _ => trivial⟩, h⟩

end Scan

/-! ### Steps of the scanner -/

/-- What a character does: the items that are complete with it, and the mode after it. -/
inductive Mode.Step : Mode → Char → List Item → Mode → Prop where
  | text {run : List Char} {c : Char} (h : c ≠ '<') : Step (.text run) c [] (.text (c :: run))
  | lessThan {run : List Char} : Step (.text run) '<' [] (.lessThan run)
  | opens {run : List Char} : Step (.lessThan run) '%' (textItems run) .opened
  | pairs {run : List Char} {c : Char} (h : c ≠ '%') :
      Step (.lessThan run) c [] (.text (c :: '<' :: run))
  | marked {c : Char} {kind : TagKind} (h : TagKind.ofMarker? c = some kind) :
      Step .opened c [] (.body kind [])
  | unmarked : Step .opened '%' [] (.percent .unmarked [])
  | code {c : Char} (hmark : TagKind.ofMarker? c = none) (h : c ≠ '%') :
      Step .opened c [] (.body .code [c])
  | body {kind : TagKind} {run : List Char} {c : Char} (h : c ≠ '%') :
      Step (.body kind run) c [] (.body kind (c :: run))
  | percent {kind : TagKind} {run : List Char} : Step (.body kind run) '%' [] (.percent kind run)
  | closes {kind : TagKind} {run : List Char} :
      Step (.percent kind run) '>' [.tag kind run.reverse] (.text [])
  | goesOn {kind : TagKind} {run : List Char} {c : Char} (h : c ≠ '>') :
      Step (.percent kind run) c [] (.body kind (c :: '%' :: run))

/-- The scanner takes one step for every character. -/
theorem exists_step (m : Mode) (c : Char) : ∃ out m', m.Step c out m' ∧
    ∀ rest, scanFrom m (c :: rest) = (scanFrom m' rest).prepend out := by
  cases m with
  | text run =>
      by_cases h : c = '<'
      · subst h
        exact ⟨_, _, .lessThan, fun _ => rfl⟩
      · exact ⟨_, _, .text h, fun _ => if_neg h⟩
  | lessThan run =>
      by_cases h : c = '%'
      · subst h
        exact ⟨_, _, .opens, fun _ => rfl⟩
      · exact ⟨_, _, .pairs h, fun _ => if_neg h⟩
  | opened =>
      cases hmark : TagKind.ofMarker? c with
      | some kind => exact ⟨_, _, .marked hmark, fun _ => by rw [scanFrom, hmark]; rfl⟩
      | none =>
          by_cases h : c = '%'
          · subst h
            exact ⟨_, _, .unmarked, fun _ => rfl⟩
          · exact ⟨_, _, .code hmark h, fun _ => by rw [scanFrom, hmark]; exact if_neg h⟩
  | body kind run =>
      by_cases h : c = '%'
      · subst h
        exact ⟨_, _, .percent, fun _ => rfl⟩
      · exact ⟨_, _, .body h, fun _ => if_neg h⟩
  | percent kind run =>
      by_cases h : c = '>'
      · subst h
        exact ⟨_, _, .closes, fun _ => rfl⟩
      · exact ⟨_, _, .goesOn h, fun _ => if_neg h⟩

/-! ### Nothing is lost -/

/-- The characters of the item that the scanner is in. -/
def Mode.spelling : Mode → List Char
  | .text run => run.reverse
  | .lessThan run => run.reverse ++ ['<']
  | .opened => ['<', '%']
  | .body kind run => kind.opener ++ run.reverse
  | .percent kind run => kind.opener ++ run.reverse ++ ['%']

/-- The items of a run of text are written as the run. -/
theorem spell_textItems (run : List Char) : spell (textItems run) = run.reverse := by
  cases run with
  | nil => rfl
  | cons c run => exact List.append_nil _

/-- A marker belongs to the opener of its kind. -/
theorem opener_of_ofMarker? {c : Char} {kind : TagKind} (h : TagKind.ofMarker? c = some kind) :
    kind.opener = ['<', '%', c] := by
  unfold TagKind.ofMarker? at h
  split_ifs at h with heq hbang hhash
  · obtain rfl := Option.some.inj h
    rw [heq]
    rfl
  · obtain rfl := Option.some.inj h
    rw [hbang]
    rfl
  · obtain rfl := Option.some.inj h
    rw [hhash]
    rfl

/-- A step adds its character. -/
theorem Mode.Step.spelling {m m' : Mode} {c : Char} {out : List Item} (h : m.Step c out m') :
    spell out ++ m'.spelling = m.spelling ++ [c] := by
  cases h with
  | opens => simp [spell_textItems, Mode.spelling]
  | marked h => simp [spell, Mode.spelling, opener_of_ofMarker? h]
  | _ => simp [spell, Item.spelling, Mode.spelling, TagKind.opener]

/-- Scanning on from a mode loses nothing of what has been read and what follows. -/
theorem spelling_scanFrom (m : Mode) (page : List Char) :
    (scanFrom m page).spelling = m.spelling ++ page := by
  induction page generalizing m with
  | nil =>
      cases m with
      | text run => simp [scanFrom, Scan.spelling, spell_textItems, Tail.spelling, Mode.spelling]
      | lessThan run =>
          simp [scanFrom, Scan.spelling, spell_textItems, Tail.spelling, Mode.spelling]
      | _ => simp [scanFrom, Scan.spelling, spell, Tail.spelling, Mode.spelling, TagKind.opener]
  | cons c page ih =>
      obtain ⟨out, m', hstep, hscan⟩ := exists_step m c
      rw [hscan, Scan.spelling_prepend, ih, ← List.append_assoc, hstep.spelling, List.append_assoc,
        List.singleton_append]

/-- **Nothing is lost and nothing is doubled.** The pieces of a page, written one after the other,
are the page. -/
theorem spelling_scan (page : List Char) : (scan page).spelling = page :=
  spelling_scanFrom (.text []) page

/-! ### The pieces are as they should be -/

/-- What the scanner knows of the item that it is in: it has met no pair that ends the item, and in
a tag it knows the kind, whatever follows. -/
def Mode.IsSound : Mode → Prop
  | .text run => unpaired? '<' '%' run.reverse = some false
  | .lessThan run => unpaired? '<' '%' run.reverse = some false
  | .opened => True
  | .body kind run =>
    (∀ rest, kind.Opens (run.reverse ++ rest)) ∧ unpaired? '%' '>' run.reverse = some false
  | .percent kind run =>
    (∀ rest, kind.Opens (run.reverse ++ '%' :: rest)) ∧
      unpaired? '%' '>' run.reverse = some false

/-- The scanner is in a tag. -/
def Mode.isInTag : Mode → Bool
  | .text _ => false
  | .lessThan _ => false
  | .opened => true
  | .body _ _ => true
  | .percent _ _ => true

/-- A kind that has a marker needs no other sign. -/
theorem opens_of_ofMarker? {c : Char} {kind : TagKind} (h : TagKind.ofMarker? c = some kind)
    (rest : List Char) : kind.Opens rest := by
  cases kind with
  | code | unmarked => exact absurd (opener_of_ofMarker? h) (by simp [TagKind.opener])
  | eval | comment | directive => exact trivial

/-- A character that is neither a marker nor a percent sign opens a tag of code. -/
theorem opens_code_iff {c : Char} {rest : List Char} :
    TagKind.code.Opens (c :: rest) ↔ TagKind.ofMarker? c = none ∧ c ≠ '%' := by
  unfold TagKind.Opens TagKind.ofMarker?
  split_ifs <;> simp_all

/-- A text without an open end, followed by other characters. -/
theorem unpaired?_reverse_append {lead stop : Char} {run : List Char}
    (h : unpaired? lead stop run.reverse = some false) {s : List Char}
    (hs : unpaired? lead stop s = some false) :
    unpaired? lead stop (run.reverse ++ s) = some false :=
  (unpaired?_append h s).trans hs

/-- A step keeps what the scanner knows. -/
theorem Mode.Step.isSound {m m' : Mode} {c : Char} {out : List Item} (h : m.Step c out m')
    (hm : m.IsSound) : m'.IsSound := by
  cases h with
  | text h =>
      rw [Mode.IsSound, List.reverse_cons]
      exact unpaired?_reverse_append hm (by simp [unpaired?, h])
  | lessThan => exact hm
  | opens => exact trivial
  | pairs h =>
      rw [Mode.IsSound, List.reverse_cons, List.reverse_cons, List.append_assoc]
      exact unpaired?_reverse_append hm (by simp [unpaired?, h])
  | marked h => exact ⟨opens_of_ofMarker? h, rfl⟩
  | unmarked => exact ⟨fun _ => rfl, rfl⟩
  | code hmark h => exact ⟨fun _ => opens_code_iff.mpr ⟨hmark, h⟩, by simp [unpaired?, h]⟩
  | body h =>
      rw [Mode.IsSound, List.reverse_cons]
      refine ⟨?_, unpaired?_reverse_append hm.2 (by simp [unpaired?, h])⟩
      intro rest
      rw [List.append_assoc]
      exact hm.1 _
  | percent => exact ⟨fun _ => hm.1 _, hm.2⟩
  | closes => exact rfl
  | goesOn h =>
      rw [Mode.IsSound, List.reverse_cons, List.reverse_cons, List.append_assoc]
      refine ⟨?_, unpaired?_reverse_append hm.2 (by simp [unpaired?, h])⟩
      intro rest
      rw [List.append_assoc]
      exact hm.1 _

/-- A tag is closed by a sound one. -/
theorem Mode.IsSound.tag {kind : TagKind} {run : List Char} (h : (Mode.percent kind run).IsSound) :
    (Item.tag kind run.reverse).IsSound :=
  ⟨h.1 _, h.2⟩

/-- A page without items is as it should be if its tail is. -/
theorem Scan.wellFormed_of_nil {tail : Tail} (h : tail.IsSound) : Scan.WellFormed ⟨[], tail⟩ :=
  ⟨by simp, h, .nil, by simp, by simp⟩

/-- Text at the end of a page may have an open end. -/
theorem Scan.wellFormed_textItems {run : List Char} (h : unpaired? '<' '%' run.reverse ≠ none) :
    Scan.WellFormed ⟨textItems run, .none⟩ := by
  cases run with
  | nil => exact wellFormed_of_nil trivial
  | cons c run =>
      have hsound : (Item.text (c :: run).reverse).IsSound := ⟨by simp, h⟩
      have hnil : Scan.WellFormed ⟨[], .none⟩ := wellFormed_of_nil trivial
      refine wellFormed_prepend_iff.mpr ⟨⟨hsound, by simp, ?_⟩, hnil⟩
      rintro (h | h) <;> exact absurd rfl h

/-- What the scanner finds at the end of a page. -/
theorem wellFormed_scanFrom_nil {m : Mode} (hm : m.IsSound) : (scanFrom m []).WellFormed := by
  cases m with
  | text run =>
      refine Scan.wellFormed_textItems ?_
      rw [show unpaired? '<' '%' run.reverse = some false from hm]
      exact Option.some_ne_none _
  | lessThan run =>
      refine Scan.wellFormed_textItems ?_
      rw [List.reverse_cons, unpaired?_append hm]
      exact Option.some_ne_none _
  | opened => exact Scan.wellFormed_of_nil ⟨by simp [TagKind.Opens], rfl⟩
  | body kind run => exact Scan.wellFormed_of_nil ⟨hm.1 _, hm.2⟩
  | percent kind run => exact Scan.wellFormed_of_nil ⟨hm.1 _, hm.2⟩

/-- What is found in a tag begins with a tag. -/
theorem beginsWithTag_scanFrom {m : Mode} (hm : m.isInTag = true) (page : List Char) :
    (scanFrom m page).BeginsWithTag := by
  induction page generalizing m with
  | nil => cases m <;> simp [scanFrom, Scan.BeginsWithTag, Mode.isInTag] at hm ⊢
  | cons c page ih =>
      obtain ⟨out, m', hstep, hscan⟩ := exists_step m c
      rw [hscan]
      cases hstep with
      | closes => exact ⟨by simp [Scan.prepend, Item.isText], by simp [Scan.prepend]⟩
      | text | lessThan | opens | pairs => exact absurd hm (by simp [Mode.isInTag])
      | _ => exact ih rfl

/-- Scanning on from a mode finds what the grammar wants. -/
theorem wellFormed_scanFrom {m : Mode} (hm : m.IsSound) (page : List Char) :
    (scanFrom m page).WellFormed := by
  induction page generalizing m with
  | nil => exact wellFormed_scanFrom_nil hm
  | cons c page ih =>
      obtain ⟨out, m', hstep, hscan⟩ := exists_step m c
      have hrest := ih (hstep.isSound hm)
      rw [hscan]
      cases hstep with
      | opens => exact hrest.prepend_text (beginsWithTag_scanFrom rfl page) hm
      | closes => exact hrest.prepend_tag hm.tag
      | _ => exact hrest

/-- **The pieces of a page are as the grammar wants them.** -/
theorem wellFormed_scan (page : List Char) : (scan page).WellFormed :=
  wellFormed_scanFrom (m := .text []) rfl page

/-! ### The pieces are found again -/

/-- In modes that keep back what is no pair `lead stop`, a text without an open end is kept back as
it is. -/
theorem scanFrom_append (mode : List Char → Mode) {lead stop : Char} {s : List Char}
    (h : unpaired? lead stop s = some false)
    (hplain : ∀ run c rest, c ≠ lead →
      scanFrom (mode run) (c :: rest) = scanFrom (mode (c :: run)) rest)
    (hpair : ∀ run c rest, c ≠ stop →
      scanFrom (mode run) (lead :: c :: rest) = scanFrom (mode (c :: lead :: run)) rest)
    (run rest : List Char) :
    scanFrom (mode run) (s ++ rest) = scanFrom (mode (s.reverse ++ run)) rest := by
  fun_induction unpaired? lead stop s generalizing run with
  | case1 => rfl
  | case2 c =>
      have hc : c ≠ lead := by simpa using h
      exact hplain run c rest hc
  | case3 => exact absurd h (by simp)
  | case4 d s hd ih =>
      rw [List.cons_append, List.cons_append, hpair run d _ hd, ih h]
      simp
  | case5 c d s hc ih =>
      rw [List.cons_append, hplain run c _ hc, ih h]
      simp

/-- Text is kept back. -/
theorem scanFrom_text_append {s : List Char} (h : unpaired? '<' '%' s = some false)
    (run rest : List Char) :
    scanFrom (.text run) (s ++ rest) = scanFrom (.text (s.reverse ++ run)) rest :=
  scanFrom_append .text h (fun _ _ _ hc => if_neg hc) (fun _ _ _ hd => if_neg hd) run rest

/-- The body of a tag is kept back. -/
theorem scanFrom_body_append {s : List Char} (h : unpaired? '%' '>' s = some false)
    (kind : TagKind) (run rest : List Char) :
    scanFrom (.body kind run) (s ++ rest) = scanFrom (.body kind (s.reverse ++ run)) rest :=
  scanFrom_append (.body kind) h (fun _ _ _ hc => if_neg hc) (fun _ _ _ hd => if_neg hd) run rest

/-- After the text that opens it, the scanner is in the body of a tag. For the kinds without a
marker it is not there yet, but goes on in the same way. -/
theorem scan_opener {kind : TagKind} {rest : List Char} (h : kind.Opens rest) :
    scan (kind.opener ++ rest) = scanFrom (.body kind []) rest := by
  cases kind with
  | eval | comment | directive => rfl
  | code =>
      cases rest with
      | nil => rfl
      | cons c rest =>
          obtain ⟨hmark, hc⟩ := opens_code_iff.mp h
          have hopened : scan (TagKind.code.opener ++ c :: rest) =
              scanFrom .opened (c :: rest) := rfl
          rw [hopened, scanFrom, hmark, scanFrom, if_neg hc, if_neg hc]
  | unmarked =>
      obtain ⟨rest, rfl⟩ := List.head?_eq_some_iff.mp h
      rfl

/-- The kind of a tag is known from the first character. -/
theorem TagKind.Opens.append {kind : TagKind} {s : List Char} (h : kind.Opens s) (hs : s ≠ [])
    (t : List Char) : kind.Opens (s ++ t) := by
  cases kind with
  | eval | comment | directive => exact trivial
  | code | unmarked => rwa [Opens, List.head?_append_of_ne_nil _ hs]

/-- A tag is found again, whatever follows it. -/
theorem scan_tag {kind : TagKind} {body : List Char} (h : (Item.tag kind body).IsSound)
    (rest : List Char) : scan ((Item.tag kind body).spelling ++ rest) =
      (scan rest).prepend [.tag kind body] := by
  have hspell : (Item.tag kind body).spelling ++ rest =
      kind.opener ++ (body ++ ['%', '>'] ++ rest) := by simp [Item.spelling]
  rw [hspell, scan_opener (h.1.append (by simp) rest), List.append_assoc,
    scanFrom_body_append h.2, List.append_nil]
  have hclose : scanFrom (.body kind body.reverse) (['%', '>'] ++ rest) =
      (scan rest).prepend [.tag kind body.reverse.reverse] := rfl
  rw [hclose, List.reverse_reverse]

/-- A tag without an end is found again at the end of a page. -/
theorem scan_tail {tail : Tail} (h : tail.IsSound) : scan tail.spelling = ⟨[], tail⟩ := by
  cases tail with
  | none => rfl
  | unclosed kind body percent =>
      rw [Tail.spelling, List.append_assoc, scan_opener h.1, scanFrom_body_append h.2,
        List.append_nil]
      cases percent with
      | false => exact congrArg (fun b => Scan.mk [] (.unclosed kind b false)) body.reverse_reverse
      | true => exact congrArg (fun b => Scan.mk [] (.unclosed kind b true)) body.reverse_reverse

/-- Every tag begins with the same two characters. -/
theorem TagKind.exists_opener_eq (kind : TagKind) :
    ∃ marker, kind.opener = '<' :: '%' :: marker := by
  cases kind <;> exact ⟨_, rfl⟩

/-- A page that begins with a tag begins with its opener. -/
theorem exists_opener {s : Scan} (h : s.BeginsWithTag) :
    ∃ rest, s.spelling = '<' :: '%' :: rest := by
  obtain ⟨items, tail⟩ := s
  cases items with
  | nil =>
      cases tail with
      | none => exact absurd rfl (h.2 rfl)
      | unclosed kind body percent =>
          obtain ⟨marker, hmarker⟩ := kind.exists_opener_eq
          exact ⟨_, by simp [Scan.spelling, spell, Tail.spelling, hmarker]; rfl⟩
  | cons i items =>
      cases i with
      | text run => exact absurd (h.1 _ rfl) (by simp [Item.isText])
      | tag kind body =>
          obtain ⟨marker, hmarker⟩ := kind.exists_opener_eq
          exact ⟨_, by simp [Scan.spelling, spell, Item.spelling, hmarker]; rfl⟩

/-- Text in front of a tag is found again. -/
theorem scan_text_append {run rest : List Char} (h : unpaired? '<' '%' run = some false)
    (hrun : run ≠ []) :
    scan (run ++ '<' :: '%' :: rest) = (scan ('<' :: '%' :: rest)).prepend [.text run] := by
  have hitems : textItems run.reverse = [.text run] := by simp [textItems, hrun]
  have hopens : ∀ kept, scanFrom (.text kept) ('<' :: '%' :: rest) =
      (scanFrom .opened rest).prepend (textItems kept) := fun _ => rfl
  rw [scan, scanFrom_text_append h, List.append_nil, hopens, hitems, scan, hopens]
  rfl

/-- Text at the end of a page is found again, with or without an open end. -/
theorem scan_text {run : List Char} (h : unpaired? '<' '%' run ≠ none) (hrun : run ≠ []) :
    scan run = ⟨[.text run], .none⟩ := by
  have hitems : textItems run.reverse = [.text run] := by simp [textItems, hrun]
  obtain ⟨isOpen, hopen⟩ := Option.ne_none_iff_exists'.mp h
  cases isOpen with
  | true =>
      obtain ⟨s, rfl, hs⟩ := exists_eq_concat hopen
      have hend : ∀ kept, scanFrom (.text kept) ['<'] = ⟨textItems ('<' :: kept), .none⟩ :=
        fun _ => rfl
      rw [scan, scanFrom_text_append hs, List.append_nil, hend, ← List.reverse_concat, hitems]
  | false =>
      have happend := scanFrom_text_append hopen [] []
      rw [List.append_nil, List.append_nil, scanFrom, hitems] at happend
      exact happend

/-- **The pieces are found again.** -/
theorem scan_spelling {s : Scan} (h : s.WellFormed) : scan s.spelling = s := by
  obtain ⟨items, tail⟩ := s
  induction items with
  | nil => exact scan_tail h.tail
  | cons i items ih =>
      have hcons : Scan.mk (i :: items) tail = Scan.prepend [i] ⟨items, tail⟩ := rfl
      rw [hcons] at h ⊢
      obtain ⟨⟨hsound, hapart, hclosed⟩, hrest⟩ := Scan.wellFormed_prepend_iff.mp h
      have hspell : (Scan.prepend [i] ⟨items, tail⟩).spelling =
          i.spelling ++ Scan.spelling ⟨items, tail⟩ := by simp [spell]
      rw [hspell]
      cases i with
      | tag kind body => rw [scan_tag hsound, ih hrest]
      | text run =>
          by_cases hend : items = [] ∧ tail = .none
          · obtain ⟨rfl, rfl⟩ := hend
            have hnil : Scan.spelling ⟨[], .none⟩ = [] := rfl
            rw [hnil, List.append_nil, Item.spelling, scan_text hsound.2 hsound.1]
            rfl
          · have hnext : items ≠ [] ∨ tail ≠ .none := by
              rwa [← not_and_or]
            have hbegins : Scan.BeginsWithTag ⟨items, tail⟩ := by
              refine ⟨?_, fun hnil => hnext.resolve_left (not_not_intro hnil)⟩
              intro j hj
              simpa [Item.isText] using hapart j hj
            obtain ⟨rest, heq⟩ := exists_opener hbegins
            rw [heq, Item.spelling, scan_text_append (hclosed hnext) hsound.1, ← heq, ih hrest]

/-- **Scanning undoes spelling, and the other way round.** -/
theorem scan_eq_iff {page : List Char} {s : Scan} :
    scan page = s ↔ s.WellFormed ∧ s.spelling = page := by
  constructor
  · rintro rfl
    exact ⟨wellFormed_scan page, spelling_scan page⟩
  · rintro ⟨h, rfl⟩
    exact scan_spelling h

end LivePages.Page
