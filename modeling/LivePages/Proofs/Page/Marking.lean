import LivePages.Proofs.Page.Printing

/-!
# Pages That Are Only Included

Only the text at the top can mark a page as one that is only included. The files that are merged
into it are read one level deeper, where the same directive has no effect, and nothing else touches
the mark. So the mark does not depend on the files at all: it says whether the text itself has a
closed directive with that word.

Which directives a text has is said by the grammar of pages. A text that stands in a tag without an
end, in a remark, or behind half a pair is not among them.

## Main results

* `marksItself_iff`: the directives of a text are those that the scanner finds.
* `includeOnly_addItem`: what an item of the text at the top does to the mark.
* `includeOnly_parse`: the mark of a page.
-/

namespace LivePages.Page

/-! ### The mark in a text -/

/-- The word that a directive begins with. -/
def Item.word? : Item → Option (List Char)
  | .tag .directive body | .tag .unmarked body => some (body.takeWhile Text.isLetter)
  | _ => none

/-- The item is a directive that marks its page. -/
def Item.IsMark (i : Item) : Prop :=
  i.word? = some "includeonly".toList

/-- Among the pieces that the text is written as is a directive that marks it. -/
def MarksItself (page : List Char) : Prop :=
  ∃ s : Scan, s.WellFormed ∧ s.spelling = page ∧ ∃ i ∈ s.items, i.IsMark

/-- A text is written as pieces in one way only, so its directives are those that are found. -/
theorem marksItself_iff {page : List Char} :
    MarksItself page ↔ ∃ i ∈ (scan page).items, i.IsMark := by
  constructor
  · rintro ⟨s, hs, hpage, hmark⟩
    rw [scan_eq_iff.mpr ⟨hs, hpage⟩]
    exact hmark
  · intro hmark
    exact ⟨scan page, wellFormed_scan page, spelling_scan page, hmark⟩

/-- The word alone decides whether a directive asks for the mark. -/
theorem ofBody_eq_includeOnly_iff {body : List Char} :
    Directive.ofBody body = .includeOnly ↔
      body.takeWhile Text.isLetter = "includeonly".toList := by
  have hword (word : String) :
      String.ofList (body.takeWhile Text.isLetter) = word ↔
        body.takeWhile Text.isLetter = word.toList := by
    rw [← String.toList_inj, String.toList_ofList]
  simp only [Directive.ofBody, hword]
  constructor
  · intro h
    split_ifs at h with himport hinclude hrequire hmark
    exact hmark
  · intro h
    rw [h]
    rfl

/-! ### What items do to the mark -/

variable {loader : Loader} {nested : Effect} {p q : Progress}

/-- Deeper pages leave the mark alone, and it does not matter how much deeper they are. -/
theorem Parts.Extends.of_pos {depth depth' : ℕ} {p q : Parts} (h : p.Extends loader depth q)
    (hdepth : 0 < depth) : p.Extends loader depth' q :=
  { h with includeOnly := fun _ => h.includeOnly hdepth }

/-- Only the directive for the mark has to do with the depth. -/
theorem addDirective_eq_of_ne {directive : Directive} (h : directive ≠ .includeOnly)
    (depth depth' : ℕ) :
    addDirective loader nested depth p directive =
      addDirective loader nested depth' p directive := by
  cases directive with
  | includeOnly => exact absurd rfl h
  | importPaths | merge | unknown => rfl

/-- At the top a directive sets the mark exactly if it asks for that. Any other directive has the
effect that it has in a deeper page, which leaves the mark alone. -/
theorem includeOnly_addDirective (hn : nested.Extends loader 1) {directive : Directive}
    (h : addDirective loader nested 0 p directive = some q) :
    q.parts.includeOnly = true ↔ p.parts.includeOnly = true ∨ directive = .includeOnly := by
  by_cases hmark : directive = .includeOnly
  · subst hmark
    obtain rfl := Option.some.inj h
    simp [Progress.update]
  · have hdeeper : nested.Extends loader 2 := fun _ _ _ hnested => (hn hnested).of_pos Nat.one_pos
    rw [addDirective_eq_of_ne hmark 0 1] at h
    rw [(addDirective_extends hdeeper h).includeOnly Nat.one_pos]
    simp [hmark]

/-- **The step.** At the top an item sets the mark exactly if it is a directive for it. -/
theorem includeOnly_addItem (hn : nested.Extends loader 1) {i : Item}
    (h : addItem (addTag loader nested 0) p i = some q) :
    q.parts.includeOnly = true ↔ p.parts.includeOnly = true ∨ i.IsMark := by
  cases i with
  | text run =>
      obtain rfl := Option.some.inj h
      simp [Item.IsMark, Item.word?, Progress.update, Parts.push]
  | tag kind body =>
      cases kind with
      | code | eval | comment =>
          obtain rfl := Option.some.inj h
          simp [Item.IsMark, Item.word?, Progress.update, Parts.pushCode, Parts.pushEval,
            Parts.push]
      | directive | unmarked =>
          rw [includeOnly_addDirective hn h, ofBody_eq_includeOnly_iff, Item.IsMark, Item.word?,
            Option.some.injEq]

/-- At the top items set the mark exactly if one of them is a directive for it. -/
theorem includeOnly_foldlM_addItem (hn : nested.Extends loader 1) {items : List Item}
    (h : items.foldlM (addItem (addTag loader nested 0)) p = some q) :
    q.parts.includeOnly = true ↔ p.parts.includeOnly = true ∨ ∃ i ∈ items, i.IsMark := by
  induction items generalizing p with
  | nil =>
      obtain rfl := Option.some.inj h
      simp
  | cons i items ih =>
      rw [List.foldlM_cons] at h
      obtain ⟨r, hr, hrest⟩ := Option.bind_eq_some_iff.mp h
      rw [ih hrest, includeOnly_addItem hn hr, List.exists_mem_cons_iff, or_assoc]

/-! ### The mark of a page -/

/-- **A page is only included exactly if its own text says so.** Whatever files are merged into it,
and whatever they contain, it has the mark if and only if there is a closed directive with that word
in its text. So it has the same mark with every loader. -/
theorem includeOnly_parse (page : String) :
    (∀ loader : Loader,
      (parse loader page).parts.includeOnly = true ↔ MarksItself page.toList) ∧
    ∀ loader loader' : Loader,
      (parse loader page).parts.includeOnly = (parse loader' page).parts.includeOnly := by
  have hmark (loader : Loader) :
      (parse loader page).parts.includeOnly = true ↔ MarksItself page.toList := by
    obtain ⟨q, hq, hparse⟩ := Option.map_eq_some_iff.mp (foldlM_addItem_scan loader page)
    have hitems := includeOnly_foldlM_addItem (expand_extends loader _ 1) hq
    rw [← hparse, parts_addTail, hitems, marksItself_iff]
    simp
  refine ⟨hmark, fun loader loader' => ?_⟩
  rw [Bool.eq_iff_iff, hmark, hmark]

/-- A file that marks itself, includes the page again and leaves a tag open does not mark the page
that includes it. -/
example :
    (parse (.ofPairs [("a", "<%!includeonly%><%!include \"p\"%><%!includeonly"),
        ("p", "<%!include \"a\"%>")])
      "<%!include \"a\"%><%#!includeonly%><%!included%>").parts.includeOnly = false := by
  decide +kernel

end LivePages.Page
