import LivePages.Proofs.Source.EntryTable
import LivePages.Proofs.Text.Argument

/-!
# The Page Table Read Back

The entry point is read line by line, and what a line is for is told by the character it begins
with: `#` for the path of a source, `m` for a module, a bracket for a row of the table. A literal
stands in a line without breaking it, whatever symbol or address it is for. So the lines of these
shapes are those that were written for pages: none is cut in two, and none is made up of what a page
is called. Hence the pages can be read off, each with its number, and no other list of pages has the
same entry point.

## Main definitions

* `ReadsAs`: what a reader finds in the text is a list of pages.

## Main results

* `ReadsAs.unique`: a text reads as one list of pages at most.
* `readsAs_self`: the entry point reads as the pages it was written for.
* `readsAs_renderEntry`: it reads as no others, and no others have the same entry point.
-/

namespace LivePages.Source

variable {c : Char} {text : String} {pages others : List EntryPage}

/-! ### Lines of a shape -/

/-- The line begins with a character, after any number of spaces. -/
def begins (c : Char) (line : String) : Bool :=
  (line.toList.dropWhile (· = ' ')).head? == some c

/-- The lines that begin with a character, each with the line after it. -/
def withNext (c : Char) : List String → List (String × Option String)
  | [] => []
  | line :: rest =>
    if begins c line then (line, rest.head?) :: withNext c rest else withNext c rest

/-- What a line begins with is told by its first piece, unless that is blank. -/
theorem begins_append {front : String} {d : Char}
    (h : (front.toList.dropWhile (· = ' ')).head? = some d) (c : Char) (rest : String) :
    begins c (front ++ rest) = (d == c) := by
  obtain ⟨tail, hfront⟩ := List.head?_eq_some_iff.mp h
  rw [begins, String.toList_append, List.dropWhile_append, hfront]
  rfl

/-- Lines of other shapes are passed over. -/
theorem withNext_append {front : List String} (h : ∀ line ∈ front, begins c line = false)
    (rest : List String) : withNext c (front ++ rest) = withNext c rest := by
  induction front with
  | nil => rfl
  | cons line front ih =>
      obtain ⟨hline, hfront⟩ := List.forall_mem_cons.mp h
      rw [List.cons_append, withNext, hline, if_neg Bool.false_ne_true, ih hfront]

theorem withNext_eq_nil {lines : List String} (h : ∀ line ∈ lines, begins c line = false) :
    withNext c lines = [] := by
  rw [← List.append_nil lines, withNext_append h]
  rfl

/-- The first line of every pair is of the shape, the second one is not. -/
theorem withNext_flatMap_append {α : Type} {first second : α → String}
    (hfirst : ∀ a, begins c (first a) = true) (hsecond : ∀ a, begins c (second a) = false)
    (as : List α) (rest : List String) :
    withNext c (as.flatMap (fun a => [first a, second a]) ++ rest) =
      as.map (fun a => (first a, some (second a))) ++ withNext c rest := by
  induction as with
  | nil => rfl
  | cons a as ih =>
      rw [List.flatMap_cons, List.append_assoc, List.cons_append, withNext, if_pos (hfirst a),
        List.cons_append, withNext, hsecond a, if_neg Bool.false_ne_true, List.nil_append, ih]
      rfl

/-! ### What a reader finds -/

/-- The text reads as the pages: the lines that declare modules and the rows are as many as the
pages, the declaration of every number is that of the source of the page of this number, and the row
that of its address. -/
structure ReadsAs (text : String) (pages : List EntryPage) : Prop where
  /-- There are no other lines that name a source. -/
  length_paths : (withNext '#' (linesOf text)).length = pages.length
  /-- There are no other lines that name a module. -/
  length_modules : ((linesOf text).filter (begins 'm')).length = pages.length
  /-- There are no other rows. -/
  length_rows : ((linesOf text).filter (begins '(')).length = pages.length
  /-- The line that names a source, and the line after it. -/
  declared {k : ℕ} {page : EntryPage} (h : pages[k]? = some page) :
    ∃ literal, (withNext '#' (linesOf text))[k]? =
        some ("#[path = " ++ literal ++ "]", some ("mod page_" ++ toString k ++ ";")) ∧
      Text.Quoted.unquote literal = .ok ("pages/" ++ page.symbol ++ ".rs")
  /-- The row. -/
  listed {k : ℕ} {page : EntryPage} (h : pages[k]? = some page) :
    ∃ literal, ((linesOf text).filter (begins '('))[k]? =
        some ("    (" ++ literal ++ ", page_" ++ toString k ++ "::__process__),") ∧
      Text.Quoted.unquote literal = .ok page.url

/-- **A text reads as one list of pages at most.** -/
theorem ReadsAs.unique (h : ReadsAs text pages) (h' : ReadsAs text others) : pages = others := by
  refine List.ext_getElem (h.length_paths.symm.trans h'.length_paths) fun k hk hk' => ?_
  obtain ⟨path, hpath, hsymbol⟩ := h.declared (List.getElem?_eq_getElem hk)
  obtain ⟨path', hpath', hsymbol'⟩ := h'.declared (List.getElem?_eq_getElem hk')
  obtain ⟨row, hrow, hurl⟩ := h.listed (List.getElem?_eq_getElem hk)
  obtain ⟨row', hrow', hurl'⟩ := h'.listed (List.getElem?_eq_getElem hk')
  -- the line is the same, so the literal is, and so is what it stands for
  obtain rfl : path = path' :=
    eq_of_append_eq (Prod.mk.inj (Option.some.inj (hpath.symm.trans hpath'))).1
  obtain rfl : row = row' := by
    have hline := Option.some.inj (hrow.symm.trans hrow')
    simp only [String.append_assoc] at hline
    exact eq_of_append_eq (by simpa only [String.append_assoc] using hline)
  have hfile := Except.ok.inj (hsymbol.symm.trans hsymbol')
  have hsymbols : pages[k].symbol = others[k].symbol := eq_of_append_eq hfile
  have hurls : pages[k].url = others[k].url := Except.ok.inj (hurl.symm.trans hurl')
  calc pages[k]
      = ⟨pages[k].symbol, pages[k].url⟩ := rfl
    _ = ⟨others[k].symbol, others[k].url⟩ := by rw [hsymbols, hurls]
    _ = others[k] := rfl

/-! ### What is found in the entry point -/

/-- What the line that names a source begins with. -/
theorem begins_pathLine (c : Char) (literal : String) :
    begins c ("#[path = " ++ literal ++ "]") = ('#' == c) := by
  have hfront : ("#[path = ".toList.dropWhile (· = ' ')).head? = some '#' := by decide
  rw [String.append_assoc, begins_append hfront]

/-- What the line that names a module begins with. -/
theorem begins_moduleLine (c : Char) (k : ℕ) :
    begins c ("mod page_" ++ toString k ++ ";") = ('m' == c) := by
  have hfront : ("mod page_".toList.dropWhile (· = ' ')).head? = some 'm' := by decide
  rw [String.append_assoc, begins_append hfront]

/-- What a row begins with. -/
theorem begins_tableRow (c : Char) (k : ℕ) (page : EntryPage) :
    begins c (tableRow k page) = ('(' == c) := by
  have hfront : ("    (".toList.dropWhile (· = ' ')).head? = some '(' := by decide
  simp only [tableRow_eq, String.append_assoc]
  rw [begins_append hfront]

/-- The lines that name sources, with the lines that name modules after them. -/
theorem withNext_renderEntry (pages : List EntryPage) :
    withNext '#' (linesOf (renderEntry pages)) = (numbered pages).map fun p =>
      ("#[path = " ++ Text.Quoted.quote ("pages/" ++ p.2.symbol ++ ".rs") ++ "]",
        some ("mod page_" ++ toString p.1 ++ ";")) := by
  have hopening : ∀ line ∈ openingLines, begins '#' line = false := by decide
  have htable : ∀ line ∈ tableLines, begins '#' line = false := by decide
  have hrows : ∀ line ∈ (numbered pages).map fun p => tableRow p.1 p.2,
      begins '#' line = false := by
    intro line hline
    obtain ⟨p, -, rfl⟩ := List.mem_map.mp hline
    rw [begins_tableRow]
    decide
  have hclosing : ∀ line ∈ closingLines ++ [""], begins '#' line = false := by decide
  rw [linesOf_renderEntry, withNext_append hopening]
  simp only [moduleLines_eq]
  have hpath (p : ℕ × EntryPage) : begins '#'
      ("#[path = " ++ Text.Quoted.quote ("pages/" ++ p.2.symbol ++ ".rs") ++ "]") = true := by
    rw [begins_pathLine]
    decide
  have hmodule (p : ℕ × EntryPage) : begins '#' ("mod page_" ++ toString p.1 ++ ";") = false := by
    rw [begins_moduleLine]
    decide
  rw [withNext_flatMap_append hpath hmodule, withNext_append htable, withNext_append hrows,
    withNext_eq_nil hclosing, List.append_nil]

/-- What is kept of the entry point, if it is none of the lines that stand in every one. -/
theorem filter_renderEntry (pages : List EntryPage)
    (hfixed : (openingLines ++ tableLines ++ closingLines ++ [""]).filter (begins c) = []) :
    (linesOf (renderEntry pages)).filter (begins c) =
      (numbered pages).flatMap (fun p => (moduleLines p.1 p.2).filter (begins c)) ++
        ((numbered pages).map fun p => tableRow p.1 p.2).filter (begins c) := by
  simp only [List.filter_append, List.append_eq_nil_iff] at hfixed
  obtain ⟨⟨⟨hopening, htable⟩, hclosing⟩, hlast⟩ := hfixed
  simp only [linesOf_renderEntry, List.filter_append, List.filter_flatMap, hopening, htable,
    hclosing, hlast, List.nil_append, List.append_nil]

/-- The lines that name modules. -/
theorem filter_module_renderEntry (pages : List EntryPage) :
    (linesOf (renderEntry pages)).filter (begins 'm') =
      (numbered pages).map fun p => "mod page_" ++ toString p.1 ++ ";" := by
  have hmodules (p : ℕ × EntryPage) : (moduleLines p.1 p.2).filter (begins 'm') =
      ["mod page_" ++ toString p.1 ++ ";"] := by
    rw [moduleLines_eq, List.filter_cons, begins_pathLine, List.filter_cons, begins_moduleLine]
    rfl
  have hrows : ((numbered pages).map fun p => tableRow p.1 p.2).filter (begins 'm') = [] := by
    refine List.filter_eq_nil_iff.mpr (List.forall_mem_map.mpr fun p _ => ?_)
    rw [begins_tableRow]
    decide
  rw [filter_renderEntry pages (by decide), hrows, List.append_nil, List.map_eq_flatMap]
  simp only [hmodules]

/-- The rows. -/
theorem filter_row_renderEntry (pages : List EntryPage) :
    (linesOf (renderEntry pages)).filter (begins '(') =
      (numbered pages).map fun p => tableRow p.1 p.2 := by
  have hmodules (p : ℕ × EntryPage) : (moduleLines p.1 p.2).filter (begins '(') = [] := by
    rw [moduleLines_eq, List.filter_cons, begins_pathLine, List.filter_cons, begins_moduleLine]
    rfl
  have hrows : ((numbered pages).map fun p => tableRow p.1 p.2).filter (begins '(') =
      (numbered pages).map fun p => tableRow p.1 p.2 := by
    refine List.filter_eq_self.mpr (List.forall_mem_map.mpr fun p _ => ?_)
    rw [begins_tableRow]
    decide
  rw [filter_renderEntry pages (by decide), hrows]
  simp [hmodules]

/-- **The entry point reads as the pages it was written for.** -/
theorem readsAs_self (pages : List EntryPage) : ReadsAs (renderEntry pages) pages where
  length_paths := by rw [withNext_renderEntry, List.length_map, length_numbered]
  length_modules := by rw [filter_module_renderEntry, List.length_map, length_numbered]
  length_rows := by rw [filter_row_renderEntry, List.length_map, length_numbered]
  declared h := by
    refine ⟨_, ?_, (isLiteral_quote _).unquote_eq⟩
    rw [withNext_renderEntry, List.getElem?_map, getElem?_numbered h, Option.map_some]
  listed {k page} h := by
    have hname : "::" ++ handlerName ++ ")," = "::__process__)," := by decide
    refine ⟨Text.Quoted.quote page.url, ?_, (isLiteral_quote _).unquote_eq⟩
    rw [filter_row_renderEntry, List.getElem?_map, getElem?_numbered h, Option.map_some,
      tableRow_eq]
    simp only [String.append_assoc] at hname ⊢
    rw [hname]

/-- **The page table is read back.** The entry point for a list of pages reads as this list and as
no other one: the declaration of the page at every position names the source and the module of this
page, the row of this position has its address and the handler of this module, and there are no
more such lines. So different lists of pages have different entry points. -/
theorem readsAs_renderEntry :
    (∀ pages others, ReadsAs (renderEntry pages) others ↔ others = pages) ∧
      Function.Injective renderEntry := by
  constructor
  · intro pages others
    constructor
    · exact fun h => h.unique (readsAs_self pages)
    · rintro rfl
      exact readsAs_self others
  · intro pages others heq
    exact ReadsAs.unique (readsAs_self pages) (heq ▸ readsAs_self others)

end LivePages.Source
