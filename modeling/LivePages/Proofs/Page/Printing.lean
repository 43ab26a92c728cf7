import LivePages.Proofs.Page.Nesting

/-!
# Pages and Their Items

What `parse` makes of a page follows from the items that the page is written as. The pieces of a
page are determined by its text, the effect of a page is that of its pieces in their order, and
the bound on the nesting does not matter.

## Main results

* `parse_spell`: items that name no other page, written one after the other, come back as their
  fragments.
* `exists_scan`: every page is written as pieces, and has the effect of these.
-/

namespace LivePages.Page

/-- The effect of a page, with what it merges, is that of its items; the tail is dropped. -/
theorem foldlM_addItem_scan (loader : Loader) (page : String) :
    ((scan page.toList).items.foldlM (addItem (addTag loader
      (expand loader (loader.nesting page.toList) 1) 0)) {}).map
        (addTail · (scan page.toList).tail) = some (parse loader page) := by
  have h := expand_mono loader (Nat.le_succ _) 0 (expand_nesting loader page)
  rwa [expand, read_eq] at h

/-! ### Items without directives -/

namespace Item

/-- The item is a directive. -/
def isDirective : Item → Bool
  | .tag .directive _ | .tag .unmarked _ => true
  | _ => false

/-- The fragment that an item leaves by itself. -/
def fragment? : Item → Option Fragment
  | .text run => some (.literal (String.ofList run))
  | .tag .code body => some (.code (String.ofList body))
  | .tag .eval body => some (.eval (String.ofList (Text.trim body)))
  | _ => none

theorem filterMap_fragment?_cons (i : Item) (items : List Item) :
    (i :: items).filterMap fragment? = i.fragment?.toList ++ items.filterMap fragment? := by
  simp only [List.filterMap_eq_flatMap_toList, List.flatMap_cons]

end Item

namespace Progress

/-- Puts fragments after those collected so far. -/
def append (p : Progress) (fragments : List Fragment) : Progress :=
  p.update fun parts => { parts with fragments := parts.fragments ++ fragments }

@[simp] theorem append_nil (p : Progress) : p.append [] = p := by
  simp [append, update]

@[simp] theorem append_append (p : Progress) (some more : List Fragment) :
    (p.append some).append more = p.append (some ++ more) := by
  simp [append, update]

end Progress

section

variable {loader : Loader} {nested : Effect} {depth : ℕ}

/-- An item that is no directive leaves its fragment and does nothing else. -/
theorem addItem_of_not_isDirective {i : Item} (h : i.isDirective = false) (p : Progress) :
    addItem (addTag loader nested depth) p i = some (p.append i.fragment?.toList) := by
  cases i with
  | text run => rfl
  | tag kind body =>
      cases kind with
      | code | eval => rfl
      | comment => exact congrArg some p.append_nil.symm
      | directive | unmarked => exact absurd h (by simp [Item.isDirective])

/-- Items that are no directives leave their fragments, in order, and do nothing else. -/
theorem foldlM_addItem_of_not_isDirective {items : List Item}
    (h : ∀ i ∈ items, i.isDirective = false) (p : Progress) :
    items.foldlM (addItem (addTag loader nested depth)) p =
      some (p.append (items.filterMap Item.fragment?)) := by
  induction items generalizing p with
  | nil => exact congrArg some p.append_nil.symm
  | cons i items ih =>
      have hrest := ih (fun j hj => h j (List.mem_cons_of_mem i hj)) (p.append i.fragment?.toList)
      rw [List.foldlM_cons, addItem_of_not_isDirective (h i List.mem_cons_self),
        Item.filterMap_fragment?_cons, ← Progress.append_append]
      exact hrest

end

/-- **Scanning undoes printing.** Items as the grammar wants them, with no directive among them,
are written one after the other. Then every loader finds their fragments in their order, and
nothing else: text and statements as they are, expressions without the blanks around them, and
nothing for remarks. -/
theorem parse_spell (loader : Loader) {items : List Item}
    (hitems : Scan.WellFormed ⟨items, .none⟩) (hplain : ∀ i ∈ items, i.isDirective = false) :
    parse loader (String.ofList (spell items)) =
      { parts := { fragments := items.filterMap Item.fragment? } } := by
  have hscan : scan (spell items) = ⟨items, .none⟩ := by
    have h := scan_spelling hitems
    rwa [Scan.spelling, Tail.spelling, List.append_nil] at h
  have h := foldlM_addItem_scan loader (String.ofList (spell items))
  rw [String.toList_ofList, hscan, foldlM_addItem_of_not_isDirective hplain] at h
  exact (Option.some.inj h).symm

/-- Stray marks: text that ends in a pair of `<`, statements that end in a pair of `%`, a remark
that begins with half an end, and a `<` without a partner at the end of the page. -/
def strayMarks : List Item :=
  [.text "a<<".toList, .tag .code "x%%".toList, .tag .eval " y ".toList,
    .tag .comment ">%=".toList, .text "<>z<".toList]

theorem parse_spell_strayMarks :
    Scan.WellFormed ⟨strayMarks, .none⟩ ∧ (∀ i ∈ strayMarks, i.isDirective = false) ∧
      parse (.ofPairs []) (String.ofList (spell strayMarks)) =
        { parts := { fragments := strayMarks.filterMap Item.fragment? } } :=
  ⟨by decide, by decide, parse_spell (.ofPairs []) (by decide) (by decide)⟩

/-! ### All pages -/

/-- **Scanning loses nothing and adds nothing.** Every page is written as pieces as the grammar
wants them, and they are all that matters. Reading the page, with any effect of its tags, has the
effect of the items in their order: a run of text is pushed as one fragment, the effect of a tag
meets the body as it is written, and the tail is dropped. So it is for `parse`, whose fragments
contain no empty text and no blank around an expression. -/
theorem exists_scan (page : String) : ∃ s : Scan, s.WellFormed ∧ s.spelling = page.toList ∧
    (∀ effect p, read effect page.toList p =
      (s.items.foldlM (addItem effect) p).map (addTail · s.tail)) ∧
    ∀ loader : Loader,
      some (parse loader page) =
        (s.items.foldlM (addItem (addTag loader
          (expand loader (loader.nesting page.toList) 1) 0)) {}).map (addTail · s.tail) ∧
      ∀ f ∈ (parse loader page).parts.fragments, f.IsNeat := by
  refine ⟨scan page.toList, wellFormed_scan _, spelling_scan _, fun effect p => read_eq effect _ p,
    fun loader => ⟨(foldlM_addItem_scan loader page).symm, ?_⟩⟩
  obtain ⟨added, hadded, hneat⟩ :=
    (expand_extends loader _ 0 (expand_nesting loader page)).fragments
  intro f hf
  rw [hadded] at hf
  exact hneat f hf

end LivePages.Page
