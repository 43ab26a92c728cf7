import LivePages.Proofs.Page.Reading

/-!
# What a Page Adds

A page only adds to what has been collected, and so do all the pages that are merged into it: the
fragments so far stay in front, nothing leaves the sets, and every file on record has been loaded.
The files whose inclusion is in progress are the same afterwards as before, because every
inclusion takes its own entry back, also when its file cannot be loaded.

`Parts.Extends` says all of this of the parts before and after. It holds of every directive, hence
of every item, hence of a whole page, if it holds of the pages one level deeper; so it holds at
every depth, by induction on the bound on the nesting.

## Main results

* `isTrimmed_trim`: trimming leaves no blank at either end.
* `addTag_extends`, `addItem_extends`: the effect of a tag, and of an item.
* `expand_extends`: the effect of a page.
-/

namespace LivePages.Text

/-- There is no blank at either end of the text. -/
def IsTrimmed (s : List Char) : Prop :=
  (∀ c ∈ s.head?, isBlank c = false) ∧ ∀ c ∈ s.getLast?, isBlank c = false

/-- What is left of a text after the blanks at its start begins with no blank. -/
theorem isBlank_head_dropWhile (s : List Char) :
    ∀ c ∈ (s.dropWhile isBlank).head?, isBlank c = false := by
  intro c hc
  have hnot := List.head?_dropWhile_not isBlank s
  rw [Option.mem_def.mp hc] at hnot
  exact hnot

/-- The blanks at the end are taken off what begins without blanks. -/
theorem trim_prefix_trimStart (s : List Char) : trim s <+: trimStart s := by
  rw [← List.reverse_suffix, trim, trimEnd, List.reverse_reverse]
  exact List.dropWhile_suffix _

/-- **Trimming leaves no blank at either end.** -/
theorem isTrimmed_trim (s : List Char) : IsTrimmed (trim s) := by
  constructor
  · intro c hc
    obtain ⟨rest, hrest⟩ := List.head?_eq_some_iff.mp hc
    obtain ⟨ending, hending⟩ := trim_prefix_trimStart s
    refine isBlank_head_dropWhile s c ?_
    rw [← trimStart, ← hending, hrest]
    rfl
  · intro c hc
    rw [trim, trimEnd, List.getLast?_reverse] at hc
    exact isBlank_head_dropWhile _ c hc

end LivePages.Text

namespace LivePages.Page

/-! ### Growing parts -/

/-- A fragment as pages leave it: there is no empty text, and no blank around an expression. -/
def Fragment.IsNeat : Fragment → Prop
  | .literal text => text ≠ ""
  | .code _ => True
  | .eval expression => Text.IsTrimmed expression.toList

/-- What the parts before a page at some depth and those after it have to do with each other. -/
structure Parts.Extends (loader : Loader) (depth : ℕ) (p q : Parts) : Prop where
  /-- The same inclusions are in progress. -/
  including : q.including = p.including
  /-- What was required stays required. -/
  required : p.required ⊆ q.required
  /-- What was imported stays imported. -/
  imports : p.imports ⊆ q.imports
  /-- What was merged stays on record. -/
  depends : p.depends ⊆ q.depends
  /-- What comes on record has been loaded. -/
  loaded : ∀ path ∈ q.depends, path ∈ p.depends ∨ ∃ text, loader.load path = .ok text
  /-- Neat fragments are added at the end. -/
  fragments : ∃ added, q.fragments = p.fragments ++ added ∧ ∀ f ∈ added, f.IsNeat
  /-- Only the page at the top marks itself as one that is only included. -/
  includeOnly : 0 < depth → q.includeOnly = p.includeOnly

namespace Parts.Extends

variable {loader : Loader} {depth : ℕ} {p q r : Parts}

/-- Nothing need change. -/
theorem refl (loader : Loader) (depth : ℕ) (p : Parts) : p.Extends loader depth p where
  including := rfl
  required := List.Subset.refl _
  imports := List.Subset.refl _
  depends := List.Subset.refl _
  loaded _ h := Or.inl h
  fragments := ⟨[], (List.append_nil _).symm, by simp⟩
  includeOnly _ := rfl

/-- One addition after the other is an addition. -/
theorem trans (h : p.Extends loader depth q) (h' : q.Extends loader depth r) :
    p.Extends loader depth r where
  including := h'.including.trans h.including
  required := List.Subset.trans h.required h'.required
  imports := List.Subset.trans h.imports h'.imports
  depends := List.Subset.trans h.depends h'.depends
  loaded path hpath := (h'.loaded path hpath).elim (h.loaded path) Or.inr
  fragments := by
    obtain ⟨added, hq, hadded⟩ := h.fragments
    obtain ⟨more, hr, hmore⟩ := h'.fragments
    refine ⟨added ++ more, by rw [hr, hq, List.append_assoc], ?_⟩
    intro f hf
    exact (List.mem_append.mp hf).elim (hadded f) (hmore f)
  includeOnly hdepth := (h'.includeOnly hdepth).trans (h.includeOnly hdepth)

/-- What holds of a deeper page holds of the page that it is merged into. -/
theorem of_deeper (h : p.Extends loader (depth + 1) q) : p.Extends loader depth q where
  including := h.including
  required := h.required
  imports := h.imports
  depends := h.depends
  loaded := h.loaded
  fragments := h.fragments
  includeOnly _ := h.includeOnly (Nat.succ_pos depth)

/-- A neat fragment is pushed. -/
theorem push (loader : Loader) (depth : ℕ) (p : Parts) {f : Fragment} (hf : f.IsNeat) :
    p.Extends loader depth (p.push f) :=
  { refl loader depth p with
    fragments := ⟨[f], rfl, fun _ hg => List.mem_singleton.mp hg ▸ hf⟩ }

/-- A path is imported. -/
theorem addImport (loader : Loader) (depth : ℕ) (p : Parts) (path : String) :
    p.Extends loader depth (p.addImport path) :=
  { refl loader depth p with
    imports := fun _ h => Text.StringSet.mem_insert.mpr (Or.inr h) }

/-- A file that has been loaded comes on record. -/
theorem addDepend (depth : ℕ) (p : Parts) {path text : String}
    (h : loader.load path = .ok text) : p.Extends loader depth (p.addDepend path) :=
  { refl loader depth p with
    depends := fun _ h => Text.StringSet.mem_insert.mpr (Or.inr h)
    loaded := by
      intro other hother
      rcases Text.StringSet.mem_insert.mp hother with rfl | hother
      · exact Or.inr ⟨text, h⟩
      · exact Or.inl hother }

/-- A file is required. -/
theorem require (loader : Loader) (depth : ℕ) (p : Parts) (path : String) :
    p.Extends loader depth (p.require path) :=
  { refl loader depth p with
    required := List.subset_cons_self path _ }

/-- An inclusion begins, adds what it adds, and takes its entry back. -/
theorem leave {path : String} (h : (p.enter path).Extends loader depth q) :
    p.Extends loader depth (q.leave path) where
  including := by
    rw [Parts.leave, h.including]
    exact List.erase_cons_head path p.including
  required := h.required
  imports := h.imports
  depends := h.depends
  loaded := h.loaded
  fragments := h.fragments
  includeOnly := h.includeOnly

end Parts.Extends

/-! ### Directives -/

variable {loader : Loader} {nested : Effect} {depth : ℕ} {p q : Progress}

/-- The pages one level deeper only add. -/
def Effect.Extends (nested : Effect) (loader : Loader) (depth : ℕ) : Prop :=
  ∀ ⦃page p q⦄, nested page p = some q → p.parts.Extends loader depth q.parts

/-- A list of imports only adds. -/
theorem foldl_addImport_extends (loader : Loader) (depth : ℕ) (items : List (List Char))
    (p : Progress) :
    p.parts.Extends loader depth (items.foldl Progress.addImport p).parts := by
  induction items generalizing p with
  | nil => exact .refl loader depth p.parts
  | cons item items ih =>
      have hitem : p.parts.Extends loader depth (p.addImport item).parts := by
        rw [Progress.addImport]
        split
        · exact .addImport loader depth p.parts _
        · exact .refl loader depth p.parts
      exact hitem.trans (ih _)

/-- A file only adds. -/
theorem mergeFile_extends (hn : nested.Extends loader (depth + 1)) {kind : MergeKind}
    {path : String} (h : mergeFile loader nested kind path p = some q) :
    p.parts.Extends loader depth q.parts := by
  rw [mergeFile] at h
  split at h
  · rename_i text hload
    exact (Parts.Extends.addDepend depth p.parts hload).trans (hn h).of_deeper
  · obtain rfl := Option.some.inj h
    exact .refl loader depth p.parts

/-- A merge directive only adds. -/
theorem addMerge_extends (hn : nested.Extends loader (depth + 1)) {path : String}
    {kind : MergeKind} (h : addMerge loader nested p path kind = some q) :
    p.parts.Extends loader depth q.parts := by
  cases kind with
  | «include» =>
      rw [addMerge] at h
      split at h
      · obtain rfl := Option.some.inj h
        exact .refl loader depth p.parts
      · obtain ⟨r, hr, rfl⟩ := Option.map_eq_some_iff.mp h
        exact (mergeFile_extends hn hr).leave
  | require =>
      rw [addMerge] at h
      split at h
      · obtain rfl := Option.some.inj h
        exact .refl loader depth p.parts
      · exact (Parts.Extends.require loader depth p.parts path).trans (mergeFile_extends hn h)

/-- A directive only adds. -/
theorem addDirective_extends (hn : nested.Extends loader (depth + 1)) {directive : Directive}
    (h : addDirective loader nested depth p directive = some q) :
    p.parts.Extends loader depth q.parts := by
  cases directive with
  | importPaths list =>
      obtain rfl := Option.some.inj h
      exact foldl_addImport_extends loader depth _ p
  | merge kind argument =>
      rw [addDirective] at h
      split at h
      · exact addMerge_extends hn h
      · obtain rfl := Option.some.inj h
        exact .refl loader depth p.parts
  | includeOnly =>
      rw [addDirective] at h
      split at h
      · rename_i hdepth
        obtain rfl := Option.some.inj h
        exact { Parts.Extends.refl loader depth p.parts with
          includeOnly := fun hpos => absurd hdepth (Nat.ne_of_gt hpos) }
      · obtain rfl := Option.some.inj h
        exact .refl loader depth p.parts
  | unknown word =>
      obtain rfl := Option.some.inj h
      exact .refl loader depth p.parts

/-! ### Pages -/

/-- A tag only adds. -/
theorem addTag_extends (hn : nested.Extends loader (depth + 1)) {kind : TagKind}
    {body : List Char} (h : addTag loader nested depth p kind body = some q) :
    p.parts.Extends loader depth q.parts := by
  cases kind with
  | code =>
      obtain rfl := Option.some.inj h
      exact .push loader depth p.parts trivial
  | eval =>
      obtain rfl := Option.some.inj h
      refine .push loader depth p.parts ?_
      rw [Fragment.IsNeat, String.toList_ofList]
      exact Text.isTrimmed_trim body
  | comment =>
      obtain rfl := Option.some.inj h
      exact .refl loader depth p.parts
  | directive | unmarked => exact addDirective_extends hn h

/-- An item only adds. -/
theorem addItem_extends (hn : nested.Extends loader (depth + 1)) {i : Item} (hi : i.IsSound)
    (h : addItem (addTag loader nested depth) p i = some q) :
    p.parts.Extends loader depth q.parts := by
  cases i with
  | text run =>
      obtain rfl := Option.some.inj h
      refine .push loader depth p.parts ?_
      rw [Fragment.IsNeat, ne_eq, String.ofList_eq_empty_iff]
      exact hi.1
  | tag kind body => exact addTag_extends hn h

/-- Items only add, one after the other. -/
theorem foldlM_addItem_extends (hn : nested.Extends loader (depth + 1)) {items : List Item}
    (hi : ∀ i ∈ items, i.IsSound)
    (h : items.foldlM (addItem (addTag loader nested depth)) p = some q) :
    p.parts.Extends loader depth q.parts := by
  induction items generalizing p with
  | nil =>
      obtain rfl := Option.some.inj h
      exact .refl loader depth p.parts
  | cons i items ih =>
      rw [List.foldlM_cons] at h
      obtain ⟨r, hr, hrest⟩ := Option.bind_eq_some_iff.mp h
      have hfirst := addItem_extends hn (hi i List.mem_cons_self) hr
      exact hfirst.trans (ih (fun j hj => hi j (List.mem_cons_of_mem _ hj)) hrest)

/-- **A page only adds**, at every depth. Induction on the bound on the nesting. -/
theorem expand_extends (loader : Loader) (fuel : ℕ) :
    ∀ depth, Effect.Extends (expand loader fuel depth) loader depth := by
  induction fuel with
  | zero => exact fun depth page p q h => absurd h (by simp [expand])
  | succ fuel ih =>
      intro depth page p q h
      rw [expand, read_eq] at h
      obtain ⟨r, hr, rfl⟩ := Option.map_eq_some_iff.mp h
      rw [parts_addTail]
      exact foldlM_addItem_extends (ih (depth + 1)) (wellFormed_scan page).items hr

end LivePages.Page
