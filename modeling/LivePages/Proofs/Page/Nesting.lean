import Mathlib.Data.Finset.Card
import LivePages.Proofs.Page.Growth

/-!
# How Deep Pages Are Nested

The pages that are merged into each other are put together with a bound on the nesting. The bound
never matters if it exceeds twice the number of files: a page is only included by a page that is
not being included itself, and is only required once. So each level of nesting takes a file from
one of two stocks, `Parts.room`. An inclusion gives its file back, but only when its level is over,
and a required file is never given back.

`Parts.room` cannot grow along `Parts.Extends`, so what is true of it at the start of a page is
true at each of its items, whatever the items before have merged.

## Main results

* `exists_expand`: a page comes to its end if the bound on the nesting exceeds its room.
* `expand_mono`: it has the same effect under every greater bound.
* `exists_expand_nesting`: the bound that `parse` takes is great enough.
* `expand_of_two_mul_card_lt`: so is every bound above twice the number of files that load.
* `expand_only_adds`: under such a bound, a page that is merged into others only adds.
-/

namespace LivePages.Page

/-! ### The room for deeper pages -/

/-- How often one of these files can still be merged into a page that is in progress: once by an
inclusion and once by a requirement. -/
def Parts.room (names : Finset String) (parts : Parts) : ℕ :=
  (names.filter (· ∉ parts.including)).card + (names.filter (· ∉ parts.required)).card

namespace Parts

variable {names : Finset String} {loader : Loader} {depth : ℕ} {p q : Parts}

/-- There is room for each file twice, at most. -/
theorem room_le (names : Finset String) (p : Parts) : p.room names ≤ 2 * names.card := by
  have hincluding := Finset.card_filter_le names (· ∉ p.including)
  have hrequired := Finset.card_filter_le names (· ∉ p.required)
  rw [room]
  omega

/-- What is added to the parts takes up room. -/
theorem Extends.room_le (h : p.Extends loader depth q) : q.room names ≤ p.room names := by
  have hrequired : (names.filter (· ∉ q.required)).card ≤ (names.filter (· ∉ p.required)).card :=
    Finset.card_le_card
      (Finset.monotone_filter_right names fun _ _ hnot hmem => hnot (h.required hmem))
  rw [room, room, h.including]
  omega

/-- One entry more in a list takes a file from the rest. -/
theorem card_notMem_cons_lt {path : String} {list : List String} (hpath : path ∈ names)
    (hnot : path ∉ list) :
    (names.filter (· ∉ path :: list)).card < (names.filter (· ∉ list)).card := by
  refine Finset.card_lt_card ((Finset.ssubset_iff_of_subset ?_).mpr ⟨path, ?_, ?_⟩)
  · exact Finset.monotone_filter_right names fun _ _ hother hmem =>
      hother (List.mem_cons_of_mem path hmem)
  · exact Finset.mem_filter.mpr ⟨hpath, hnot⟩
  · exact fun hmem => (Finset.mem_filter.mp hmem).2 List.mem_cons_self

/-- The inclusion of a file takes up room. -/
theorem room_enter_lt {path : String} (hpath : path ∈ names) (hnot : path ∉ p.including) :
    (p.enter path).room names < p.room names :=
  Nat.add_lt_add_right (card_notMem_cons_lt hpath hnot) _

/-- So does its requirement. -/
theorem room_require_lt {path : String} (hpath : path ∈ names) (hnot : path ∉ p.required) :
    (p.require path).room names < p.room names :=
  Nat.add_lt_add_left (card_notMem_cons_lt hpath hnot) _

end Parts

/-! ### Pages come to their end -/

section

variable {names : Finset String} {loader : Loader} {nested : Effect} {n : ℕ} {p : Progress}

/-- If a file loads, it is one of these. -/
def Loader.Lists (loader : Loader) (names : Finset String) (path : String) : Prop :=
  ∀ text, loader.load path = .ok text → path ∈ names

/-- The files that load are among these as far as files that load name them. -/
def Loader.Closes (loader : Loader) (names : Finset String) : Prop :=
  ∀ path text, loader.load path = .ok text →
    ∀ other ∈ arguments text.toList, loader.Lists names other

/-- The pages one level deeper come to their end if there is little room for them. -/
def Effect.Ends (nested : Effect) (loader : Loader) (names : Finset String) (n : ℕ) : Prop :=
  ∀ page p, (∀ path ∈ arguments page, loader.Lists names path) → p.parts.room names < n →
    ∃ q, nested page p = some q

/-- A file comes to its end. -/
theorem exists_mergeFile (hcloses : loader.Closes names) (hn : nested.Ends loader names n)
    (kind : MergeKind) {path : String}
    (hroom : ∀ text, loader.load path = .ok text → p.parts.room names < n) :
    ∃ q, mergeFile loader nested kind path p = some q := by
  rw [mergeFile]
  split
  · rename_i text hload
    exact hn _ _ (hcloses path text hload) (hroom text hload)
  · exact ⟨_, rfl⟩

/-- A merge directive comes to its end, because there is less room under it. -/
theorem exists_addMerge (hcloses : loader.Closes names) (hn : nested.Ends loader names n)
    {path : String} (hpath : loader.Lists names path) (hroom : p.parts.room names ≤ n)
    (kind : MergeKind) : ∃ q, addMerge loader nested p path kind = some q := by
  cases kind with
  | «include» =>
      rw [addMerge]
      split
      · exact ⟨_, rfl⟩
      · rename_i hnot
        have hmerged : ∃ q, mergeFile loader nested .include path (p.update (·.enter path)) =
            some q := by
          refine exists_mergeFile hcloses hn .include fun text hload => ?_
          exact (Parts.room_enter_lt (hpath text hload) (by simpa using hnot)).trans_le hroom
        obtain ⟨q, hq⟩ := hmerged
        exact ⟨_, by rw [hq]; rfl⟩
  | require =>
      rw [addMerge]
      split
      · exact ⟨_, rfl⟩
      · rename_i hnot
        refine exists_mergeFile hcloses hn .require fun text hload => ?_
        exact (Parts.room_require_lt (hpath text hload) (by simpa using hnot)).trans_le hroom

/-- A directive comes to its end. -/
theorem exists_addDirective (hcloses : loader.Closes names) (hn : nested.Ends loader names n)
    (depth : ℕ) {directive : Directive}
    (hpath : ∀ path ∈ directive.argument?, loader.Lists names path)
    (hroom : p.parts.room names ≤ n) :
    ∃ q, addDirective loader nested depth p directive = some q := by
  cases directive with
  | merge kind argument =>
      rw [addDirective]
      split
      · rename_i path hread
        refine exists_addMerge hcloses hn (hpath _ ?_) hroom kind
        rw [Directive.argument?, hread]
        rfl
      · exact ⟨_, rfl⟩
  | includeOnly =>
      rw [addDirective]
      split
      · exact ⟨_, rfl⟩
      · exact ⟨_, rfl⟩
  | importPaths | unknown => exact ⟨_, rfl⟩

/-- An item comes to its end. -/
theorem exists_addItem (hcloses : loader.Closes names) (hn : nested.Ends loader names n)
    (depth : ℕ) {i : Item} (hpath : ∀ path ∈ i.argument?, loader.Lists names path)
    (hroom : p.parts.room names ≤ n) :
    ∃ q, addItem (addTag loader nested depth) p i = some q := by
  cases i with
  | text run => exact ⟨_, rfl⟩
  | tag kind body =>
      cases kind with
      | code | eval | comment => exact ⟨_, rfl⟩
      | directive | unmarked => exact exists_addDirective hcloses hn depth hpath hroom

/-- Items come to their end, one after the other: none of them makes room. -/
theorem exists_foldlM_addItem (hcloses : loader.Closes names) (hn : nested.Ends loader names n)
    (depth : ℕ) (hext : nested.Extends loader (depth + 1)) {items : List Item}
    (hi : ∀ i ∈ items, i.IsSound)
    (hpath : ∀ path ∈ items.filterMap Item.argument?, loader.Lists names path)
    (hroom : p.parts.room names ≤ n) :
    ∃ q, items.foldlM (addItem (addTag loader nested depth)) p = some q := by
  induction items generalizing p with
  | nil => exact ⟨p, rfl⟩
  | cons i items ih =>
      have hpaths : ∀ j ∈ i :: items, ∀ path ∈ j.argument?, loader.Lists names path :=
        fun j hj path hmem => hpath path (List.mem_filterMap.mpr ⟨j, hj, hmem⟩)
      obtain ⟨q, hq⟩ := exists_addItem hcloses hn depth (hpaths i List.mem_cons_self) hroom
      have hless : q.parts.room names ≤ p.parts.room names :=
        (addItem_extends hext (hi i List.mem_cons_self) hq).room_le
      rw [List.foldlM_cons, hq]
      refine ih (fun j hj => hi j (List.mem_cons_of_mem i hj)) ?_ (hless.trans hroom)
      intro path hmem
      obtain ⟨j, hj, hjpath⟩ := List.mem_filterMap.mp hmem
      exact hpaths j (List.mem_cons_of_mem i hj) path hjpath

/-- **A page comes to its end if the bound on the nesting exceeds its room.** Induction on the
bound: at every depth, the pages one level deeper have less room than the bound that is left. -/
theorem exists_expand (hcloses : loader.Closes names) (fuel : ℕ) :
    ∀ depth, (expand loader fuel depth).Ends loader names fuel := by
  induction fuel with
  | zero => exact fun depth page p hpath hroom => absurd hroom (Nat.not_lt_zero _)
  | succ fuel ih =>
      intro depth page p hpath hroom
      obtain ⟨q, hq⟩ := exists_foldlM_addItem hcloses (ih (depth + 1)) depth
        (expand_extends loader fuel (depth + 1)) (wellFormed_scan page).items hpath
        (Nat.le_of_lt_succ hroom)
      exact ⟨_, by rw [expand, read_eq, hq]; rfl⟩

end

/-! ### The bound does not matter -/

section

variable {loader : Loader} {nested nested' : Effect} {depth : ℕ} {p q : Progress}

/-- Pages that come to their end with one effect do so with the other, in the same way. -/
def Effect.Le (nested nested' : Effect) : Prop :=
  ∀ ⦃page p q⦄, nested page p = some q → nested' page p = some q

/-- The effect of a file, once it is known, is known. -/
theorem mergeFile_mono (hn : nested.Le nested') {kind : MergeKind} {path : String}
    (h : mergeFile loader nested kind path p = some q) :
    mergeFile loader nested' kind path p = some q := by
  rw [mergeFile] at h ⊢
  split at h
  · exact hn h
  · exact h

/-- So is that of a merge directive. -/
theorem addMerge_mono (hn : nested.Le nested') {path : String} {kind : MergeKind}
    (h : addMerge loader nested p path kind = some q) :
    addMerge loader nested' p path kind = some q := by
  cases kind with
  | «include» =>
      rw [addMerge] at h ⊢
      split_ifs at h ⊢ with hbusy
      · exact h
      · obtain ⟨r, hr, hq⟩ := Option.map_eq_some_iff.mp h
        exact Option.map_eq_some_iff.mpr ⟨r, mergeFile_mono hn hr, hq⟩
  | require =>
      rw [addMerge] at h ⊢
      split_ifs at h ⊢ with hdone
      · exact h
      · exact mergeFile_mono hn h

/-- So is that of an item. -/
theorem addItem_mono (hn : nested.Le nested') {i : Item}
    (h : addItem (addTag loader nested depth) p i = some q) :
    addItem (addTag loader nested' depth) p i = some q := by
  have hdirective : ∀ directive, addDirective loader nested depth p directive = some q →
      addDirective loader nested' depth p directive = some q := by
    intro directive h
    cases directive with
    | merge kind argument =>
        rw [addDirective] at h ⊢
        split at h
        · exact addMerge_mono hn h
        · exact h
    | importPaths | includeOnly | unknown => exact h
  cases i with
  | text run => exact h
  | tag kind body =>
      cases kind with
      | code | eval | comment => exact h
      | directive | unmarked => exact hdirective _ h

/-- So is that of items, one after the other. -/
theorem foldlM_addItem_mono (hn : nested.Le nested') {items : List Item}
    (h : items.foldlM (addItem (addTag loader nested depth)) p = some q) :
    items.foldlM (addItem (addTag loader nested' depth)) p = some q := by
  induction items generalizing p with
  | nil => exact h
  | cons i items ih =>
      rw [List.foldlM_cons] at h ⊢
      obtain ⟨r, hr, hrest⟩ := Option.bind_eq_some_iff.mp h
      exact Option.bind_eq_some_iff.mpr ⟨r, addItem_mono hn hr, ih hrest⟩

/-- **A page that comes to its end under a bound has the same effect under every greater one.** -/
theorem expand_mono (loader : Loader) {fuel fuel' : ℕ} (h : fuel ≤ fuel') :
    ∀ depth, (expand loader fuel depth).Le (expand loader fuel' depth) := by
  induction fuel generalizing fuel' with
  | zero => exact fun depth page p q hq => absurd hq (by simp [expand])
  | succ fuel ih =>
      intro depth page p q hq
      cases fuel' with
      | zero => exact absurd h (Nat.not_succ_le_zero fuel)
      | succ fuel' =>
          rw [expand, read_eq] at hq ⊢
          obtain ⟨r, hr, hend⟩ := Option.map_eq_some_iff.mp hq
          have hrest := ih (Nat.le_of_succ_le_succ h) (depth + 1)
          exact Option.map_eq_some_iff.mpr ⟨r, foldlM_addItem_mono hrest hr, hend⟩

end

/-! ### Bounds that are great enough -/

/-- **The bound that `parse` takes is great enough**, at every depth and after anything. Only the
files that the page and the texts of the loader name can take up room. -/
theorem exists_expand_nesting (loader : Loader) (depth : ℕ) (page : List Char) (p : Progress) :
    ∃ q, expand loader (loader.nesting page) depth page p = some q := by
  let paths := arguments page ++ loader.texts.flatMap fun t => arguments t.toList
  have hcloses : loader.Closes paths.toFinset := by
    intro path text hload other hother _ _
    refine List.mem_toFinset.mpr (List.mem_append_right _ ?_)
    exact List.mem_flatMap.mpr ⟨text, loader.mem_texts hload, hother⟩
  have hpage : ∀ path ∈ arguments page, loader.Lists paths.toFinset path :=
    fun _ hpath _ _ => List.mem_toFinset.mpr (List.mem_append_left _ hpath)
  have hroom : p.parts.room paths.toFinset < loader.nesting page := by
    have hcard : paths.toFinset.card ≤ paths.length := List.toFinset_card_le paths
    have hroom := Parts.room_le paths.toFinset p.parts
    have hnesting : loader.nesting page = 2 * paths.length + 1 := rfl
    omega
  exact exists_expand hcloses _ depth page p hpage hroom

/-- What `parse` gives comes out under the bound that it takes. -/
theorem expand_nesting (loader : Loader) (page : String) :
    expand loader (loader.nesting page.toList) 0 page.toList {} = some (parse loader page) := by
  obtain ⟨q, hq⟩ := exists_expand_nesting loader 0 page.toList {}
  rw [parse, hq]
  rfl

/-- **Pages are never nested deeper than twice the number of files that load**, whatever they
merge into each other. A bound that lets `2 * names.card` pages be nested under the page itself is
kept, and what comes out under it is what `parse` gives. -/
theorem expand_of_two_mul_card_lt (loader : Loader) (names : Finset String)
    (h : ∀ path text, loader.load path = .ok text → path ∈ names) (page : String) {fuel : ℕ}
    (hfuel : 2 * names.card < fuel) :
    expand loader fuel 0 page.toList {} = some (parse loader page) := by
  have hlists : ∀ path, loader.Lists names path := h
  have hroom : ({} : Parts).room names < fuel := (Parts.room_le names {}).trans_lt hfuel
  obtain ⟨q, hq⟩ := exists_expand (fun _ _ _ path _ => hlists path) fuel 0 page.toList {}
    (fun path _ => hlists path) hroom
  -- Under the greater of the two bounds the results must agree.
  have hfuel := expand_mono loader (le_max_left fuel (loader.nesting page.toList)) 0 hq
  have hnesting := expand_mono loader (le_max_right fuel (loader.nesting page.toList)) 0
    (expand_nesting loader page)
  rw [hq, ← hfuel, hnesting]

/-- The loader of a single file, which includes and requires itself. -/
def selfMerging : Loader :=
  .ofPairs [("a", "<%!include \"a\"%><%!require \"a\"%>")]

/-- Its two directives nest it under itself, once each. -/
theorem expand_selfMerging :
    (∀ path text, selfMerging.load path = .ok text → path ∈ ({"a"} : Finset String)) ∧
      2 * ({"a"} : Finset String).card < 3 ∧
      expand selfMerging 3 0 "<%!include \"a\"%>".toList {} =
        some (parse selfMerging "<%!include \"a\"%>") := by
  have hnames : ∀ path text, selfMerging.load path = .ok text → path ∈ ({"a"} : Finset String) := by
    intro path text h
    simpa using Loader.mem_of_load_ofPairs h
  exact ⟨hnames, by decide, expand_of_two_mul_card_lt selfMerging {"a"} hnames _ (by decide)⟩

/-- No smaller bound would do. -/
example : expand selfMerging 2 0 "<%!include \"a\"%>".toList {} = none := by
  cbv

/-! ### Pages in the midst of others -/

/-- **A page that is merged into others only adds**, at every depth and after anything that was
collected before. It comes to its end, in the same way under every bound that is great enough. The
inclusions in progress are the same as before, whether files load or not; the fragments so far stay
in front; nothing leaves the sets of imports, of merged files and of required files; a file comes on
record only if it loads; and no page but the one at the top says that the page is only included. -/
theorem expand_only_adds (loader : Loader) (depth : ℕ) (page : List Char) (p : Progress) :
    ∃ q, (∀ fuel, loader.nesting page ≤ fuel → expand loader fuel depth page p = some q) ∧
      q.parts.including = p.parts.including ∧
      p.parts.fragments <+: q.parts.fragments ∧
      p.parts.imports ⊆ q.parts.imports ∧
      p.parts.depends ⊆ q.parts.depends ∧
      p.parts.required ⊆ q.parts.required ∧
      (∀ path ∈ q.parts.depends,
        path ∈ p.parts.depends ∨ ∃ text, loader.load path = .ok text) ∧
      (0 < depth → q.parts.includeOnly = p.parts.includeOnly) := by
  obtain ⟨q, hq⟩ := exists_expand_nesting loader depth page p
  have hadds := expand_extends loader _ depth hq
  obtain ⟨added, hfragments, -⟩ := hadds.fragments
  exact ⟨q, fun fuel hfuel => expand_mono loader hfuel depth hq, hadds.including,
    ⟨added, hfragments.symm⟩, hadds.imports, hadds.depends, hadds.required, hadds.loaded,
    hadds.includeOnly⟩

/-- An inclusion takes its entry back also when its file does not load. -/
example : (expand (.ofPairs []) 1 1 "<%!include \"b\"%>".toList
    { parts := { including := ["a"] } }).map (·.parts) = some { including := ["a"] } := by
  cbv

end LivePages.Page
