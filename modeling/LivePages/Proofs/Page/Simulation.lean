import LivePages.Proofs.Page.Merging

/-!
# Pages That Are Put Together Alike

What a page comes to depends on the loader, on what has been collected before, and on nothing else.
Two runs over the same items, with loaders of their own and after different beginnings, go in
lockstep if their parts are related in a way that the guards respect: what is due for one run and
loads is due for the other and has the same text, and what one run passes over the other passes over
as well. Then both have the same account, and their parts are related at the end.

`Simulation` says what such a relation has to respect, one operation at a time. A relation is shown
to be one without any induction over pages; the induction is done once, over the account of one of
the runs. With one loader it is enough that the guards pass the same files, `Parts.SameGuards`, and
that what is collected is related in a way that has nothing to do with guards.

## Main results

* `exists_account`, `expanded_eq`: every page has an account at every depth and after anything, and
  it is put together as its account says.
* `Merges.append`: accounts of items that follow each other.
* `Merges.simulate`: related parts stay related.
* `Simulation.of_sameGuards`: simulations with one loader.
-/

namespace LivePages.Page

/-! ### Pages after what was collected before them -/

section

variable {loader : Loader} {depth : ℕ} {p q r : Progress} {ms ms' : List Merge}

/-- What a page comes to at a depth, after what has been collected before it. -/
def expanded (loader : Loader) (depth : ℕ) (page : List Char) (p : Progress) : Progress :=
  (expand loader (loader.nesting page) depth page p).getD p

/-- **Every page has an account**, at every depth and after anything. -/
theorem exists_account (loader : Loader) (depth : ℕ) (page : List Char) (p : Progress) :
    ∃ ms q, Merges loader depth (scan page).items p ms q ∧
      expanded loader depth page p = addTail q (scan page).tail := by
  obtain ⟨q, hq⟩ := exists_expand_nesting loader depth page p
  obtain ⟨ms, r, hms, rfl⟩ := expand_hasAccounts loader _ depth hq
  exact ⟨ms, r, hms, by rw [expanded, hq]; rfl⟩

/-- A page is put together as its account says. -/
theorem expanded_eq {page : List Char} (h : Merges loader depth (scan page).items p ms q) :
    expanded loader depth page p = addTail q (scan page).tail := by
  obtain ⟨ms', q', hms', heq⟩ := exists_account loader depth page p
  rw [heq, (h.unique hms').2]

/-- So is a page at the top. -/
theorem parse_eq {page : String} (h : Merges loader 0 (scan page.toList).items {} ms q) :
    parse loader page = addTail q (scan page.toList).tail :=
  expanded_eq h

/-- Items that follow each other have their accounts one after the other. -/
theorem Merges.append {items items' : List Item} (h : Merges loader depth items p ms q)
    (h' : Merges loader depth items' q ms' r) :
    Merges loader depth (items ++ items') p (ms ++ ms') r := by
  induction h with
  | nil => exact h'
  | skip h rest ih => exact .skip h (ih h')
  | @merge _ _ items _ _ _ _ ms₂ _ _ _ hi hdue hload inside rest _ ih =>
      have hrest := Merges.merge hi hdue hload inside (ih h')
      rwa [← List.append_assoc] at hrest

end

/-! ### Merges that are passed over -/

section

variable {loader : Loader} {depth : ℕ} {p q : Progress} {kind : MergeKind} {path : String}

/-- A merge takes place: it is due, and the file loads. -/
def MergeKind.Takes (kind : MergeKind) (loader : Loader) (path : String) (parts : Parts) : Prop :=
  kind.IsDue path parts ∧ ∃ text, loader.load path = .ok text

/-- What a merge that does not take place leaves: a file counts as required even if it does not
load. -/
def MergeKind.pass : MergeKind → String → Parts → Parts
  | .include, _, parts => parts
  | .require, path, parts => if path ∈ parts.required then parts else parts.require path

/-- A file that does not load has no effect but that something is reported. -/
theorem exists_mergeFile_of_not_loads (h : ¬ ∃ text, loader.load path = .ok text)
    (kind : MergeKind) (p : Progress) : ∃ q, q.parts = p.parts ∧
      ∀ nested, mergeFile loader nested kind path p = some q := by
  cases hload : loader.load path with
  | ok text => exact absurd ⟨text, hload⟩ h
  | error e => exact ⟨p.report (.mergeFailed kind path e.message), rfl, fun _ => by
      rw [mergeFile, hload]⟩

/-- A merge that does not take place has to do with no other page. -/
theorem exists_addMerge_of_not_takes (h : ¬ kind.Takes loader path p.parts) :
    ∃ q, q.parts = kind.pass path p.parts ∧
      ∀ nested, addMerge loader nested p path kind = some q := by
  have hfails (hdue : kind.IsDue path p.parts) : ¬ ∃ text, loader.load path = .ok text :=
    fun hloads => h ⟨hdue, hloads⟩
  cases kind with
  | «include» =>
      by_cases hbusy : p.parts.including.contains path = true
      · exact ⟨p.report (.cyclicInclude path), rfl, fun _ => by rw [addMerge, if_pos hbusy]⟩
      · obtain ⟨q, hq, hmerge⟩ := exists_mergeFile_of_not_loads
          (hfails (mt List.contains_iff_mem.mpr hbusy)) .include (p.update (·.enter path))
        refine ⟨q.update (·.leave path), ?_, fun nested => ?_⟩
        · -- the entry that the inclusion has made is the one that is taken back
          have hleave : (p.parts.enter path).leave path = p.parts := by
            rw [Parts.leave, Parts.enter, List.erase_cons_head]
          rw [Progress.update, hq]
          exact hleave
        · rw [addMerge, if_neg hbusy, hmerge]
          rfl
  | require =>
      by_cases hdone : p.parts.required.contains path = true
      · refine ⟨p.report (.alreadyRequired path), ?_, fun _ => by rw [addMerge, if_pos hdone]⟩
        rw [MergeKind.pass, if_pos (List.contains_iff_mem.mp hdone)]
        rfl
      · have hnot : path ∉ p.parts.required := mt List.contains_iff_mem.mpr hdone
        obtain ⟨q, hq, hmerge⟩ := exists_mergeFile_of_not_loads (hfails hnot) .require
          (p.update (·.require path))
        refine ⟨q, ?_, fun nested => by rw [addMerge, if_neg hdone, hmerge]⟩
        rw [hq, MergeKind.pass, if_neg hnot]
        rfl

/-- An item that merges no file, whatever pages there are, asks for no merge that takes place. -/
theorem not_takes_of_skip {i : Item} (hi : i.merge? = some (kind, path))
    (h : ∀ nested : Effect, addItem (addTag loader nested depth) p i = some q) :
    ¬ kind.Takes loader path p.parts := by
  rintro ⟨hdue, text, hload⟩
  have hnone := h fun _ _ => none
  rw [addItem_of_merge? hi, addMerge_of_isDue hdue hload] at hnone
  exact absurd hnone (by simp)

end

/-! ### Simulations -/

/-- A relation between the parts of two runs, each with a loader of its own, that all operations
respect as long as the first run merges only files that are served. -/
structure Simulation (loader loader' : Loader) (served : String → Prop)
    (R : Parts → Parts → Prop) : Prop where
  /-- The same inclusions are in progress. -/
  including : ∀ {p q}, R p q → p.including = q.including
  /-- A fragment is pushed. -/
  push : ∀ {p q} f, R p q → R (p.push f) (q.push f)
  /-- A path is imported. -/
  addImport : ∀ {p q} path, R p q → R (p.addImport path) (q.addImport path)
  /-- The page marks itself as one that is only included. -/
  mark : ∀ {p q}, R p q → R { p with includeOnly := true } { q with includeOnly := true }
  /-- A merge of a file that is served takes place in both runs, with the same text. -/
  start : ∀ {p q} {kind : MergeKind} {path text}, R p q → served path → kind.IsDue path p →
    loader.load path = .ok text →
      kind.IsDue path q ∧ loader'.load path = .ok text ∧ R (kind.start path p) (kind.start path q)
  /-- A merge ends. -/
  settle : ∀ {p q} (kind : MergeKind) path, R p q → R (kind.settle path p) (kind.settle path q)
  /-- A merge that does not take place in the first run takes place in none. -/
  pass : ∀ {p q} {kind : MergeKind} {path}, R p q → ¬ kind.Takes loader path p →
    ¬ kind.Takes loader' path q ∧ R (kind.pass path p) (kind.pass path q)

section

variable {loader loader' : Loader} {served : String → Prop} {R : Parts → Parts → Prop}
  {depth : ℕ} {p p' q : Progress} {items : List Item} {ms : List Merge}

/-- A list of imports keeps the runs related. -/
theorem Simulation.foldl_addImport (hsim : Simulation loader loader' served R)
    (items : List (List Char)) (hp : R p.parts p'.parts) :
    R (items.foldl Progress.addImport p).parts (items.foldl Progress.addImport p').parts := by
  induction items generalizing p p' with
  | nil => exact hp
  | cons item items ih =>
      have hitem : R (p.addImport item).parts (p'.addImport item).parts := by
        rw [Progress.addImport, Progress.addImport]
        split
        · exact hsim.addImport _ hp
        · exact hp
      exact ih hitem

/-- So does a directive that asks for no merge. -/
theorem Simulation.addDirective (hsim : Simulation loader loader' served R)
    {directive : Directive} (hnone : directive.merge? = none) (hp : R p.parts p'.parts)
    (h : ∀ nested : Effect, addDirective loader nested depth p directive = some q) :
    ∃ q', R q.parts q'.parts ∧
      ∀ nested : Effect, addDirective loader' nested depth p' directive = some q' := by
  have hq := h fun _ _ => none
  cases directive with
  | importPaths list =>
      obtain rfl := Option.some.inj hq
      exact ⟨_, hsim.foldl_addImport (importItems list) hp, fun _ => rfl⟩
  | merge kind argument =>
      cases hread : Text.Quoted.read argument with
      | ok path => simp [Directive.merge?, hread, Except.toOption] at hnone
      | error e =>
          simp only [Page.addDirective, hread, Option.some.injEq] at hq ⊢
          subst hq
          exact ⟨p'.report (.badArgument kind (String.ofList argument) e), hp, fun _ => rfl⟩
  | includeOnly =>
      by_cases hdepth : depth = 0
      · simp only [Page.addDirective, if_pos hdepth, Option.some.injEq] at hq ⊢
        subst hq
        exact ⟨p'.update fun parts => { parts with includeOnly := true }, hsim.mark hp,
          fun _ => rfl⟩
      · simp only [Page.addDirective, if_neg hdepth, Option.some.injEq] at hq ⊢
        subst hq
        exact ⟨p'.report .nestedIncludeOnly, hp, fun _ => rfl⟩
  | unknown word =>
      obtain rfl := Option.some.inj hq
      exact ⟨p'.report (.unknownDirective word), hp, fun _ => rfl⟩

/-- **The step.** An item that merges no file in one run merges none in the other, and keeps the
runs related. -/
theorem Simulation.skip (hsim : Simulation loader loader' served R) {i : Item}
    (hp : R p.parts p'.parts)
    (h : ∀ nested : Effect, addItem (addTag loader nested depth) p i = some q) :
    ∃ q', R q.parts q'.parts ∧
      ∀ nested : Effect, addItem (addTag loader' nested depth) p' i = some q' := by
  cases hmerge : i.merge? with
  | some asked =>
      obtain ⟨kind, path⟩ := asked
      have hnot := not_takes_of_skip hmerge h
      obtain ⟨hnot', hpass⟩ := hsim.pass hp hnot
      obtain ⟨r, hr, hadd⟩ := exists_addMerge_of_not_takes hnot
      obtain ⟨q', hq', hadd'⟩ := exists_addMerge_of_not_takes hnot'
      have hq : q = r := by
        have hnone := h fun _ _ => none
        rw [addItem_of_merge? hmerge, hadd] at hnone
        exact (Option.some.inj hnone).symm
      refine ⟨q', ?_, fun nested => by rw [addItem_of_merge? hmerge, hadd']⟩
      rw [hq, hr, hq']
      exact hpass
  | none =>
      have hq := h fun _ _ => none
      cases i with
      | text run =>
          obtain rfl := Option.some.inj hq
          exact ⟨p'.update (·.push _), hsim.push _ hp, fun _ => rfl⟩
      | tag kind body =>
          cases kind with
          | code =>
              obtain rfl := Option.some.inj hq
              exact ⟨p'.update (·.pushCode body), hsim.push _ hp, fun _ => rfl⟩
          | eval =>
              obtain rfl := Option.some.inj hq
              exact ⟨p'.update (·.pushEval body), hsim.push _ hp, fun _ => rfl⟩
          | comment =>
              obtain rfl := Option.some.inj hq
              exact ⟨_, hp, fun _ => rfl⟩
          | directive | unmarked => exact hsim.addDirective hmerge hp h

/-- **Related parts stay related**, and both runs have the same account. Induction on the account of
the first run. -/
theorem Merges.simulate (hsim : Simulation loader loader' served R)
    (h : Merges loader depth items p ms q) (hserved : ∀ m ∈ ms, served m.path)
    (hp : R p.parts p'.parts) :
    ∃ q', Merges loader' depth items p' ms q' ∧ R q.parts q'.parts := by
  induction h generalizing p' with
  | nil => exact ⟨p', .nil, hp⟩
  | skip h rest ih =>
      obtain ⟨q', hq, h'⟩ := hsim.skip hp h
      obtain ⟨r', hrest, hr⟩ := ih hserved hq
      exact ⟨r', .skip h' hrest, hr⟩
  | @merge _ _ _ p q _ _ _ kind path text hi hdue hload inside rest ihinside ihrest =>
      have hfirst : served path := hserved _ List.mem_cons_self
      have hothers := (List.forall_mem_cons.mp hserved).2
      obtain ⟨hdue', hload', hstart⟩ := hsim.start hp hfirst hdue hload
      have hinner : R (p.update (kind.start path)).parts (p'.update (kind.start path)).parts :=
        hstart
      obtain ⟨q', hinside, hq⟩ :=
        ihinside (fun m hm => hothers m (List.mem_append_left _ hm)) hinner
      have hsettled : R ((addTail q (scan text.toList).tail).update (kind.settle path)).parts
          ((addTail q' (scan text.toList).tail).update (kind.settle path)).parts := by
        rw [Progress.update, Progress.update, parts_addTail, parts_addTail]
        exact hsim.settle kind path hq
      obtain ⟨r', hrest, hr⟩ := ihrest (fun m hm => hothers m (List.mem_append_right _ hm)) hsettled
      refine ⟨r', ?_, hr⟩
      have hchain : (kind.start path p.parts).including = (kind.start path p'.parts).including :=
        hsim.including hstart
      rw [hchain]
      exact .merge hi hdue' hload' hinside hrest

end

/-! ### Guards that pass the same files -/

/-- Parts whose guards pass the same files: the same inclusions are in progress, and the files that
load are required of both or of none. -/
structure Parts.SameGuards (loader : Loader) (p q : Parts) : Prop where
  /-- The inclusions in progress. -/
  including : p.including = q.including
  /-- The required files, as far as they load. -/
  required : ∀ path text, loader.load path = .ok text → (path ∈ p.required ↔ path ∈ q.required)

/-- A relation between what is collected, respected by all that adds to it, that has nothing to do
with the guards. -/
structure Parts.IsCongruence (R : Parts → Parts → Prop) : Prop where
  /-- A fragment is pushed. -/
  push : ∀ {p q} f, R p q → R (p.push f) (q.push f)
  /-- A path is imported. -/
  addImport : ∀ {p q} path, R p q → R (p.addImport path) (q.addImport path)
  /-- A file comes on record. -/
  addDepend : ∀ {p q} path, R p q → R (p.addDepend path) (q.addDepend path)
  /-- The page marks itself as one that is only included. -/
  mark : ∀ {p q}, R p q → R { p with includeOnly := true } { q with includeOnly := true }
  /-- The guards change. -/
  guards : ∀ {p q} i i' r r', R p q →
    R { p with including := i, required := r } { q with including := i', required := r' }

/-- A merge that is passed over changes a guard at most. -/
theorem MergeKind.exists_pass_eq (kind : MergeKind) (path : String) (p : Parts) :
    ∃ required, kind.pass path p = { p with required } := by
  cases kind with
  | «include» => exact ⟨p.required, rfl⟩
  | require =>
      rw [pass]
      split
      · exact ⟨p.required, rfl⟩
      · exact ⟨path :: p.required, rfl⟩

namespace Parts.SameGuards

variable {loader : Loader} {p q r : Parts} {kind : MergeKind} {path : String}

theorem refl (loader : Loader) (p : Parts) : p.SameGuards loader p :=
  ⟨rfl, fun _ _ _ => Iff.rfl⟩

theorem symm (h : p.SameGuards loader q) : q.SameGuards loader p :=
  ⟨h.including.symm, fun path text hload => (h.required path text hload).symm⟩

theorem trans (h : p.SameGuards loader q) (h' : q.SameGuards loader r) : p.SameGuards loader r :=
  ⟨h.including.trans h'.including,
    fun path text hload => (h.required path text hload).trans (h'.required path text hload)⟩

/-- What is due for one of them and loads is due for the other. -/
theorem isDue (h : p.SameGuards loader q) {text : String} (hload : loader.load path = .ok text)
    (hdue : kind.IsDue path p) : kind.IsDue path q := by
  cases kind with
  | «include» =>
      rw [MergeKind.IsDue, ← h.including]
      exact hdue
  | require => exact mt (h.required path text hload).mpr hdue

/-- A merge starts. -/
theorem start (h : p.SameGuards loader q) (kind : MergeKind) (path : String) :
    (kind.start path p).SameGuards loader (kind.start path q) := by
  cases kind with
  | «include» => exact ⟨congrArg (path :: ·) h.including, h.required⟩
  | require =>
      refine ⟨h.including, fun other text hload => ?_⟩
      have hother := h.required other text hload
      rw [MergeKind.start, MergeKind.start, Parts.addDepend, Parts.addDepend, Parts.require,
        Parts.require, List.mem_cons, List.mem_cons, hother]

/-- A merge ends. -/
theorem settle (h : p.SameGuards loader q) (kind : MergeKind) (path : String) :
    (kind.settle path p).SameGuards loader (kind.settle path q) := by
  cases kind with
  | «include» => exact ⟨congrArg (List.erase · path) h.including, h.required⟩
  | require => exact h

/-- A file that does not load may be required of one of them only. -/
theorem pass_of_not_loads (kind : MergeKind) (p : Parts)
    (h : ¬ ∃ text, loader.load path = .ok text) : p.SameGuards loader (kind.pass path p) := by
  cases kind with
  | «include» => exact refl loader p
  | require =>
      rw [MergeKind.pass]
      split
      · exact refl loader p
      · refine ⟨rfl, fun other text hload => ?_⟩
        have hne : other ≠ path := by
          rintro rfl
          exact h ⟨text, hload⟩
        rw [Parts.require, List.mem_cons, or_iff_right hne]

/-- A merge is passed over. If its file loads, it was due for neither. -/
theorem pass (h : p.SameGuards loader q) (hnot : ¬ kind.Takes loader path p) :
    (kind.pass path p).SameGuards loader (kind.pass path q) := by
  by_cases hloads : ∃ text, loader.load path = .ok text
  · obtain ⟨text, hload⟩ := hloads
    have hdone : ¬ kind.IsDue path p := fun hdue => hnot ⟨hdue, text, hload⟩
    have hdone' : ¬ kind.IsDue path q := fun hdue => hdone (h.symm.isDue hload hdue)
    cases kind with
    | «include» => exact h
    | require =>
        rw [MergeKind.pass, if_pos (not_not.mp hdone), MergeKind.pass, if_pos (not_not.mp hdone')]
        exact h
  · exact ((pass_of_not_loads kind p hloads).symm.trans h).trans (pass_of_not_loads kind q hloads)

end Parts.SameGuards

/-- **With one loader, runs stay related if their guards pass the same files** and what they have
collected is related. -/
theorem Simulation.of_sameGuards (loader : Loader) {R : Parts → Parts → Prop}
    (hR : Parts.IsCongruence R) :
    Simulation loader loader (fun _ => True) fun p q => p.SameGuards loader q ∧ R p q where
  including h := h.1.including
  push f h := ⟨⟨h.1.including, h.1.required⟩, hR.push f h.2⟩
  addImport path h := ⟨⟨h.1.including, h.1.required⟩, hR.addImport path h.2⟩
  mark h := ⟨⟨h.1.including, h.1.required⟩, hR.mark h.2⟩
  start {_ _ kind path _} h _ hdue hload := by
    refine ⟨h.1.isDue hload hdue, hload, h.1.start kind path, ?_⟩
    cases kind <;> exact hR.addDepend path (hR.guards _ _ _ _ h.2)
  settle kind path h := by
    refine ⟨h.1.settle kind path, ?_⟩
    cases kind with
    | «include» => exact hR.guards _ _ _ _ h.2
    | require => exact h.2
  pass {p q kind path} h hnot := by
    refine ⟨fun ⟨hdue, text, hload⟩ => hnot ⟨h.1.symm.isDue hload hdue, text, hload⟩,
      h.1.pass hnot, ?_⟩
    obtain ⟨required, hp⟩ := kind.exists_pass_eq path p
    obtain ⟨required', hq⟩ := kind.exists_pass_eq path q
    rw [hp, hq]
    exact hR.guards p.including q.including required required' h.2

end LivePages.Page
