import LivePages.Proofs.Except
import LivePages.Proofs.Page.Nesting

/-!
# What Is Merged into a Page

The directives of a page, and those of the pages that they merge into it, are followed one after the
other. `Merges` is the account of this: it lists every merge that takes place, with the files whose
inclusion is in progress then, and leaves out those that are skipped or whose file does not load.
Every page has one account, and it ends in the parts that `parse` gives.

The guards compare the texts of the directives. So no text is required twice, and none is twice on
a chain of inclusions, however the pages are nested: what a merge takes out of the lists, the merges
under it and after it respect.

## Main results

* `addItem_cases`: an item merges a file or does the same whatever pages there are.
* `Merges.unique`, `exists_merges`: every page has one account.
* `Merges.guarded`: no text is required twice, or is twice on a chain.
-/

namespace LivePages.Page

/-! ### Merges -/

/-- The file that a merge directive names, and the way it is merged, if its argument can be read. -/
def Directive.merge? : Directive → Option (MergeKind × String)
  | .merge kind argument =>
    (Text.Quoted.read argument).toOption.map fun path => (kind, String.ofList path)
  | _ => none

/-- The merge that an item asks for. -/
def Item.merge? : Item → Option (MergeKind × String)
  | .tag .directive body | .tag .unmarked body => (Directive.ofBody body).merge?
  | _ => none

namespace MergeKind

/-- A file is merged unless it is being included already, or was required before. -/
def IsDue : MergeKind → String → Parts → Prop
  | .include, path, parts => path ∉ parts.including
  | .require, path, parts => path ∉ parts.required

/-- What is noted before a file is merged. -/
def start : MergeKind → String → Parts → Parts
  | .include, path, parts => (parts.enter path).addDepend path
  | .require, path, parts => (parts.require path).addDepend path

/-- What is taken back when it has been merged. -/
def settle : MergeKind → String → Parts → Parts
  | .include, path, parts => parts.leave path
  | .require, _, parts => parts

end MergeKind

/-- A merge that takes place. -/
structure Merge where
  /-- The way of merging. -/
  kind : MergeKind
  /-- The text that names the file. -/
  path : String
  /-- The files whose inclusion is in progress then, as they are named, innermost first. -/
  chain : List String

/-- The account of the items of a page at a depth: the progress before them, the merges that take
place, and the progress after them. -/
inductive Merges (loader : Loader) : ℕ → List Item → Progress → List Merge → Progress → Prop
  | nil {depth : ℕ} {p : Progress} : Merges loader depth [] p [] p
  /-- No page is merged, whatever the effect of other pages may be. -/
  | skip {depth : ℕ} {i : Item} {items : List Item} {p q r : Progress} {ms : List Merge}
      (h : ∀ nested : Effect, addItem (addTag loader nested depth) p i = some q)
      (rest : Merges loader depth items q ms r) : Merges loader depth (i :: items) p ms r
  /-- A file is loaded, and its items are followed before the others. -/
  | merge {depth : ℕ} {i : Item} {items : List Item} {p q r : Progress} {ms ms' : List Merge}
      {kind : MergeKind} {path text : String} (hi : i.merge? = some (kind, path))
      (hdue : kind.IsDue path p.parts) (hload : loader.load path = .ok text)
      (inside :
        Merges loader (depth + 1) (scan text.toList).items (p.update (kind.start path)) ms q)
      (rest : Merges loader depth items
        ((addTail q (scan text.toList).tail).update (kind.settle path)) ms' r) :
      Merges loader depth (i :: items) p
        (⟨kind, path, (kind.start path p.parts).including⟩ :: (ms ++ ms')) r

/-- The texts that name the files merged by a requirement. -/
def requiredPaths (ms : List Merge) : List String :=
  (ms.filter (·.kind = .require)).map (·.path)

/-! ### The effect of an item -/

section

variable {loader : Loader} {nested : Effect} {depth : ℕ} {p q : Progress} {i : Item}
  {kind : MergeKind} {path text : String}

/-- The effect of a merge that is due. -/
theorem addMerge_of_isDue (hdue : kind.IsDue path p.parts) (hload : loader.load path = .ok text) :
    addMerge loader nested p path kind =
      (nested text.toList (p.update (kind.start path))).map (·.update (kind.settle path)) := by
  cases kind with
  | «include» =>
      have hnot : ¬ p.parts.including.contains path = true := mt List.contains_iff_mem.mp hdue
      rw [addMerge, if_neg hnot, mergeFile, hload]
      rfl
  | require =>
      have hnot : ¬ p.parts.required.contains path = true := mt List.contains_iff_mem.mp hdue
      have hsettle : (fun r : Progress => r.update (MergeKind.require.settle path)) = id := rfl
      rw [addMerge, if_neg hnot, mergeFile, hload, hsettle, Option.map_id]
      rfl

/-- Any other merge has nothing to do with the pages that may be merged. -/
theorem addMerge_eq_of_not_isDue
    (h : ∀ text, loader.load path = .ok text → ¬ kind.IsDue path p.parts) (nested' : Effect) :
    addMerge loader nested p path kind = addMerge loader nested' p path kind := by
  cases hload : loader.load path with
  | error e => cases kind <;> simp only [addMerge, mergeFile, hload]
  | ok text =>
      have hnot := h text hload
      cases kind with
      | «include» =>
          have hmem : p.parts.including.contains path = true :=
            List.contains_iff_mem.mpr (not_not.mp hnot)
          rw [addMerge, if_pos hmem, addMerge, if_pos hmem]
      | require =>
          have hmem : p.parts.required.contains path = true :=
            List.contains_iff_mem.mpr (not_not.mp hnot)
          rw [addMerge, if_pos hmem, addMerge, if_pos hmem]

/-- A directive that asks for a merge has its effect. -/
theorem addDirective_of_merge? {directive : Directive}
    (h : directive.merge? = some (kind, path)) :
    addDirective loader nested depth p directive = addMerge loader nested p path kind := by
  cases directive with
  | merge kind' argument =>
      obtain ⟨path', hread, heq⟩ := Option.map_eq_some_iff.mp h
      obtain ⟨rfl, rfl⟩ := Prod.mk.inj heq
      simp only [addDirective, eq_ok_of_mem_toOption hread]
  | importPaths | includeOnly | unknown => exact absurd h (by simp [Directive.merge?])

/-- No other directive has to do with the pages that may be merged. -/
theorem addDirective_eq_of_merge?_eq_none {directive : Directive} (h : directive.merge? = none)
    (nested' : Effect) :
    addDirective loader nested depth p directive =
      addDirective loader nested' depth p directive := by
  cases directive with
  | merge kind argument =>
      have hread := Option.map_eq_none_iff.mp h
      cases hargument : Text.Quoted.read argument with
      | error e => simp only [addDirective, hargument]
      | ok path => exact absurd hread (by simp [hargument, Except.toOption])
  | importPaths | includeOnly | unknown => rfl

/-- An item that asks for a merge has its effect. -/
theorem addItem_of_merge? (h : i.merge? = some (kind, path)) :
    addItem (addTag loader nested depth) p i = addMerge loader nested p path kind := by
  cases i with
  | text run => exact absurd h (by simp [Item.merge?])
  | tag tagKind body =>
      cases tagKind with
      | code | eval | comment => exact absurd h (by simp [Item.merge?])
      | directive | unmarked => exact addDirective_of_merge? h

/-- No other item has to do with the pages that may be merged. -/
theorem addItem_eq_of_merge?_eq_none (h : i.merge? = none) (nested' : Effect) :
    addItem (addTag loader nested depth) p i = addItem (addTag loader nested' depth) p i := by
  cases i with
  | text run => rfl
  | tag tagKind body =>
      cases tagKind with
      | code | eval | comment => rfl
      | directive | unmarked => exact addDirective_eq_of_merge?_eq_none h nested'

/-- **The step.** An item merges a file, or has nothing to do with the pages that may be merged. -/
theorem addItem_cases (h : addItem (addTag loader nested depth) p i = some q) :
    (∃ kind path text r, i.merge? = some (kind, path) ∧ kind.IsDue path p.parts ∧
      loader.load path = .ok text ∧ nested text.toList (p.update (kind.start path)) = some r ∧
      q = r.update (kind.settle path)) ∨
    ∀ nested' : Effect, addItem (addTag loader nested' depth) p i = some q := by
  cases hmerge : i.merge? with
  | none => exact .inr fun nested' => (addItem_eq_of_merge?_eq_none hmerge nested).trans h
  | some asked =>
      obtain ⟨kind, path⟩ := asked
      rw [addItem_of_merge? hmerge] at h
      by_cases hdue : ∃ text, loader.load path = .ok text ∧ kind.IsDue path p.parts
      · obtain ⟨text, hload, hdue⟩ := hdue
        rw [addMerge_of_isDue hdue hload] at h
        obtain ⟨r, hr, rfl⟩ := Option.map_eq_some_iff.mp h
        exact .inl ⟨kind, path, text, r, rfl, hdue, hload, hr, rfl⟩
      · refine .inr fun nested' => ?_
        rw [addItem_of_merge? hmerge, ← h]
        exact addMerge_eq_of_not_isDue (fun text hload hd => hdue ⟨text, hload, hd⟩) nested

/-- An item that merges no file takes nothing off the lists of files. -/
theorem extends_of_skip (h : ∀ nested : Effect, addItem (addTag loader nested depth) p i = some q) :
    q.parts.including = p.parts.including ∧ p.parts.required ⊆ q.parts.required ∧
      p.parts.depends ⊆ q.parts.depends := by
  -- whatever it does, it does also if no page can be merged
  have hnone : Effect.Extends (fun _ _ => none) loader (depth + 1) :=
    fun _ _ _ hnot => absurd hnot (by simp)
  cases i with
  | text run =>
      obtain rfl := Option.some.inj (h fun _ _ => none)
      exact ⟨rfl, List.Subset.refl _, List.Subset.refl _⟩
  | tag kind body =>
      have hext := addTag_extends hnone (h fun _ _ => none)
      exact ⟨hext.including, hext.required, hext.depends⟩

end

/-! ### The account of a page -/

section

variable {loader : Loader} {depth : ℕ} {items : List Item} {p q q' : Progress}
  {ms ms' : List Merge}

/-- **A page has one account.** -/
theorem Merges.unique (h : Merges loader depth items p ms q)
    (h' : Merges loader depth items p ms' q') : ms = ms' ∧ q = q' := by
  induction h generalizing ms' q' with
  | nil =>
      cases h'
      exact ⟨rfl, rfl⟩
  | skip h rest ih =>
      cases h' with
      | skip h' rest' =>
          obtain rfl := Option.some.inj ((h fun _ _ => none).symm.trans (h' fun _ _ => none))
          exact ih rest'
      | merge hi hdue hload inside rest' =>
          have hnone := h fun _ _ => none
          rw [addItem_of_merge? hi, addMerge_of_isDue hdue hload] at hnone
          exact absurd hnone (by simp)
  | merge hi hdue hload inside rest ihinside ihrest =>
      cases h' with
      | skip h' rest' =>
          have hnone := h' fun _ _ => none
          rw [addItem_of_merge? hi, addMerge_of_isDue hdue hload] at hnone
          exact absurd hnone (by simp)
      | merge hi' hdue' hload' inside' rest' =>
          obtain ⟨rfl, rfl⟩ := Prod.mk.inj (Option.some.inj (hi.symm.trans hi'))
          obtain rfl := Except.ok.inj (hload.symm.trans hload')
          obtain ⟨rfl, rfl⟩ := ihinside inside'
          obtain ⟨rfl, rfl⟩ := ihrest rest'
          exact ⟨rfl, rfl⟩

/-- The pages one level deeper have accounts. -/
def Effect.HasAccounts (nested : Effect) (loader : Loader) (depth : ℕ) : Prop :=
  ∀ ⦃page p q⦄, nested page p = some q → ∃ ms r,
    Merges loader depth (scan page).items p ms r ∧ q = addTail r (scan page).tail

/-- Items have an account if the pages one level deeper have theirs. -/
theorem exists_merges_of_hasAccounts {nested : Effect}
    (hn : nested.HasAccounts loader (depth + 1))
    (h : items.foldlM (addItem (addTag loader nested depth)) p = some q) :
    ∃ ms, Merges loader depth items p ms q := by
  induction items generalizing p with
  | nil =>
      obtain rfl := Option.some.inj h
      exact ⟨[], .nil⟩
  | cons i items ih =>
      rw [List.foldlM_cons] at h
      obtain ⟨r, hr, hrest⟩ := Option.bind_eq_some_iff.mp h
      obtain ⟨ms, hms⟩ := ih hrest
      rcases addItem_cases hr with ⟨kind, path, text, r', hi, hdue, hload, hnested, rfl⟩ | hskip
      · obtain ⟨inner, r, hinner, rfl⟩ := hn hnested
        exact ⟨_, .merge hi hdue hload hinner hms⟩
      · exact ⟨ms, .skip hskip hms⟩

/-- Pages have accounts at every depth. Induction on the bound on the nesting. -/
theorem expand_hasAccounts (loader : Loader) (fuel : ℕ) :
    ∀ depth, (expand loader fuel depth).HasAccounts loader depth := by
  induction fuel with
  | zero => exact fun depth page p q h => absurd h (by simp [expand])
  | succ fuel ih =>
      intro depth page p q h
      rw [expand, read_eq] at h
      obtain ⟨r, hr, rfl⟩ := Option.map_eq_some_iff.mp h
      obtain ⟨ms, hms⟩ := exists_merges_of_hasAccounts (ih (depth + 1)) hr
      exact ⟨ms, r, hms, rfl⟩

/-- **Every page has an account**, which ends in what the page is put together to. -/
theorem exists_merges (loader : Loader) (page : String) : ∃ ms q,
    Merges loader 0 (scan page.toList).items {} ms q ∧
      parse loader page = addTail q (scan page.toList).tail :=
  expand_hasAccounts loader _ 0 (expand_nesting loader page)

/-! ### What the guards keep apart -/

/-- What holds of the account of items. -/
structure Merges.Guarded (loader : Loader) (p q : Parts) (ms : List Merge) : Prop where
  /-- The same inclusions are in progress afterwards. -/
  including : q.including = p.including
  /-- What was required stays required. -/
  kept : p.required ⊆ q.required
  /-- What is merged by a requirement was not required before, and is afterwards. -/
  required : ∀ path ∈ requiredPaths ms, path ∉ p.required ∧ path ∈ q.required
  /-- No text is required twice. -/
  nodup : (requiredPaths ms).Nodup
  /-- No text is twice on a chain. -/
  chain : p.including.Nodup → ∀ m ∈ ms, m.chain.Nodup
  /-- Every file has been loaded. -/
  loaded : ∀ m ∈ ms, ∃ text, loader.load m.path = .ok text

theorem requiredPaths_append (ms ms' : List Merge) :
    requiredPaths (ms ++ ms') = requiredPaths ms ++ requiredPaths ms' := by
  rw [requiredPaths, List.filter_append, List.map_append]
  rfl

/-- One account after the other. -/
theorem Merges.Guarded.append {p q r : Parts} (h : Merges.Guarded loader p q ms)
    (h' : Merges.Guarded loader q r ms') : Merges.Guarded loader p r (ms ++ ms') where
  including := h'.including.trans h.including
  kept := List.Subset.trans h.kept h'.kept
  required path hpath := by
    rw [requiredPaths_append] at hpath
    rcases List.mem_append.mp hpath with hpath | hpath
    · exact ⟨(h.required path hpath).1, h'.kept (h.required path hpath).2⟩
    · exact ⟨fun hmem => (h'.required path hpath).1 (h.kept hmem), (h'.required path hpath).2⟩
  nodup := by
    rw [requiredPaths_append]
    refine List.nodup_append.mpr ⟨h.nodup, h'.nodup, ?_⟩
    rintro path hpath other hother rfl
    exact (h'.required path hother).1 (h.required path hpath).2
  chain hp m hm := by
    rcases List.mem_append.mp hm with hm | hm
    · exact h.chain hp m hm
    · exact h'.chain (h.including ▸ hp) m hm
  loaded m hm := (List.mem_append.mp hm).elim (h.loaded m) (h'.loaded m)

/-- A merge that is due, and what is merged under it. -/
theorem Merges.Guarded.merge {p q : Parts} {kind : MergeKind} {path text : String}
    (hdue : kind.IsDue path p) (hload : loader.load path = .ok text)
    (h : Merges.Guarded loader (kind.start path p) q ms) :
    Merges.Guarded loader p (kind.settle path q)
      (⟨kind, path, (kind.start path p).including⟩ :: ms) := by
  cases kind with
  | «include» =>
      exact {
        including := by
          have hinside : q.including = path :: p.including := h.including
          rw [MergeKind.settle, Parts.leave, hinside]
          exact List.erase_cons_head path p.including
        kept := h.kept
        required := h.required
        nodup := h.nodup
        chain := fun hp => List.forall_mem_cons.mpr
          ⟨List.nodup_cons.mpr ⟨hdue, hp⟩, h.chain (List.nodup_cons.mpr ⟨hdue, hp⟩)⟩
        loaded := List.forall_mem_cons.mpr ⟨⟨text, hload⟩, h.loaded⟩ }
  | require =>
      have hnew : ∀ other ∈ requiredPaths ms, other ∉ path :: p.required ∧ other ∈ q.required :=
        h.required
      exact {
        including := h.including
        kept := fun other hother => h.kept (List.mem_cons_of_mem path hother)
        required := List.forall_mem_cons.mpr ⟨⟨hdue, h.kept List.mem_cons_self⟩,
          fun other hother => ⟨fun hmem => (hnew other hother).1 (List.mem_cons_of_mem path hmem),
            (hnew other hother).2⟩⟩
        nodup := List.nodup_cons.mpr
          ⟨fun hmem => (hnew path hmem).1 List.mem_cons_self, h.nodup⟩
        chain := fun hp => List.forall_mem_cons.mpr ⟨hp, h.chain hp⟩
        loaded := List.forall_mem_cons.mpr ⟨⟨text, hload⟩, h.loaded⟩ }

/-- Where nothing is merged, the guards have nothing to keep apart. -/
theorem Merges.Guarded.of_skip {p q : Parts} (hincluding : q.including = p.including)
    (hrequired : p.required ⊆ q.required) : Merges.Guarded loader p q [] where
  including := hincluding
  kept := hrequired
  required := List.forall_mem_nil _
  nodup := List.nodup_nil
  chain _ := List.forall_mem_nil _
  loaded := List.forall_mem_nil _

/-- **No text is required twice, and none is twice on a chain.** Induction on the account. -/
theorem Merges.guarded (h : Merges loader depth items p ms q) :
    Merges.Guarded loader p.parts q.parts ms := by
  induction h with
  | nil => exact .of_skip rfl (List.Subset.refl _)
  | skip h rest ih =>
      obtain ⟨hincluding, hrequired, -⟩ := extends_of_skip h
      exact (Merges.Guarded.of_skip hincluding hrequired).append ih
  | merge hi hdue hload inside rest ihinside ihrest =>
      rw [Progress.update, parts_addTail] at ihrest
      exact (Merges.Guarded.merge hdue hload ihinside).append ihrest

end

end LivePages.Page
