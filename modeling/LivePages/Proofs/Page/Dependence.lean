import LivePages.Proofs.Page.Commands
import LivePages.Proofs.Page.Printing

/-!
# What a Page Depends On

The files on record as merged are all that a page depends on. A loader that has only these gives the
same page, whatever else the page has asked for: what was not merged was skipped or did not load,
and is skipped or does not load again.

A directive that cannot be followed is as good as a remark. It may leave a file among those that are
required, though it could not be loaded. But such a file cannot be loaded later either, so the two
pages agree on all files that matter.

Both are simulations: by equality of the parts, and by equality of what has been collected while the
guards pass the same files.

## Main results

* `Merges.mem_depends`: every merge comes on record.
* `parse_of_serves`: the files on record are enough.
* `parse_isBad`: a directive that cannot be followed is as good as a remark.
-/

namespace LivePages.Page

/-! ### The files on record -/

/-- The loader has the texts of these files, and no other. -/
structure Loader.Serves (loader' loader : Loader) (paths : List String) : Prop where
  /-- These files are as they are for the other loader. -/
  same : ∀ path ∈ paths, loader'.load path = loader.load path
  /-- No other file loads. -/
  fails : ∀ path ∉ paths, ∃ e, loader'.load path = .error e

/-- The loader with no files but these. -/
def Loader.only (loader : Loader) (paths : List String) : Loader where
  load path := if path ∈ paths then loader.load path else .error (.unknown path)
  texts := loader.texts
  mem_texts := by
    intro path text h
    split at h
    · exact loader.mem_texts h
    · cases h

theorem Loader.serves_only (loader : Loader) (paths : List String) :
    (loader.only paths).Serves loader paths where
  same _ hpath := if_pos hpath
  fails path hpath := ⟨.unknown path, if_neg hpath⟩

section

variable {loader loader' : Loader} {paths : List String} {depth : ℕ} {items : List Item}
  {p q : Progress} {ms : List Merge}

/-- **Every merge comes on record**, and stays there. Induction on the account. -/
theorem Merges.mem_depends (h : Merges loader depth items p ms q) :
    p.parts.depends ⊆ q.parts.depends ∧ ∀ m ∈ ms, m.path ∈ q.parts.depends := by
  induction h with
  | nil => exact ⟨List.Subset.refl _, List.forall_mem_nil _⟩
  | skip h rest ih =>
      obtain ⟨-, -, hdepends⟩ := extends_of_skip h
      exact ⟨List.Subset.trans hdepends ih.1, ih.2⟩
  | @merge _ _ _ p q r _ _ kind path text hi hdue hload inside rest ihinside ihrest =>
      obtain ⟨hstarted, hinside⟩ := ihinside
      obtain ⟨hsettled, hrest⟩ := ihrest
      have hstart : p.parts.depends ⊆ (kind.start path p.parts).depends ∧
          path ∈ (kind.start path p.parts).depends := by
        cases kind <;>
          exact ⟨fun _ hmem => Text.StringSet.mem_insert.mpr (.inr hmem),
            Text.StringSet.mem_insert.mpr (.inl rfl)⟩
      have hsettle : ((addTail q (scan text.toList).tail).update (kind.settle path)).parts.depends =
          q.parts.depends := by
        rw [Progress.update, parts_addTail]
        cases kind <;> rfl
      rw [hsettle] at hsettled
      refine ⟨fun _ hmem => hsettled (hstarted (hstart.1 hmem)), ?_⟩
      refine List.forall_mem_cons.mpr ⟨hsettled (hstarted hstart.2), fun m hm => ?_⟩
      rcases List.mem_append.mp hm with hm | hm
      · exact hsettled (hinside m hm)
      · exact hrest m hm

/-- Runs with the same parts have the same parts again, if what the first one merges is served to
the second one. -/
theorem Loader.Serves.simulation (h : loader'.Serves loader paths) :
    Simulation loader loader' (· ∈ paths) (· = ·) where
  including hp := by rw [hp]
  push _ hp := by rw [hp]
  addImport _ hp := by rw [hp]
  mark hp := by rw [hp]
  start := by
    rintro p _ kind path text rfl hpath hdue hload
    exact ⟨hdue, (h.same path hpath).trans hload, rfl⟩
  settle _ _ hp := by rw [hp]
  pass := by
    rintro p _ kind path rfl hnot
    refine ⟨?_, rfl⟩
    rintro ⟨hdue, text, hload⟩
    by_cases hpath : path ∈ paths
    · exact hnot ⟨hdue, text, (h.same path hpath).symm.trans hload⟩
    · obtain ⟨e, hfails⟩ := h.fails path hpath
      rw [hfails] at hload
      cases hload

end

/-- **The files on record are enough.** A page is put together again from the files that are on
record as merged, with a loader that has no others. It comes to the same parts, all of them. -/
theorem parse_of_serves {loader loader' : Loader} {page : String}
    (h : loader'.Serves loader (parse loader page).parts.depends) :
    (parse loader' page).parts = (parse loader page).parts := by
  obtain ⟨ms, q, hms, hparse⟩ := exists_merges loader page
  rw [hparse, parts_addTail] at h
  obtain ⟨q', hms', hq⟩ := hms.simulate h.simulation hms.mem_depends.2 rfl
  rw [parse_eq hms', parse_eq hms, parts_addTail, parts_addTail, hq]

/-- Files that include each other, and one that is not asked for. -/
def entangled : Loader :=
  .ofPairs [("a", "A<%!require \"b\"%><%!require \"gone\"%>"), ("b", "B<%!include \"a\"%>"),
    ("c", "C")]

theorem parse_of_serves_entangled :
    (entangled.only ["a", "b"]).Serves entangled
      (parse entangled "<%!include \"a\"%>").parts.depends ∧
    (parse (entangled.only ["a", "b"]) "<%!include \"a\"%>").parts =
      (parse entangled "<%!include \"a\"%>").parts := by
  have hdepends : (parse entangled "<%!include \"a\"%>").parts.depends = ["a", "b"] := by
    decide +kernel
  have hserves : (entangled.only ["a", "b"]).Serves entangled
      (parse entangled "<%!include \"a\"%>").parts.depends := by
    rw [hdepends]
    exact entangled.serves_only ["a", "b"]
  exact ⟨hserves, parse_of_serves hserves⟩

/-! ### Directives that cannot be followed -/

/-- A directive that cannot be followed: its word is no command, or it asks for a merge with an
argument that cannot be read or that names a file that does not load. -/
inductive Directive.IsBad (loader : Loader) : Directive → Prop
  | unknown (word : String) : IsBad loader (.unknown word)
  | malformed {kind : MergeKind} {argument : List Char} {e : Text.Quoted.Error}
      (h : Text.Quoted.read argument = .error e) : IsBad loader (.merge kind argument)
  | missing {kind : MergeKind} {argument path : List Char} {e : LoadError}
      (h : Text.Quoted.read argument = .ok path)
      (hload : loader.load (String.ofList path) = .error e) : IsBad loader (.merge kind argument)

/-- The same has been collected, apart from the guards. -/
structure Parts.SameContent (p q : Parts) : Prop where
  fragments : p.fragments = q.fragments
  imports : p.imports = q.imports
  depends : p.depends = q.depends
  includeOnly : p.includeOnly = q.includeOnly

theorem Parts.SameContent.isCongruence : Parts.IsCongruence Parts.SameContent where
  push f h := { h with fragments := congrArg (· ++ [f]) h.fragments }
  addImport path h := { h with imports := congrArg (Text.StringSet.insert path) h.imports }
  addDepend path h := { h with depends := congrArg (Text.StringSet.insert path) h.depends }
  mark h := { h with includeOnly := rfl }
  guards _ _ _ _ h := { h with }

section

variable {loader : Loader}

/-- A directive that cannot be followed changes nothing that matters. -/
theorem exists_addDirective_of_isBad {directive : Directive} (h : directive.IsBad loader)
    (depth : ℕ) (p : Progress) :
    ∃ q, (p.parts.SameGuards loader q.parts ∧ p.parts.SameContent q.parts) ∧
      ∀ nested, addDirective loader nested depth p directive = some q := by
  have hrefl : p.parts.SameGuards loader p.parts ∧ p.parts.SameContent p.parts :=
    ⟨.refl loader p.parts, rfl, rfl, rfl, rfl⟩
  cases h with
  | unknown word => exact ⟨p.report (.unknownDirective word), hrefl, fun _ => rfl⟩
  | @malformed kind argument e h =>
      refine ⟨p.report (.badArgument kind (String.ofList argument) e), hrefl, fun _ => ?_⟩
      rw [addDirective, h]
  | @missing kind argument path e h hload =>
      have hfails : ¬ ∃ text, loader.load (String.ofList path) = .ok text := by
        rintro ⟨text, hloads⟩
        rw [hload] at hloads
        cases hloads
      have hnot : ¬ kind.Takes loader (String.ofList path) p.parts := fun htakes => hfails htakes.2
      obtain ⟨q, hq, hadd⟩ := exists_addMerge_of_not_takes hnot
      refine ⟨q, ?_, fun nested => by rw [addDirective, h]; exact hadd nested⟩
      obtain ⟨required, hpass⟩ := kind.exists_pass_eq (String.ofList path) p.parts
      have hguards := Parts.SameGuards.pass_of_not_loads kind p.parts hfails
      rw [hq]
      rw [hpass] at hguards ⊢
      exact ⟨hguards, rfl, rfl, rfl, rfl⟩

/-- **A directive that cannot be followed is as good as a remark**: the page with an empty remark in
its place has the same fragments, imports and files on record, and is only included exactly if the
page is. -/
theorem parse_isBad (loader : Loader) {before : String} (hbefore : EndsInText before.toList)
    {kind : TagKind} {body : List Char} (htag : (Item.tag kind body).IsSound)
    (hkind : (Item.tag kind body).isDirective = true)
    (hbad : (Directive.ofBody body).IsBad loader) (after : String) :
    let bad := (parse loader (before ++ String.ofList (Item.tag kind body).spelling ++ after)).parts
    let good := (parse loader (before ++ "<%#%>" ++ after)).parts
    bad.fragments = good.fragments ∧ bad.imports = good.imports ∧ bad.depends = good.depends ∧
      bad.includeOnly = good.includeOnly := by
  obtain ⟨ms, a, ha, -⟩ := exists_account loader 0 before.toList {}
  obtain ⟨ms', q, hq, -⟩ := exists_account loader 0 after.toList a
  obtain ⟨b, hb, hadd⟩ := exists_addDirective_of_isBad hbad 0 a
  obtain ⟨q', hq', -, hsame⟩ := hq.simulate
    (Simulation.of_sameGuards loader Parts.SameContent.isCongruence) (fun _ _ => trivial) hb
  have hdirective : Merges loader 0 [.tag kind body] a [] b := by
    refine .skip (fun nested => ?_) .nil
    cases kind with
    | code | eval | comment => exact absurd hkind (by simp [Item.isDirective])
    | directive | unmarked => exact hadd nested
  have hremark : Merges loader 0 [.tag .comment []] a [] a := .skip (fun _ => rfl) .nil
  have hbadparse := parse_around_tag hbefore htag ha hdirective hq'
  have hsound : (Item.tag .comment []).IsSound := ⟨trivial, rfl⟩
  have hgoodparse := parse_around_tag hbefore hsound ha hremark hq
  have hspelling : String.ofList (Item.tag .comment []).spelling = "<%#%>" := by decide
  rw [hspelling] at hgoodparse
  simp only [hbadparse, hgoodparse]
  exact ⟨hsame.fragments.symm, hsame.imports.symm, hsame.depends.symm, hsame.includeOnly.symm⟩

/-- A file that does not load is required between two pages that require it as well. -/
theorem parse_isBad_gone :
    EndsInText "x<%!include \"a\"%>".toList ∧
    (Item.tag .directive "require \"gone\"".toList).IsSound ∧
    (Item.tag .directive "require \"gone\"".toList).isDirective = true ∧
    (Directive.ofBody "require \"gone\"".toList).IsBad entangled ∧
    let bad := (parse entangled ("x<%!include \"a\"%>" ++
      String.ofList (Item.tag .directive "require \"gone\"".toList).spelling ++
      "<%!include \"a\"%>")).parts
    let good := (parse entangled ("x<%!include \"a\"%>" ++ "<%#%>" ++ "<%!include \"a\"%>")).parts
    bad.fragments = good.fragments ∧ bad.imports = good.imports ∧ bad.depends = good.depends ∧
      bad.includeOnly = good.includeOnly := by
  have hbefore : EndsInText "x<%!include \"a\"%>".toList := by decide +kernel
  have htag : (Item.tag .directive "require \"gone\"".toList).IsSound := by decide +kernel
  have hbody : Directive.ofBody "require \"gone\"".toList = .merge .require "\"gone\"".toList := by
    decide +kernel
  have hread : Text.Quoted.read "\"gone\"".toList = .ok "gone".toList := by decide +kernel
  have hload : entangled.load (String.ofList "gone".toList) = .error (.unknown "gone") := by
    decide +kernel
  have hbad : (Directive.ofBody "require \"gone\"".toList).IsBad entangled :=
    hbody ▸ .missing hread hload
  exact ⟨hbefore, htag, rfl, hbad, parse_isBad entangled hbefore htag rfl hbad _⟩

end

end LivePages.Page
