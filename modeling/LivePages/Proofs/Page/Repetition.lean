import LivePages.Proofs.Page.Commands

/-!
# Requiring a File Again

A page that has required a file need not require it again: the second directive is as good as an
empty remark. Whatever became of the first one, the file is among those that are required from then
on. It may have been merged, or required before, or it does not load, which is noted all the same.
And nothing takes a file out of them: an inclusion takes back its own entry in the chain, but a
requirement leaves its entry, under any pages that are merged in between.

So the second directive finds the file among the required ones, whatever stands between the two.

## Main results

* `Merges.mem_required`: what an item requires is required from then on.
* `parse_require_again`: a file is required again.
-/

namespace LivePages.Page

variable {loader : Loader}

/-- Runs with the same parts have the same parts again. -/
theorem Simulation.refl (loader : Loader) : Simulation loader loader (fun _ => True) (· = ·) where
  including hp := by rw [hp]
  push _ hp := by rw [hp]
  addImport _ hp := by rw [hp]
  mark hp := by rw [hp]
  start := by
    rintro p _ kind path text rfl - hdue hload
    exact ⟨hdue, hload, rfl⟩
  settle _ _ hp := by rw [hp]
  pass := by
    rintro p _ kind path rfl hnot
    exact ⟨hnot, rfl⟩

/-- A requirement that does not take place is on record all the same. -/
theorem mem_required_of_skip {depth : ℕ} {i : Item} {path : String} {p q : Progress}
    (hi : i.merge? = some (.require, path))
    (h : ∀ nested : Effect, addItem (addTag loader nested depth) p i = some q) :
    path ∈ q.parts.required := by
  obtain ⟨r, hr, hadd⟩ := exists_addMerge_of_not_takes (not_takes_of_skip hi h)
  have hq : some q = some r := by
    rw [← h fun _ _ => none, addItem_of_merge? hi, hadd]
  rw [Option.some.inj hq, hr, MergeKind.pass]
  split
  · assumption
  · exact List.mem_cons_self

/-- **What an item requires is required from then on**, whatever the items after it merge. Induction
on the account. -/
theorem Merges.mem_required {depth : ℕ} {items : List Item} {p q : Progress} {ms : List Merge}
    (h : Merges loader depth items p ms q) {i : Item} (hmem : i ∈ items) {path : String}
    (hi : i.merge? = some (.require, path)) : path ∈ q.parts.required := by
  induction h with
  | nil => exact absurd hmem List.not_mem_nil
  | skip hskip rest ih =>
      rcases List.mem_cons.mp hmem with rfl | hmem
      · exact rest.guarded.kept (mem_required_of_skip hi hskip)
      · exact ih hmem
  | @merge _ _ _ p q _ _ _ kind other text hmerge hdue hload inside rest _ ih =>
      rcases List.mem_cons.mp hmem with rfl | hmem
      · obtain ⟨rfl, rfl⟩ := Prod.mk.inj (Option.some.inj (hi.symm.trans hmerge))
        have hstart : path ∈ (MergeKind.require.start path p.parts).required := List.mem_cons_self
        have hinside : path ∈ q.parts.required := inside.guarded.kept hstart
        refine rest.guarded.kept ?_
        rw [Progress.update, parts_addTail]
        exact hinside
      · exact ih hmem

/-- **To require a file again is as good as a remark.** After a directive that requires a file, in
text that may merge anything, the same directive might as well be an empty remark: the page comes to
the same parts, all of them. It does not matter whether the file loads. -/
theorem parse_require_again (loader : Loader) {path : String}
    (hquote : '%' ∉ (Text.Quoted.quote path).toList) {before between : String}
    (hfirst : EndsInText before.toList)
    (hsecond : EndsInText (before ++ MergeKind.require.directive path ++ between).toList)
    (after : String) :
    (parse loader (before ++ MergeKind.require.directive path ++ between ++
        MergeKind.require.directive path ++ after)).parts =
      (parse loader (before ++ MergeKind.require.directive path ++ between ++
        "<%#%>" ++ after)).parts := by
  obtain ⟨ms, a, ha, -⟩ := exists_account loader 0
    (before ++ MergeKind.require.directive path ++ between).toList {}
  -- the first directive is among the items before the second one
  have hitems : MergeKind.require.tag path ∈
      (scan (before ++ MergeKind.require.directive path ++ between).toList).items := by
    have hsound : (MergeKind.require.tag path).IsSound := MergeKind.isSound_tag hquote
    rw [String.toList_append, String.toList_append, ← MergeKind.ofList_spelling_tag,
      String.toList_ofList, MergeKind.tag, scan_around_tag hfirst hsound, Scan.prepend]
    exact List.mem_append_left _ (List.mem_append_right _ List.mem_cons_self)
  have hrequired : path ∈ a.parts.required :=
    ha.mem_required hitems (MergeKind.merge?_tag .require path)
  have hagain : Merges loader 0 [MergeKind.require.tag path] a []
      (a.report (.alreadyRequired path)) := by
    refine .skip (fun nested => ?_) .nil
    rw [addItem_of_merge? (MergeKind.merge?_tag .require path), addMerge,
      if_pos (List.contains_iff_mem.mpr hrequired)]
  -- the report is no part of the page, so what follows comes to the same
  obtain ⟨ms', q, hq, -⟩ := exists_account loader 0 after.toList a
  have hreport : a.parts = (a.report (.alreadyRequired path)).parts := rfl
  obtain ⟨q', hq', hparts⟩ := hq.simulate (.refl loader) (fun _ _ => trivial) hreport
  rw [parse_around_directive hsecond hquote ha hagain hq', parse_around_remark hsecond ha hq,
    hparts]

/-- Files that require each other and themselves, one of them cut off in a tag. -/
def selfRequiring : Loader :=
  .ofPairs [("a", "A<%!require \"a\"%><%!include \"b\"%>"),
    ("b", "B<%!require \"a\"%><%!require \"gone\"%><% open")]

/-- A file that is required once more under an inclusion, and one that does not load. -/
theorem parse_require_again_selfRequiring :
    ('%' ∉ (Text.Quoted.quote "a").toList ∧ EndsInText "<<%>".toList ∧
      EndsInText ("<<%>" ++ MergeKind.require.directive "a" ++ "<%!include \"b\"%>").toList ∧
      (parse selfRequiring ("<<%>" ++ MergeKind.require.directive "a" ++ "<%!include \"b\"%>" ++
          MergeKind.require.directive "a" ++ "z<")).parts =
        (parse selfRequiring ("<<%>" ++ MergeKind.require.directive "a" ++ "<%!include \"b\"%>" ++
          "<%#%>" ++ "z<")).parts) ∧
    ('%' ∉ (Text.Quoted.quote "gone").toList ∧ EndsInText "".toList ∧
      EndsInText ("" ++ MergeKind.require.directive "gone" ++ "").toList ∧
      (parse selfRequiring ("" ++ MergeKind.require.directive "gone" ++ "" ++
          MergeKind.require.directive "gone" ++ "")).parts =
        (parse selfRequiring ("" ++ MergeKind.require.directive "gone" ++ "" ++
          "<%#%>" ++ "")).parts) := by
  have hquote : '%' ∉ (Text.Quoted.quote "a").toList := by decide +kernel
  have hfirst : EndsInText "<<%>".toList := by decide +kernel
  have hsecond : EndsInText
      ("<<%>" ++ MergeKind.require.directive "a" ++ "<%!include \"b\"%>").toList := by
    decide +kernel
  have hquote' : '%' ∉ (Text.Quoted.quote "gone").toList := by decide +kernel
  have hfirst' : EndsInText "".toList := rfl
  have hsecond' : EndsInText ("" ++ MergeKind.require.directive "gone" ++ "").toList := by
    decide +kernel
  exact ⟨⟨hquote, hfirst, hsecond, parse_require_again selfRequiring hquote hfirst hsecond "z<"⟩,
    hquote', hfirst', hsecond', parse_require_again selfRequiring hquote' hfirst' hsecond' ""⟩

end LivePages.Page
