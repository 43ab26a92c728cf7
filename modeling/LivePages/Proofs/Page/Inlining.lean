import LivePages.Proofs.Page.Commands
import LivePages.Proofs.Page.Printing

/-!
# Including a File Is Writing It Out

An included file leaves its fragments between those of the text before the directive and those of
the text after it. It is read as a page of its own, so nothing of it leaks out: a tag that it does
not close stays in it, and the text after the directive is read from plain text. All that passes the
seams is what the guards know.

If the file has no directives and is closed at its end, the page is the same as if the file was
written in place of the directive. Only the runs of text at the seams are longer then, so fragments
are compared with adjacent texts joined.

## Main results

* `fragments_include`: the fragments of a page around an include.
* `exists_merges_append`: the account of two texts that are written one after the other.
* `include_inlined`: an include of a closed file without directives.
* `parse_include`: both.
-/

namespace LivePages.Page

variable {loader : Loader}

/-! ### What an include adds -/

/-- The same is added to two beginnings. -/
def Parts.AddSame (front front' : List Fragment) (p q : Parts) : Prop :=
  ∃ added, p.fragments = front ++ added ∧ q.fragments = front' ++ added

theorem Parts.isCongruence_addSame (front front' : List Fragment) :
    Parts.IsCongruence (Parts.AddSame front front') where
  push := by
    rintro p q f ⟨added, hp, hq⟩
    refine ⟨added ++ [f], ?_, ?_⟩
    · rw [Parts.push, hp, List.append_assoc]
    · rw [Parts.push, hq, List.append_assoc]
  addImport _ h := h
  addDepend _ h := h
  mark h := h
  guards _ _ _ _ h := h

/-- An include at the top takes the file in and its own entry back. -/
theorem exists_merges_include {path text : String} {a t : Progress} {ms : List Merge}
    (hload : loader.load path = .ok text) (ha : a.parts.including = [])
    (ht : Merges loader 1 (scan text.toList).items (a.update (MergeKind.include.start path)) ms t) :
    ∃ ms' b, Merges loader 0 [MergeKind.include.tag path] a ms' b ∧
      b.parts = { t.parts with including := [] } := by
  have hdue : MergeKind.include.IsDue path a.parts := by
    rw [MergeKind.IsDue, ha]
    exact List.not_mem_nil
  refine ⟨_, _, .merge (MergeKind.merge?_tag .include path) hdue hload ht .nil, ?_⟩
  have hchain : t.parts.including = path :: a.parts.including := ht.guarded.including
  have hleft : t.parts.including.erase path = [] := by
    rw [hchain, List.erase_cons_head, ha]
  rw [Progress.update, parts_addTail, MergeKind.settle, Parts.leave, hleft]

/-- **An include leaves the fragments of the file in its place.** The file is read as a page of its
own, with its name on the chain and with what was required before; what follows is read from plain
text, with what was required by then. -/
theorem fragments_include {path text : String} (hload : loader.load path = .ok text)
    (hquote : '%' ∉ (Text.Quoted.quote path).toList) {before : String}
    (hbefore : EndsInText before.toList) (after : String) :
    let first := (parse loader before).parts
    let inside := (expanded loader 1 text.toList
      { parts := { including := [path], required := first.required } }).parts
    let rest := (expanded loader 0 after.toList { parts := { required := inside.required } }).parts
    (parse loader (before ++ MergeKind.include.directive path ++ after)).parts.fragments =
      first.fragments ++ inside.fragments ++ rest.fragments := by
  intro first inside rest
  obtain ⟨ms, a, ha, -⟩ := exists_account loader 0 before.toList {}
  have hfirst : first = a.parts := by rw [← parts_addTail a, ← parse_eq ha]
  have hchain : a.parts.including = [] := ha.guarded.including
  -- the file by itself, and in the page
  obtain ⟨mst, t, ht, -⟩ := exists_account loader 1 text.toList
    { parts := { including := [path], required := first.required } }
  have hinside : inside = t.parts := by rw [← parts_addTail t, ← expanded_eq ht]
  have hstart : ({ including := [path], required := first.required } : Parts).SameGuards loader
      (a.update (MergeKind.include.start path)).parts := by
    rw [hfirst]
    exact ⟨congrArg (path :: ·) hchain.symm, fun _ _ _ => Iff.rfl⟩
  obtain ⟨t', ht', hguards, added, hadded, hadded'⟩ := ht.simulate
    (Simulation.of_sameGuards loader (Parts.isCongruence_addSame [] a.parts.fragments))
    (fun _ _ => trivial) ⟨hstart, [], rfl, (List.append_nil _).symm⟩
  obtain ⟨mst', b, htag, hb⟩ := exists_merges_include hload hchain ht'
  -- what follows by itself, and in the page
  obtain ⟨msr, r, hr, -⟩ := exists_account loader 0 after.toList
    { parts := { required := inside.required } }
  have hrest : rest = r.parts := by rw [← parts_addTail r, ← expanded_eq hr]
  have hsettled : ({ required := inside.required } : Parts).SameGuards loader b.parts := by
    rw [hinside, hb]
    exact ⟨rfl, hguards.required⟩
  have hfragments : b.parts.fragments = t'.parts.fragments ++ [] := by
    rw [hb, List.append_nil]
  obtain ⟨r', hr', -, more, hmore, hmore'⟩ := hr.simulate
    (Simulation.of_sameGuards loader (Parts.isCongruence_addSame [] t'.parts.fragments))
    (fun _ _ => trivial) ⟨hsettled, [], rfl, hfragments⟩
  rw [parse_around_directive hbefore hquote ha htag hr', hmore', hadded', hfirst, hinside, hrest,
    hadded, hmore]
  rfl

/-! ### Adjacent texts -/

/-- Puts a fragment after the others; text that comes after text is joined with it. -/
def joinLast (fragments : List Fragment) (f : Fragment) : List Fragment :=
  match fragments.getLast?, f with
  | some (.literal s), .literal t => fragments.dropLast ++ [.literal (s ++ t)]
  | _, _ => fragments ++ [f]

/-- The fragments with adjacent texts joined. -/
def joinTexts (fragments : List Fragment) : List Fragment :=
  fragments.foldl joinLast []

theorem joinTexts_concat (fragments : List Fragment) (f : Fragment) :
    joinTexts (fragments ++ [f]) = joinLast (joinTexts fragments) f := by
  rw [joinTexts, List.foldl_append]
  rfl

theorem joinLast_concat_literal (front : List Fragment) (s t : String) :
    joinLast (front ++ [.literal s]) (.literal t) = front ++ [.literal (s ++ t)] := by
  simp [joinLast]

theorem joinLast_of_ne {fragments : List Fragment}
    (h : ∀ s, fragments.getLast? ≠ some (.literal s)) (f : Fragment) :
    joinLast fragments f = fragments ++ [f] := by
  rw [joinLast]
  exact fun s _ hlast _ => h s hlast

/-- Two texts one after the other are one text. -/
theorem joinLast_joinLast_literal (fragments : List Fragment) (s t : String) :
    joinLast (joinLast fragments (.literal s)) (.literal t) =
      joinLast fragments (.literal (s ++ t)) := by
  by_cases hlast : ∃ u, fragments.getLast? = some (.literal u)
  · obtain ⟨u, hlast⟩ := hlast
    obtain ⟨front, rfl⟩ := List.getLast?_eq_some_iff.mp hlast
    rw [joinLast_concat_literal, joinLast_concat_literal, joinLast_concat_literal,
      String.append_assoc]
  · have hne : ∀ u, fragments.getLast? ≠ some (.literal u) := not_exists.mp hlast
    rw [joinLast_of_ne hne, joinLast_concat_literal, joinLast_of_ne hne]

/-- What is printed is the same, and so are the imports and the mark of the page. -/
structure Parts.PrintSame (p q : Parts) : Prop where
  fragments : joinTexts p.fragments = joinTexts q.fragments
  imports : p.imports = q.imports
  includeOnly : p.includeOnly = q.includeOnly

namespace Parts.PrintSame

variable {p q r : Parts}

theorem refl (p : Parts) : p.PrintSame p :=
  ⟨rfl, rfl, rfl⟩

theorem symm (h : p.PrintSame q) : q.PrintSame p :=
  ⟨h.fragments.symm, h.imports.symm, h.includeOnly.symm⟩

theorem trans (h : p.PrintSame q) (h' : q.PrintSame r) : p.PrintSame r :=
  ⟨h.fragments.trans h'.fragments, h.imports.trans h'.imports, h.includeOnly.trans h'.includeOnly⟩

theorem isCongruence : Parts.IsCongruence Parts.PrintSame where
  push f h := { h with
    fragments := by rw [Parts.push, Parts.push, joinTexts_concat, joinTexts_concat, h.fragments] }
  addImport path h := { h with imports := congrArg (Text.StringSet.insert path) h.imports }
  addDepend _ h := { h with }
  mark h := { h with includeOnly := rfl }
  guards _ _ _ _ h := { h with }

/-- Text that is pushed in two runs prints as one. -/
theorem pushText_push (p : Parts) (run more : List Char) :
    ((p.pushText run).push (.literal (String.ofList more))).PrintSame
      (p.push (.literal (String.ofList (run ++ more)))) := by
  cases run with
  | nil => exact refl _
  | cons c run =>
      refine ⟨?_, rfl, rfl⟩
      have hpush : p.pushText (c :: run) = p.push (.literal (String.ofList (c :: run))) := rfl
      rw [hpush, Parts.push, Parts.push, Parts.push, joinTexts_concat, joinTexts_concat,
        joinLast_joinLast_literal, joinTexts_concat, String.ofList_append]

end Parts.PrintSame

/-! ### Texts one after the other -/

section

variable {depth : ℕ} {items items' : List Item} {p a q : Progress} {ms ms' : List Merge}

/-- The account of items that follow each other consists of two. -/
theorem Merges.exists_of_append (h : Merges loader depth (items ++ items') p ms q) :
    ∃ ms₁ a ms₂, Merges loader depth items p ms₁ a ∧ Merges loader depth items' a ms₂ q ∧
      ms = ms₁ ++ ms₂ := by
  induction items generalizing p ms with
  | nil => exact ⟨[], p, ms, .nil, h, rfl⟩
  | cons i items ih =>
      cases h with
      | skip h rest =>
          obtain ⟨ms₁, a, ms₂, hfront, hback, rfl⟩ := ih rest
          exact ⟨ms₁, a, ms₂, .skip h hfront, hback, rfl⟩
      | merge hi hdue hload inside rest =>
          obtain ⟨ms₁, a, ms₂, hfront, hback, rfl⟩ := ih rest
          exact ⟨_, a, ms₂, .merge hi hdue hload inside hfront, hback, by simp⟩

/-- The account of a finished run of text. -/
theorem merges_textItems (loader : Loader) (depth : ℕ) (run : List Char) (p : Progress) :
    Merges loader depth (textItems run) p [] (p.update (·.pushText run.reverse)) := by
  cases run with
  | nil => exact .nil
  | cons c run =>
      have hpush : p.update (·.pushText (c :: run).reverse) =
          p.update (·.push (.literal (String.ofList (c :: run).reverse))) := by
        rw [Progress.update, Parts.pushText, List.isEmpty_reverse]
        rfl
      rw [hpush]
      exact .skip (fun _ => rfl) .nil

/-- The account of items without directives. -/
theorem merges_of_not_isDirective (loader : Loader) (depth : ℕ)
    (h : ∀ i ∈ items, i.isDirective = false) (p : Progress) :
    Merges loader depth items p [] (p.append (items.filterMap Item.fragment?)) := by
  induction items generalizing p with
  | nil =>
      rw [List.filterMap_nil, Progress.append_nil]
      exact .nil
  | cons i items ih =>
      rw [Item.filterMap_fragment?_cons, ← Progress.append_append]
      exact .skip (fun _ => addItem_of_not_isDirective (h i List.mem_cons_self) p)
        (ih (fun j hj => h j (List.mem_cons_of_mem i hj)) _)

/-- Items with kept back text at their front print the same as the text and the items. -/
theorem Continues.exists_merges {run : List Char} (hrun : Continues run items items')
    (h : Merges loader depth items (p.update (·.pushText run.reverse)) ms q) :
    ∃ q', Merges loader depth items' p ms q' ∧ q.parts.SameGuards loader q'.parts ∧
      q.parts.PrintSame q'.parts := by
  cases hrun with
  | apart =>
      exact ⟨q, (merges_textItems loader depth run p).append h, .refl loader _, .refl _⟩
  | joined more items =>
      cases h with
      | merge hi => exact absurd hi (by simp [Item.merge?])
      | skip hskip rest =>
          obtain rfl := Option.some.inj (hskip fun _ _ => none)
          have hguards : ((p.parts.pushText run.reverse).push
              (.literal (String.ofList more))).SameGuards loader
                (p.update (·.push (.literal (String.ofList (run.reverse ++ more))))).parts := by
            cases hempty : run.reverse <;> exact ⟨rfl, fun _ _ _ => Iff.rfl⟩
          obtain ⟨q', hq', hsame⟩ := rest.simulate
            (Simulation.of_sameGuards loader Parts.PrintSame.isCongruence) (fun _ _ => trivial)
            ⟨hguards, .pushText_push p.parts run.reverse more⟩
          exact ⟨q', .skip (fun _ => rfl) hq', hsame⟩

/-- **Two texts one after the other print the same as both do in turn**, if the first ends in plain
text. -/
theorem exists_merges_append {before after : List Char} (hbefore : EndsInText before)
    (ha : Merges loader depth (scan before).items p ms a)
    (hq : Merges loader depth (scan after).items a ms' q) :
    ∃ q', Merges loader depth (scan (before ++ after)).items p (ms ++ ms') q' ∧
      q.parts.SameGuards loader q'.parts ∧ q.parts.PrintSame q'.parts := by
  obtain ⟨out, run, hitems, hscan⟩ := exists_scan_append hbefore
  rw [hitems] at ha
  obtain ⟨ms₁, b, ms₂, hout, hrun, rfl⟩ := ha.exists_of_append
  obtain ⟨rfl, rfl⟩ := hrun.unique (merges_textItems loader depth run b)
  have hcontinues := (continues_scanFrom run [] after).1.1
  obtain ⟨q', hq', hsame⟩ := hcontinues.exists_merges hq
  rw [hscan, List.append_nil]
  exact ⟨q', hout.append hq', hsame⟩

end

/-- **A closed file without directives might as well be written in place of the directive** that
includes it. -/
theorem include_inlined {path text : String} (hload : loader.load path = .ok text)
    (hquote : '%' ∉ (Text.Quoted.quote path).toList) (htext : EndsInText text.toList)
    (hplain : ∀ i ∈ (scan text.toList).items, i.isDirective = false) {before : String}
    (hbefore : EndsInText before.toList) (after : String) :
    (parse loader (before ++ MergeKind.include.directive path ++ after)).parts.PrintSame
      (parse loader (before ++ text ++ after)).parts := by
  obtain ⟨ms, a, ha, -⟩ := exists_account loader 0 before.toList {}
  have hfile (depth : ℕ) (p : Progress) := merges_of_not_isDirective loader depth hplain p
  obtain ⟨ms', q, hq, -⟩ := exists_account loader 0 after.toList
    (a.append ((scan text.toList).items.filterMap Item.fragment?))
  -- the three texts in one
  obtain ⟨q₁, hq₁, -, hsame₁⟩ := exists_merges_append htext (hfile 0 a) hq
  obtain ⟨q₂, hq₂, -, hsame₂⟩ := exists_merges_append hbefore ha hq₁
  have hinlined : (parse loader (before ++ text ++ after)).parts = q₂.parts := by
    have hall : before.toList ++ (text.toList ++ after.toList) =
        (before ++ text ++ after).toList := by
      simp
    rw [hall] at hq₂
    rw [parse_eq hq₂, parts_addTail]
  -- the page with the directive
  have hchain : a.parts.including = [] := ha.guarded.including
  obtain ⟨mst, b, htag, hb⟩ := exists_merges_include hload hchain
    (hfile 1 (a.update (MergeKind.include.start path)))
  have hguards : (a.append ((scan text.toList).items.filterMap Item.fragment?)).parts.SameGuards
      loader b.parts := by
    rw [hb]
    exact ⟨hchain, fun _ _ _ => Iff.rfl⟩
  have hprint : (a.append ((scan text.toList).items.filterMap Item.fragment?)).parts.PrintSame
      b.parts := by
    rw [hb]
    exact ⟨rfl, rfl, rfl⟩
  obtain ⟨q', hq', -, hsame⟩ := hq.simulate
    (Simulation.of_sameGuards loader Parts.PrintSame.isCongruence) (fun _ _ => trivial)
    ⟨hguards, hprint⟩
  rw [parse_around_directive hbefore hquote ha htag hq', hinlined]
  exact hsame.symm.trans (hsame₁.trans hsame₂)

/-- **Including a file is writing it out.** An include leaves the fragments of the file between
those of the texts around it, and nothing else of the file matters to them but what it requires. If
the file has no directives and is closed at its end, the page prints the same, imports the same and
is marked the same as if the file was written in place of the directive. -/
theorem parse_include (loader : Loader) {path text : String} (hload : loader.load path = .ok text)
    (hquote : '%' ∉ (Text.Quoted.quote path).toList) {before : String}
    (hbefore : EndsInText before.toList) (after : String) :
    let page := (parse loader (before ++ MergeKind.include.directive path ++ after)).parts
    let first := (parse loader before).parts
    let inside := (expanded loader 1 text.toList
      { parts := { including := [path], required := first.required } }).parts
    let rest := (expanded loader 0 after.toList { parts := { required := inside.required } }).parts
    page.fragments = first.fragments ++ inside.fragments ++ rest.fragments ∧
    (EndsInText text.toList → (∀ i ∈ (scan text.toList).items, i.isDirective = false) →
      let inlined := (parse loader (before ++ text ++ after)).parts
      joinTexts page.fragments = joinTexts inlined.fragments ∧ page.imports = inlined.imports ∧
        page.includeOnly = inlined.includeOnly) := by
  refine ⟨fragments_include hload hquote hbefore after, fun htext hplain => ?_⟩
  have hsame := include_inlined hload hquote htext hplain hbefore after
  exact ⟨hsame.fragments, hsame.imports, hsame.includeOnly⟩

/-- A page with a heading that is a file of its own. -/
def headed : Loader :=
  .ofPairs [("head", "<h1><%= title %></h1>")]

theorem parse_include_headed :
    headed.load "head" = .ok "<h1><%= title %></h1>" ∧
    '%' ∉ (Text.Quoted.quote "head").toList ∧
    EndsInText "<!-- ".toList ∧ EndsInText "<h1><%= title %></h1>".toList ∧
    (∀ i ∈ (scan "<h1><%= title %></h1>".toList).items, i.isDirective = false) ∧
    (let page := (parse headed ("<!-- " ++ MergeKind.include.directive "head" ++ " -->")).parts
    let first := (parse headed "<!-- ").parts
    let inside := (expanded headed 1 "<h1><%= title %></h1>".toList
      { parts := { including := ["head"], required := first.required } }).parts
    let rest := (expanded headed 0 " -->".toList { parts := { required := inside.required } }).parts
    page.fragments = first.fragments ++ inside.fragments ++ rest.fragments ∧
      let inlined := (parse headed ("<!-- " ++ "<h1><%= title %></h1>" ++ " -->")).parts
      joinTexts page.fragments = joinTexts inlined.fragments ∧ page.imports = inlined.imports ∧
        page.includeOnly = inlined.includeOnly) := by
  have hload : headed.load "head" = .ok "<h1><%= title %></h1>" := by decide +kernel
  have hquote : '%' ∉ (Text.Quoted.quote "head").toList := by decide +kernel
  have hbefore : EndsInText "<!-- ".toList := by decide +kernel
  have htext : EndsInText "<h1><%= title %></h1>".toList := by decide +kernel
  have hplain : ∀ i ∈ (scan "<h1><%= title %></h1>".toList).items, i.isDirective = false := by
    decide +kernel
  obtain ⟨hplace, hinline⟩ := parse_include headed hload hquote hbefore " -->"
  exact ⟨hload, hquote, hbefore, htext, hplain, hplace, hinline htext hplain⟩

/-- A file that ends inside a tag: what is open there is gone, and does not swallow the page. -/
example : (parse (.ofPairs [("cut", "b<% open")]) "a<%!include \"cut\"%>c").parts.fragments =
    [.literal "a", .literal "b", .literal "c"] := by
  decide +kernel

end LivePages.Page
