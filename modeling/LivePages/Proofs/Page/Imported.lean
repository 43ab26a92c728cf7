import LivePages.Proofs.Page.Simulation

/-!
# What a Page Imports

Import directives stand in a page and in the files that are merged into it, and what they list comes
into one set. Nothing else adds to this set, and nothing takes anything out: so its members are the
texts that are listed somewhere, in the page or in a file of its account, and each of them is in the
set once, however often it is listed.

## Main results

* `StringSet.Gains`: a set before and after something is added, step by step.
* `Merges.gains`: what the account of a page adds to the imports.
* `mem_imports_parse`, `nodup_imports_parse`: the imports of a page.
-/

namespace LivePages.Text.StringSet

/-- The set stays in order. -/
theorem pairwise_insert (s : String) {set : List String} (h : set.Pairwise (· < ·)) :
    (insert s set).Pairwise (· < ·) := by
  induction set with
  | nil => exact List.pairwise_singleton _ s
  | cons a r ih =>
      obtain ⟨ha, hr⟩ := List.pairwise_cons.mp h
      rw [insert]
      split
      · next hlt =>
        refine List.pairwise_cons.mpr ⟨fun t ht => ?_, h⟩
        rcases List.mem_cons.mp ht with rfl | ht
        · exact hlt
        · exact String.lt_trans hlt (ha t ht)
      · next hlt =>
        split
        · exact h
        · next hne =>
          refine List.pairwise_cons.mpr ⟨fun t ht => ?_, ih hr⟩
          rcases mem_insert.mp ht with rfl | ht
          · -- neither before the first member nor equal to it
            by_contra hnot
            exact hne (String.le_antisymm (String.not_lt.mp hnot) (String.not_lt.mp hlt))
          · exact ha t ht

/-- The set gains what is listed, and stays in order. -/
structure Gains (listed : String → Prop) (before after : List String) : Prop where
  /-- The members are in increasing order. -/
  sorted : before.Pairwise (· < ·) → after.Pairwise (· < ·)
  /-- The members are those from before and those that are listed. -/
  mem : ∀ s, s ∈ after ↔ s ∈ before ∨ listed s

namespace Gains

variable {listed listed' : String → Prop} {before after set : List String}

/-- Nothing is listed. -/
theorem of_forall_not (h : ∀ s, ¬ listed s) (set : List String) : Gains listed set set where
  sorted hset := hset
  mem s := by rw [or_iff_left (h s)]

/-- One string is. -/
theorem insert (s : String) (set : List String) :
    Gains (fun t => t = s) set (StringSet.insert s set) where
  sorted := pairwise_insert s
  mem _ := mem_insert.trans or_comm

/-- First some are, then others. -/
theorem trans (h : Gains listed before after) (h' : Gains listed' after set) :
    Gains (fun s => listed s ∨ listed' s) before set where
  sorted hbefore := h'.sorted (h.sorted hbefore)
  mem s := by rw [h'.mem, h.mem, or_assoc]

/-- It matters only what is listed, not how. -/
theorem congr (h : Gains listed before after) (hlisted : ∀ s, listed s ↔ listed' s) :
    Gains listed' before after where
  sorted := h.sorted
  mem s := by rw [h.mem, hlisted]

end Gains

end LivePages.Text.StringSet

namespace LivePages.Page

open Text (StringSet.Gains)

/-! ### Lists of imports -/

/-- What a piece of an import list stands for, if it can be read. -/
def readPiece? (piece : List Char) : Option String :=
  (Text.Quoted.read piece).toOption.map String.ofList

theorem readPiece?_eq_some_iff {piece : List Char} {path : String} :
    readPiece? piece = some path ↔ Text.Quoted.read piece = .ok path.toList := by
  rw [readPiece?]
  cases Text.Quoted.read piece with
  | ok s =>
      have hpath : String.ofList s = path ↔ s = path.toList :=
        ⟨fun h => by rw [← h, String.toList_ofList], fun h => by rw [h, String.ofList_toList]⟩
      simp [Except.toOption, hpath]
  | error e => simp [Except.toOption]

/-- The texts that a directive lists. -/
def Directive.listed : Directive → List String
  | .importPaths list => (importItems list).filterMap readPiece?
  | _ => []

/-- The texts that an item of a page lists. -/
def Item.listed : Item → List String
  | .tag .directive body | .tag .unmarked body => (Directive.ofBody body).listed
  | _ => []

/-- A text is listed by an item. -/
def ListedBy (items : List Item) (path : String) : Prop :=
  ∃ i ∈ items, path ∈ i.listed

/-- A text is listed by an item of a file that is merged. -/
def ListedUnder (loader : Loader) (ms : List Merge) (path : String) : Prop :=
  ∃ m ∈ ms, ∃ text, loader.load m.path = .ok text ∧ ListedBy (scan text.toList).items path

/-- The page imports what is listed in it or in a file that is merged into it. -/
def Imported (loader : Loader) (page path : String) : Prop :=
  ∃ ms q, Merges loader 0 (scan page.toList).items {} ms q ∧
    (ListedBy (scan page.toList).items path ∨ ListedUnder loader ms path)

section

variable {loader : Loader} {depth : ℕ} {p q : Progress} {i : Item} {items : List Item}
  {ms ms' : List Merge} {m : Merge} {path : String}

theorem not_listedBy_nil : ¬ ListedBy [] path := by
  rintro ⟨i, hi, -⟩
  exact List.not_mem_nil hi

theorem not_listedUnder_nil : ¬ ListedUnder loader [] path := by
  rintro ⟨m, hm, -⟩
  exact List.not_mem_nil hm

theorem listedBy_cons : ListedBy (i :: items) path ↔ path ∈ i.listed ∨ ListedBy items path :=
  List.exists_mem_cons_iff _ _ _

theorem listedUnder_append :
    ListedUnder loader (ms ++ ms') path ↔
      ListedUnder loader ms path ∨ ListedUnder loader ms' path := by
  simp only [ListedUnder, List.mem_append, or_and_right, exists_or]

theorem listedUnder_cons {text : String} (hload : loader.load m.path = .ok text) :
    ListedUnder loader (m :: ms) path ↔
      ListedBy (scan text.toList).items path ∨ ListedUnder loader ms path := by
  rw [ListedUnder, List.exists_mem_cons_iff]
  refine or_congr_left ⟨?_, fun h => ⟨text, hload, h⟩⟩
  rintro ⟨text', hload', h⟩
  obtain rfl := Except.ok.inj (hload.symm.trans hload')
  exact h

/-! ### The effect of an item -/

/-- A piece of a list. -/
theorem gains_addImport (piece : List Char) (p : Progress) :
    StringSet.Gains (· ∈ readPiece? piece) p.parts.imports (p.addImport piece).parts.imports := by
  rw [Progress.addImport, readPiece?]
  cases Text.Quoted.read piece with
  | ok s =>
      exact (Text.StringSet.Gains.insert (String.ofList s) p.parts.imports).congr
        fun t => by simp [Except.toOption, eq_comm]
  | error e => exact .of_forall_not (by simp [Except.toOption]) p.parts.imports

/-- A list. -/
theorem gains_foldl_addImport (pieces : List (List Char)) (p : Progress) :
    StringSet.Gains (· ∈ pieces.filterMap readPiece?) p.parts.imports
      (pieces.foldl Progress.addImport p).parts.imports := by
  induction pieces generalizing p with
  | nil => exact .of_forall_not (fun _ => List.not_mem_nil) p.parts.imports
  | cons piece pieces ih =>
      refine ((gains_addImport piece p).trans (ih (p.addImport piece))).congr fun s => ?_
      simp only [List.mem_filterMap, List.exists_mem_cons_iff, Option.mem_def]

/-- What lists nothing and leaves the imports as they are. -/
theorem gains_of_eq {listed : List String} {parts parts' : Parts} (hlisted : listed = [])
    (hparts : parts'.imports = parts.imports) :
    StringSet.Gains (· ∈ listed) parts.imports parts'.imports := by
  rw [hlisted, hparts]
  exact .of_forall_not (fun _ => List.not_mem_nil) parts.imports

/-- A directive that asks for no merge. -/
theorem gains_addDirective {nested : Effect} {directive : Directive}
    (hnone : directive.merge? = none)
    (h : addDirective loader nested depth p directive = some q) :
    StringSet.Gains (· ∈ directive.listed) p.parts.imports q.parts.imports := by
  cases directive with
  | importPaths list =>
      obtain rfl := Option.some.inj h
      exact gains_foldl_addImport (importItems list) p
  | merge kind argument =>
      cases hread : Text.Quoted.read argument with
      | ok path => simp [Directive.merge?, hread, Except.toOption] at hnone
      | error e =>
          simp only [addDirective, hread, Option.some.injEq] at h
          subst h
          exact gains_of_eq rfl rfl
  | includeOnly =>
      rw [addDirective] at h
      split at h
      · obtain rfl := Option.some.inj h
        exact gains_of_eq rfl rfl
      · obtain rfl := Option.some.inj h
        exact gains_of_eq rfl rfl
  | unknown word =>
      obtain rfl := Option.some.inj h
      exact gains_of_eq rfl rfl

/-- A directive that asks for a merge lists nothing. -/
theorem listed_eq_nil_of_merge? {kind : MergeKind} (h : i.merge? = some (kind, path)) :
    i.listed = [] := by
  cases i with
  | text run => rfl
  | tag tagKind body =>
      cases tagKind with
      | code | eval | comment => rfl
      | directive | unmarked =>
          simp only [Item.merge?, Item.listed] at h ⊢
          cases hbody : Directive.ofBody body with
          | importPaths list => exact absurd h (by simp [hbody, Directive.merge?])
          | merge | includeOnly | unknown => rfl

/-- **The step.** An item that merges no file adds what it lists. -/
theorem gains_of_skip (h : ∀ nested : Effect, addItem (addTag loader nested depth) p i = some q) :
    StringSet.Gains (· ∈ i.listed) p.parts.imports q.parts.imports := by
  have hnone := h fun _ _ => none
  cases hmerge : i.merge? with
  | some asked =>
      obtain ⟨kind, path⟩ := asked
      obtain ⟨r, hr, hadd⟩ := exists_addMerge_of_not_takes (not_takes_of_skip hmerge h)
      obtain ⟨required, hpass⟩ := kind.exists_pass_eq path p.parts
      rw [addItem_of_merge? hmerge, hadd] at hnone
      obtain rfl := Option.some.inj hnone
      exact gains_of_eq (listed_eq_nil_of_merge? hmerge) (by rw [hr, hpass])
  | none =>
      cases i with
      | text run =>
          obtain rfl := Option.some.inj hnone
          exact gains_of_eq rfl rfl
      | tag kind body =>
          cases kind with
          | code | eval | comment =>
              obtain rfl := Option.some.inj hnone
              exact gains_of_eq rfl rfl
          | directive | unmarked => exact gains_addDirective hmerge hnone

/-! ### The imports of a page -/

theorem imports_start (kind : MergeKind) (path : String) (parts : Parts) :
    (kind.start path parts).imports = parts.imports := by
  cases kind <;> rfl

theorem imports_settle (kind : MergeKind) (path : String) (parts : Parts) :
    (kind.settle path parts).imports = parts.imports := by
  cases kind <;> rfl

/-- **The run.** The items of a page, and the files that are merged for them, add what they list.
Induction on the account. -/
theorem Merges.gains (h : Merges loader depth items p ms q) :
    StringSet.Gains (fun s => ListedBy items s ∨ ListedUnder loader ms s) p.parts.imports
      q.parts.imports := by
  induction h with
  | nil =>
      exact .of_forall_not (fun _ hlisted => hlisted.elim not_listedBy_nil not_listedUnder_nil) _
  | skip h rest ih =>
      refine ((gains_of_skip h).trans ih).congr fun s => ?_
      rw [listedBy_cons, or_assoc]
  | @merge _ i _ _ _ _ _ _ kind path text hi hdue hload inside rest ihinside ihrest =>
      rw [Progress.update, imports_start] at ihinside
      rw [Progress.update, imports_settle, parts_addTail] at ihrest
      refine (ihinside.trans ihrest).congr fun s => ?_
      -- the directive itself lists nothing, its file is the first one of the merges
      rw [listedBy_cons, listed_eq_nil_of_merge? hi, listedUnder_cons hload, listedUnder_append]
      simp only [List.not_mem_nil, false_or, or_assoc, or_left_comm]

/-- What the page imports, it gains. -/
theorem gains_parse (loader : Loader) (page : String) :
    StringSet.Gains (Imported loader page) [] (parse loader page).parts.imports := by
  obtain ⟨ms, q, hms, hparse⟩ := exists_merges loader page
  rw [hparse, parts_addTail]
  refine hms.gains.congr fun s => ⟨fun hs => ⟨ms, q, hms, hs⟩, ?_⟩
  rintro ⟨ms', q', hms', hs⟩
  rwa [(hms.unique hms').1]

/-- **A page imports what is listed in it and in the files that are merged into it.** -/
theorem mem_imports_parse (loader : Loader) (page path : String) :
    path ∈ (parse loader page).parts.imports ↔ Imported loader page path := by
  rw [(gains_parse loader page).mem, or_iff_right List.not_mem_nil]

/-- **It imports nothing twice**, as far as texts are told apart by their characters. -/
theorem nodup_imports_parse (loader : Loader) (page : String) :
    (parse loader page).parts.imports.Nodup :=
  ((gains_parse loader page).sorted .nil).imp String.ne_of_lt

end

end LivePages.Page
