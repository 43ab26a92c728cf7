import LivePages.Build.Project
import LivePages.Proofs.Files.Join
import LivePages.Proofs.Site.Requests

/-!
# The Table of Symbols

Whatever paths are in a list, and however often, every place that they name has one symbol in the
table, and no symbol is given to two places. A symbol is the base symbol of its path with a number
of underscores after it. There is no separator in it, so that the files named after symbols are
different children of the directory they are written to.

That nobody is left without a symbol is due to the queue, which comes to its end
(`Underway.perm_nth`). That no two paths have the same one can be read off the greedy assignment:
what somebody of higher rank has, nobody has (`Settled.nodup`).

## Main results

* `allocate_perm`: the table is the greedy assignment to the distinct paths.
* `isTable_allocate`: it is total and injective, and its symbols are names of files.
-/

namespace LivePages.Site

variable {path : String} {paths : List String}

/-! ### Distinct paths -/

/-- An inserted path is in the list. -/
theorem mem_insertPath_self (path : String) (paths : List String) :
    path ∈ insertPath path paths := by
  induction paths with
  | nil => exact List.mem_singleton_self path
  | cons p paths ih =>
      rw [insertPath]
      split
      · exact List.mem_cons_self
      · exact List.mem_cons_self
      · exact List.mem_cons_of_mem _ ih

/-- An inserted path takes the place of those with the same components only. -/
theorem exists_mem_insertPath (path : String) {p : String} (h : p ∈ paths) :
    ∃ q ∈ insertPath path paths, Files.Path.components q = Files.Path.components p := by
  induction paths with
  | nil => exact absurd h List.not_mem_nil
  | cons first paths ih =>
      rw [insertPath]
      split
      · exact ⟨p, List.mem_cons_of_mem _ h, rfl⟩
      · rename_i heq
        rcases List.mem_cons.mp h with rfl | h
        · exact ⟨path, List.mem_cons_self, Files.Path.compare_eq_iff.mp heq⟩
        · exact ⟨p, List.mem_cons_of_mem _ h, rfl⟩
      · rcases List.mem_cons.mp h with rfl | h
        · exact ⟨p, List.mem_cons_self, rfl⟩
        · obtain ⟨q, hq, hqp⟩ := ih h
          exact ⟨q, List.mem_cons_of_mem _ hq, hqp⟩

/-- Every path of a list is among the distinct ones, in one of its spellings. -/
theorem exists_mem_distinctPaths {p : String} (h : p ∈ paths) :
    ∃ q ∈ distinctPaths paths, Files.Path.components q = Files.Path.components p := by
  suffices hfold : ∀ (paths sorted : List String), (∃ q ∈ sorted ++ paths,
      Files.Path.components q = Files.Path.components p) →
        ∃ q ∈ paths.foldl (fun sorted path => insertPath path sorted) sorted,
          Files.Path.components q = Files.Path.components p from
    hfold paths [] ⟨p, h, rfl⟩
  intro paths
  induction paths with
  | nil => simp
  | cons path paths ih =>
      rintro sorted ⟨q, hq, hqp⟩
      refine ih _ ?_
      rcases List.mem_append.mp hq with hq | hq
      · obtain ⟨q', hq', hsame⟩ := exists_mem_insertPath path hq
        exact ⟨q', List.mem_append_left _ hq', hsame.trans hqp⟩
      · rcases List.mem_cons.mp hq with rfl | hq
        · exact ⟨q, List.mem_append_left _ (mem_insertPath_self q sorted), hqp⟩
        · exact ⟨q, List.mem_append_right _ hq, hqp⟩

/-- The distinct paths of a list are in the list. -/
theorem mem_of_mem_distinctPaths {p : String} (h : p ∈ distinctPaths paths) : p ∈ paths := by
  suffices hfold : ∀ rest : List String, rest ⊆ paths → ∀ sorted : List String,
      sorted ⊆ paths → rest.foldl (fun sorted path => insertPath path sorted) sorted ⊆ paths from
    hfold paths (List.Subset.refl _) [] (List.nil_subset _) h
  intro rest
  induction rest with
  | nil => exact fun _ sorted hsorted => hsorted
  | cons path rest ih =>
      intro hrest sorted hsorted
      refine ih (List.subset_of_cons_subset hrest) _ ?_
      intro q hq
      rcases mem_insertPath hq with rfl | hq
      · exact hrest List.mem_cons_self
      · exact hsorted hq

/-- Distinct paths have different components. -/
theorem eq_of_mem_distinctPaths {p q : String} (hp : p ∈ distinctPaths paths)
    (hq : q ∈ distinctPaths paths) (h : Files.Path.components p = Files.Path.components q) :
    p = q := by
  have hnodup : ((distinctPaths paths).map Files.Path.components).Nodup := by
    rw [List.Nodup, List.pairwise_map]
    refine (ordered_distinctPaths paths).imp ?_
    intro a b hlt heq
    rw [Files.Path.compare_eq_iff.mpr heq] at hlt
    exact absurd hlt (by simp)
  exact List.inj_on_of_nodup_map hnodup hp hq h

/-! ### Symbols -/

/-- A candidate is the base symbol with as many underscores after it as there were refusals. -/
theorem candidate_eq (path : String) (k : ℕ) :
    candidate path k = baseSymbol path ++ String.ofList (List.replicate k '_') := by
  induction k with
  | zero => exact (String.append_empty).symm
  | succ k ih =>
      rw [candidate, ih, List.replicate_succ', String.ofList_append, String.append_assoc]

/-- There is no separator in a candidate. -/
theorem notMem_candidate (path : String) (k : ℕ) :
    '/' ∉ (candidate path k).toList ∧ '\\' ∉ (candidate path k).toList := by
  have hplain : ∀ c ∈ (candidate path k).toList, c ≠ '/' ∧ c ≠ '\\' := by
    intro c hc
    rw [candidate_eq, String.toList_append, baseSymbol, String.toList_ofList,
      String.toList_ofList, List.mem_append, List.mem_map, List.mem_replicate] at hc
    rcases hc with ⟨d, -, rfl⟩ | ⟨-, rfl⟩
    · split
      · decide
      · rename_i hd
        exact not_or.mp hd
    · decide
  exact ⟨fun h => (hplain _ h).1 rfl, fun h => (hplain _ h).2 rfl⟩

/-- The name of the file of a symbol without separators is a plain name. -/
theorem isName_sourceName {symbol : String} (h : '/' ∉ symbol.toList) :
    Files.Path.isName (Build.sourceName symbol) = true := by
  have hlist : (Build.sourceName symbol).toList = symbol.toList ++ ['.', 'r', 's'] :=
    String.toList_append
  have hends : ∀ s : String, s.toList.getLast? ≠ some 's' → Build.sourceName symbol ≠ s := by
    rintro _ hs rfl
    rw [hlist, List.getLast?_append] at hs
    exact hs rfl
  have hslash : (Build.sourceName symbol).toList.contains '/' = false := by
    rw [← Bool.not_eq_true, List.contains_iff_mem, hlist, List.mem_append]
    exact not_or.mpr ⟨h, by decide⟩
  have hname : Files.Path.component? (Build.sourceName symbol) =
      some (.name (Build.sourceName symbol)) := by
    rw [Files.Path.component?, if_neg (not_or.mpr ⟨hends _ (by decide), hends _ (by decide)⟩),
      if_neg (hends _ (by decide))]
  rw [Files.Path.isName, hslash, hname, beq_self_eq_true]
  rfl

/-- Different symbols have different files. -/
theorem sourceName_injective : Function.Injective Build.sourceName := by
  intro s t h
  have hlist : s.toList ++ ['.', 'r', 's'] = t.toList ++ ['.', 'r', 's'] := by
    simpa [Build.sourceName] using congrArg String.toList h
  exact String.toList_inj.mp (List.append_cancel_right hlist)

/-! ### The greedy table -/

variable {count : String → ℕ} {granted : List Request}

/-- In the greedy assignment no symbol is given twice. -/
theorem Settled.nodup (hs : Settled paths count) (hd : paths.Nodup) :
    (paths.map fun p => candidate p (count p)).Nodup := by
  rw [List.Nodup, List.pairwise_map]
  refine List.Pairwise.imp_of_mem ?_ hd
  intro p q hp hq hne heq
  rcases outranks_total hne with h | h
  · exact hs.apart q hq p hp h heq
  · exact hs.apart p hp q hq h heq.symm

/-- When the queue is empty, the greedy assignment has been granted. -/
theorem Underway.perm_nth (hs : Settled paths count) (hd : paths.Nodup)
    (h : Underway paths count granted []) :
    granted.Perm (paths.map fun p => Request.nth p (count p)) := by
  have hall : (granted.map (·.path)).Perm paths := by
    rw [← List.append_nil granted]
    exact h.all
  have hgreedy : granted = (granted.map (·.path)).map fun p => Request.nth p (count p) := by
    rw [List.map_map]
    conv_lhs => rw [← List.map_id granted]
    exact List.map_congr_left fun r hr => h.eq_nth hs hd r hr
  rw [hgreedy]
  exact hall.map _

/-- The loop that hands out the symbols ends within the bound, with the greedy assignment. -/
theorem exists_assign_distinctPaths (hs : Settled (distinctPaths paths) count) {fuel : ℕ}
    (hf : (distinctPaths paths).length * (distinctPaths paths).length ≤ fuel) :
    ∃ granted, assign fuel [] ((distinctPaths paths).map .first) = some granted ∧
      granted.Perm ((distinctPaths paths).map fun p => Request.nth p (count p)) := by
  have hd := (ordered_distinctPaths paths).nodup
  obtain ⟨granted, heq, hend⟩ := exists_assign hs hd fuel [] _
    (underway_first (List.Perm.refl _)) ((answersOwed_first_le hs (List.Perm.refl _)).trans hf)
  exact ⟨granted, heq, hend.perm_nth hs hd⟩

/-- **The table is the greedy assignment to the distinct paths.** -/
theorem allocate_perm (hs : Settled (distinctPaths paths) count) :
    (allocate paths).Perm ((distinctPaths paths).map fun p => Request.nth p (count p)) := by
  obtain ⟨granted, heq, hperm⟩ := exists_assign_distinctPaths hs le_rfl
  have hsort := foldl_insertGranted_perm granted []
  rw [List.append_nil] at hsort
  rw [allocate]
  simp only [heq, Option.getD_some]
  exact hsort.trans hperm

/-- A row of the table is the greedy choice of a distinct path. -/
theorem mem_allocate (hs : Settled (distinctPaths paths) count) {r : Request}
    (hr : r ∈ allocate paths) :
    r.path ∈ distinctPaths paths ∧ r.symbol = candidate r.path (count r.path) := by
  obtain ⟨p, hp, rfl⟩ := List.mem_map.mp ((allocate_perm hs).mem_iff.mp hr)
  exact ⟨hp, rfl⟩

/-- No symbol is in two rows. -/
theorem nodup_symbol_allocate (hs : Settled (distinctPaths paths) count) :
    ((allocate paths).map (·.symbol)).Nodup := by
  refine ((allocate_perm hs).map _).nodup_iff.mpr ?_
  rw [List.map_map]
  exact hs.nodup (ordered_distinctPaths paths).nodup

/-- Every path is in one row, in one of its spellings. -/
theorem existsUnique_mem_allocate {p : String} (hp : p ∈ paths) :
    ∃! r, r ∈ allocate paths ∧ Files.Path.components r.path = Files.Path.components p := by
  have hpaths := path_allocate_perm paths
  obtain ⟨q, hq, hqp⟩ := exists_mem_distinctPaths hp
  obtain ⟨r, hr, rfl⟩ := List.mem_map.mp (hpaths.mem_iff.mpr hq)
  refine ⟨r, ⟨hr, hqp⟩, ?_⟩
  rintro s ⟨hs, hsp⟩
  have hsq := hpaths.mem_iff.mp (List.mem_map_of_mem hs)
  have hsame : s.path = r.path := eq_of_mem_distinctPaths hsq hq (hsp.trans hqp.symm)
  have hnodup := hpaths.nodup_iff.mpr (ordered_distinctPaths paths).nodup
  exact List.inj_on_of_nodup_map hnodup hs hr hsame

/-! ### The table -/

/-- A table with one symbol for every place that the paths of a list name, and one file below a
directory for every symbol. -/
structure IsTable (paths : List String) (table : List Request) : Prop where
  /-- Every path has one symbol, whatever its spelling. -/
  total : ∀ p ∈ paths, ∃! r, r ∈ table ∧
    Files.Path.components r.path = Files.Path.components p
  /-- There are no other paths. -/
  path_mem : ∀ r ∈ table, r.path ∈ paths
  /-- No symbol is there twice. -/
  injective : (table.map (·.symbol)).Nodup
  /-- A symbol is the base symbol of its path and some underscores. -/
  derived : ∀ r ∈ table, ∃ k,
    r.symbol = baseSymbol r.path ++ String.ofList (List.replicate k '_')
  /-- There is no separator in a symbol. -/
  flat : ∀ r ∈ table, '/' ∉ r.symbol.toList ∧ '\\' ∉ r.symbol.toList
  /-- The file of a symbol is a child of the directory it is written to. -/
  child : ∀ (directory : String), ∀ r ∈ table,
    Files.Path.components (Files.Path.join directory (Build.sourceName r.symbol)) =
      Files.Path.components directory ++ [.name (Build.sourceName r.symbol)]
  /-- No file is written twice. -/
  apart : ∀ directory : String, (table.map fun r => Files.Path.components
    (Files.Path.join directory (Build.sourceName r.symbol))).Nodup

/-- Different symbols without separators have different files. -/
theorem nodup_components_sourceName {table : List Request} (hd : (table.map (·.symbol)).Nodup)
    (hflat : ∀ r ∈ table, '/' ∉ r.symbol.toList) (directory : String) :
    (table.map fun r => Files.Path.components
      (Files.Path.join directory (Build.sourceName r.symbol))).Nodup := by
  rw [List.Nodup, List.pairwise_map] at hd ⊢
  refine List.Pairwise.imp_of_mem ?_ hd
  intro r s hr hs hne heq
  rw [Files.Path.components_join_name _ (isName_sourceName (hflat r hr)),
    Files.Path.components_join_name _ (isName_sourceName (hflat s hs)),
    List.append_cancel_left_eq, List.singleton_inj, Files.Path.Component.name.injEq] at heq
  exact hne (sourceName_injective heq)

/-- **The allocation is total and injective.** The loop that hands out the symbols ends, whatever
paths it begins with. What it has granted then, in the order of the symbols, is a table for these
paths. -/
theorem isTable_allocate (paths : List String) :
    (∀ fuel, (distinctPaths paths).length * (distinctPaths paths).length ≤ fuel →
      ∃ granted, assign fuel [] ((distinctPaths paths).map .first) = some granted ∧
        (allocate paths).Perm granted) ∧
    IsTable paths (allocate paths) := by
  obtain ⟨count, hs, -⟩ := exists_settled (ordered_distinctPaths paths).nodup
  have hflat : ∀ r ∈ allocate paths, '/' ∉ r.symbol.toList ∧ '\\' ∉ r.symbol.toList := by
    intro r hr
    rw [(mem_allocate hs hr).2]
    exact notMem_candidate r.path (count r.path)
  constructor
  · intro fuel hf
    obtain ⟨granted, heq, hgranted⟩ := exists_assign_distinctPaths hs hf
    exact ⟨granted, heq, (allocate_perm hs).trans hgranted.symm⟩
  · exact {
      total := fun p hp => existsUnique_mem_allocate hp
      path_mem := fun r hr => mem_of_mem_distinctPaths (mem_allocate hs hr).1
      injective := nodup_symbol_allocate hs
      derived := fun r hr =>
        ⟨count r.path, by rw [(mem_allocate hs hr).2, candidate_eq]⟩
      flat := hflat
      child := fun directory r hr =>
        Files.Path.components_join_name directory (isName_sourceName (hflat r hr).1)
      apart := nodup_components_sourceName (nodup_symbol_allocate hs) fun r hr => (hflat r hr).1 }

end LivePages.Site
