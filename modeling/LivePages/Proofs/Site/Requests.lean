import LivePages.Build.Page
import LivePages.Proofs.Files.PathOrder
import LivePages.Proofs.Site.Allocation

/-!
# The Pages of a Scan

A scan lists its pages in the strict order of their paths, and so no page is found twice. For
such a list of pages there is one request for a symbol for every page, so that a build that
answers all requests has looked at all pages. A page is looked for under its address; it is found
there unless its path has a backslash.

## Main results

* `ordered_scan`: the pages of a scan are in order.
* `path_allocate_perm`: every page gets its symbol.
* `load_of_isLegible`: a page with a legible path is read from its own file.
-/

namespace LivePages.Site

/-! ### Order -/

/-- The paths are in strict order. -/
def Ordered (paths : List String) : Prop :=
  paths.Pairwise fun a b => Files.Path.compare a b = .lt

/-- The order of paths is that of their components. -/
theorem ordered_iff {paths : List String} : Ordered paths ↔
    (paths.map Files.Path.components).Pairwise fun a b =>
      Files.Path.compareComponents a b = .lt := by
  rw [List.pairwise_map]
  exact Iff.rfl

/-- Paths in order are different. -/
theorem Ordered.nodup {paths : List String} (h : Ordered paths) : paths.Nodup := by
  refine List.Pairwise.imp ?_ h
  rintro a b hlt rfl
  rw [Files.Path.compare_eq_iff.mpr rfl] at hlt
  exact absurd hlt (by simp)

/-- Where the paths of a list with one more path come from. -/
theorem mem_insertPath {path q : String} {paths : List String} (h : q ∈ insertPath path paths) :
    q = path ∨ q ∈ paths := by
  induction paths with
  | nil => exact Or.inl (List.mem_singleton.mp h)
  | cons p paths ih =>
      rw [insertPath] at h
      split at h
      · exact List.mem_cons.mp h
      · exact (List.mem_cons.mp h).imp_right (List.mem_cons_of_mem _)
      · rcases List.mem_cons.mp h with rfl | h
        · exact Or.inr List.mem_cons_self
        · exact (ih h).imp_right (List.mem_cons_of_mem _)

/-- A path is inserted where it belongs. -/
theorem ordered_insertPath {path : String} {paths : List String} (h : Ordered paths) :
    Ordered (insertPath path paths) := by
  induction paths with
  | nil => exact List.pairwise_singleton _ _
  | cons p paths ih =>
      obtain ⟨hfirst, hrest⟩ := List.pairwise_cons.mp h
      rw [insertPath]
      split
      · rename_i hlt
        refine List.pairwise_cons.mpr ⟨?_, h⟩
        intro q hq
        rcases List.mem_cons.mp hq with rfl | hq
        · exact hlt
        · exact Files.Path.compare_lt_trans hlt (hfirst q hq)
      · rename_i heq
        refine List.pairwise_cons.mpr ⟨?_, hrest⟩
        intro q hq
        rw [Files.Path.compare, Files.Path.compare_eq_iff.mp heq]
        exact hfirst q hq
      · rename_i hgt
        refine List.pairwise_cons.mpr ⟨?_, ih hrest⟩
        intro q hq
        rcases mem_insertPath hq with rfl | hq
        · exact Files.Path.compare_gt_iff.mp hgt
        · exact hfirst q hq

/-! ### Scans -/

/-- Pages are inserted like their paths, up to the spelling of equal ones. -/
theorem components_insertPage (page : PageFile) (pages : List PageFile) :
    ((insertPage page pages).map (·.path)).map Files.Path.components =
      (insertPath page.path (pages.map (·.path))).map Files.Path.components := by
  induction pages with
  | nil => rfl
  | cons p pages ih =>
      rw [insertPage, List.map_cons (l := pages), insertPath]
      cases hcompare : Files.Path.compare page.path p.path with
      | lt => rfl
      | eq =>
          have heq := Files.Path.compare_eq_iff.mp hcompare
          rw [List.map_cons, List.map_cons, List.map_cons, heq]
      | gt => exact congrArg (_ :: ·) ih

/-- **The pages of a scan are in order.** -/
theorem ordered_scan {tree : Files.Tree} {root : String} {found : Scan}
    (h : scan tree root = .ok found) : Ordered (found.pages.map (·.path)) := by
  rw [scan] at h
  split at h
  · exact absurd h (by simp)
  · obtain rfl := Except.ok.inj h
    have hnil : Ordered (([] : List PageFile).map (·.path)) := List.Pairwise.nil
    refine List.foldlRecOn (motive := fun pages : List PageFile => Ordered (pages.map (·.path)))
      _ _ hnil ?_
    intro pages hpages page _
    rw [ordered_iff, components_insertPage, ← ordered_iff]
    exact ordered_insertPath hpages

/-! ### Requests -/

/-- Of paths with the same components one is kept. -/
theorem ordered_distinctPaths (paths : List String) : Ordered (distinctPaths paths) := by
  have hnil : Ordered [] := List.Pairwise.nil
  exact List.foldlRecOn (motive := Ordered) _ _ hnil fun _ h _ _ => ordered_insertPath h

/-- A path that comes after all others goes to the end. -/
theorem insertPath_of_last {path : String} {paths : List String}
    (h : ∀ p ∈ paths, Files.Path.compare p path = .lt) :
    insertPath path paths = paths ++ [path] := by
  induction paths with
  | nil => rfl
  | cons p paths ih =>
      have hgt := Files.Path.compare_gt_iff.mpr (h p List.mem_cons_self)
      rw [insertPath, hgt]
      exact congrArg (p :: ·) (ih fun q hq => h q (List.mem_cons_of_mem _ hq))

/-- Paths in order are left as they are. -/
theorem Ordered.distinctPaths_eq {paths : List String} (h : Ordered paths) :
    distinctPaths paths = paths := by
  suffices hfold : ∀ (rest sorted : List String), Ordered (sorted ++ rest) →
      rest.foldl (fun sorted path => insertPath path sorted) sorted = sorted ++ rest from
    hfold paths [] h
  intro rest
  induction rest with
  | nil => exact fun sorted _ => (List.append_nil sorted).symm
  | cons path rest ih =>
      intro sorted hsorted
      have hlast : ∀ p ∈ sorted, Files.Path.compare p path = .lt :=
        fun p hp => (List.pairwise_append.mp hsorted).2.2 p hp path List.mem_cons_self
      have happ : sorted ++ path :: rest = (sorted ++ [path]) ++ rest := by simp
      rw [List.foldl_cons, insertPath_of_last hlast, happ]
      exact ih _ (happ ▸ hsorted)

/-- A granted request is put somewhere into the list. -/
theorem insertGranted_perm (g : Request) (granted : List Request) :
    (insertGranted g granted).Perm (g :: granted) := by
  induction granted with
  | nil => exact List.Perm.refl _
  | cons h granted ih =>
      rw [insertGranted]
      split
      · exact List.Perm.refl _
      · exact (ih.cons h).trans (List.Perm.swap g h granted)

/-- Sorting loses no granted request. -/
theorem foldl_insertGranted_perm (granted sorted : List Request) :
    (granted.foldl (fun sorted g => insertGranted g sorted) sorted).Perm
      (granted ++ sorted) := by
  induction granted generalizing sorted with
  | nil => exact List.Perm.refl _
  | cons g granted ih =>
      refine (ih _).trans ?_
      exact ((insertGranted_perm g sorted).append_left granted).trans List.perm_middle

/-- **Every page gets its symbol.** -/
theorem path_allocate_perm (paths : List String) :
    ((allocate paths).map (·.path)).Perm (distinctPaths paths) := by
  have hd := (ordered_distinctPaths paths).nodup
  obtain ⟨count, hs, -⟩ := exists_settled hd
  obtain ⟨granted, heq, hend⟩ := exists_assign hs hd _ [] _ (underway_first (List.Perm.refl _))
    (answersOwed_first_le hs (List.Perm.refl _))
  have hall := hend.all
  rw [List.append_nil] at hall
  rw [allocate]
  simp only [heq, Option.getD_some]
  refine ((foldl_insertGranted_perm granted []).map _).trans ?_
  rw [List.append_nil]
  exact hall

/-! ### Reading a page -/

/-- The page of a path is looked for under this path: there is no backslash in it, and it does not
lead out of the web root. -/
def isLegible (path : String) : Bool :=
  !path.toList.contains '\\' && isConfined path

/-- There are no slashes at the start of a path that does not start with one. -/
theorem dropWhile_slash {path : String} (h : path.toList.head? ≠ some '/') :
    path.toList.dropWhile (· = '/') = path.toList := by
  cases hlist : path.toList with
  | nil => rfl
  | cons c rest =>
      refine List.dropWhile_cons_of_neg ?_
      rw [hlist, List.head?_cons] at h
      simpa using h

/-- An address starts with a slash. -/
theorem head?_toList_pageUrl (path : String) : (pageUrl path).toList.head? = some '/' := by
  rw [pageUrl, String.toList_ofList, List.head?_cons]

/-- The address of a path with no slash at its start and no backslash. -/
theorem toList_pageUrl {path : String} (hhead : path.toList.head? ≠ some '/')
    (hslash : '\\' ∉ path.toList) : (pageUrl path).toList = '/' :: path.toList := by
  have hmap : (path.toList.map fun c => if c = '\\' then '/' else c) = path.toList := by
    conv_rhs => rw [← List.map_id path.toList]
    refine List.map_congr_left fun c hc => if_neg ?_
    rintro rfl
    exact hslash hc
  rw [pageUrl, hmap, dropWhile_slash hhead, String.toList_ofList]

/-- The name under which the page of such a path is looked for is the path. -/
theorem loadName_pageUrl {path : String} (hhead : path.toList.head? ≠ some '/')
    (hslash : '\\' ∉ path.toList) : Build.loadName (pageUrl path) = path := by
  rw [Build.loadName, toList_pageUrl hhead hslash, List.dropWhile_cons_of_pos (by simp),
    dropWhile_slash hhead, String.ofList_toList]

/-- A confined path does not start with a slash. -/
theorem head?_ne_slash_of_isConfined {path : String} (h : isConfined path = true) :
    path.toList.head? ≠ some '/' := by
  intro hhead
  have habsolute : Files.Path.isAbsolute path = true := by
    rw [Files.Path.isAbsolute, hhead]
    rfl
  rw [isConfined, Bool.and_eq_true, Files.Path.components, if_pos habsolute] at h
  exact absurd h.2 (by simp)

/-- A legible path is the name of its page. -/
theorem loadName_of_isLegible {path : String} (h : isLegible path = true) :
    Build.loadName (pageUrl path) = path := by
  rw [isLegible, Bool.and_eq_true, Bool.not_eq_true'] at h
  refine loadName_pageUrl (head?_ne_slash_of_isConfined h.2) fun hmem => ?_
  rw [List.contains_iff_mem.mpr hmem] at h
  exact absurd h.1 (by simp)

/-- **A page with a legible path is read from its own file.** -/
theorem load_of_isLegible {tree : Files.Tree} {root path : String} (h : isLegible path = true) :
    ((loader tree root).load (Build.loadName (pageUrl path))).toOption =
      (tree.readText (Files.Path.join root path)).toOption := by
  have hconfined : isConfined path = true := by
    rw [isLegible, Bool.and_eq_true] at h
    exact h.2
  have hresolve : resolve root path = .ok (Files.Path.join root path) := if_pos hconfined
  rw [loadName_of_isLegible h]
  simp only [loader, hresolve, bind, Except.bind]
  cases tree.readText (Files.Path.join root path) <;> rfl

end LivePages.Site
