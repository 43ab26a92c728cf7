import LivePages.Proofs.Except
import LivePages.Proofs.Site.ScannedPaths
import LivePages.Proofs.Site.SymbolTable

/-!
# The Addresses of Pages

The address of a page is its path with slashes only. A path below the web root starts with no
slash, so nothing is lost unless there is a backslash in it: then the page may share its address
with another one, and it is looked for under a path that is not its own. For the pages of a scan
the addresses are as different as the paths are when both separators are read alike.

## Main results

* `pageUrl_eq_iff`: the paths that share an address.
* `pageUrl_inj`: pages without backslashes in their paths share no address.
* `nodup_pageUrl_allocate`: the requests of a scan are for different addresses.
* `exists_readText_of_load`: what is loaded is the text of a file below the root.
-/

namespace LivePages.Site

variable {tree : Files.Tree} {root : String} {found : Scan} {p q : PageFile}

/-! ### Paths that share an address -/

/-- A path read with both separators alike, and with none at its start. -/
def slashed (path : String) : List Char :=
  (path.toList.map fun c => if c = '\\' then '/' else c).dropWhile (· = '/')

/-- Two paths share their address if they are alike when both separators are. -/
theorem pageUrl_eq_iff {a b : String} : pageUrl a = pageUrl b ↔ slashed a = slashed b := by
  rw [pageUrl, pageUrl, String.ofList_inj, List.cons.injEq, eq_self, true_and]
  rfl

/-- A path with no slash at its start and no backslash is read as it is. -/
theorem slashed_eq_toList {path : String} (hhead : path.toList.head? ≠ some '/')
    (hslash : '\\' ∉ path.toList) : slashed path = path.toList := by
  have hurl := toList_pageUrl hhead hslash
  rw [pageUrl, String.toList_ofList] at hurl
  exact (List.cons.inj hurl).2

/-- **Pages without backslashes in their paths share no address.** -/
theorem pageUrl_inj (h : scan tree root = .ok found)
    (hslashes : ∀ q ∈ found.pages, '\\' ∉ q.path.toList) (hp : p ∈ found.pages)
    (hq : q ∈ found.pages) (heq : pageUrl p.path = pageUrl q.path) : p.path = q.path := by
  have halike := pageUrl_eq_iff.mp heq
  rw [slashed_eq_toList (head?_ne_slash h hp) (hslashes p hp),
    slashed_eq_toList (head?_ne_slash h hq) (hslashes q hq)] at halike
  exact String.toList_injective halike

/-! ### What is loaded for an address -/

/-- What is loaded is the text of a file below the root. -/
theorem exists_readText_of_load {path text : String}
    (h : (loader tree root).load path = .ok text) :
    path ≠ "" ∧ tree.readText (Files.Path.join root path) = .ok text := by
  obtain ⟨file, hresolve, hread⟩ := bind_eq_ok_iff.mp h
  rw [resolve] at hresolve
  split at hresolve
  · next hconfined =>
    obtain rfl := Except.ok.inj hresolve
    refine ⟨?_, ?_⟩
    · rintro rfl
      exact absurd hconfined (by decide)
    · cases htext : tree.readText (Files.Path.join root path) with
      | error e => rw [htext] at hread; exact absurd hread (by simp)
      | ok t => rw [htext] at hread; exact congrArg _ (Except.ok.inj hread)
  · exact absurd hresolve (by simp)

/-- The address of a page that can be loaded ends in the name of a page. -/
theorem exists_pageName_pageUrl (h : scan tree root = .ok found) (hp : p ∈ found.pages)
    (hslash : '\\' ∉ p.path.toList) (hne : p.path ≠ "") :
    ∃ name, (Text.splitOn '/' (pageUrl p.path).toList).getLast? = some name ∧
      IsPageName name := by
  obtain ⟨name, hlast, hname⟩ := exists_pageName h hp hne
  refine ⟨name, ?_, hname⟩
  rw [toList_pageUrl (head?_ne_slash h hp) hslash, Text.splitOn, if_pos rfl,
    List.getLast?_cons, hlast]
  rfl

/-! ### Requests for symbols -/

/-- The requests of a scan are for its pages, each of them once. -/
theorem path_allocate_perm_of_scan (h : scan tree root = .ok found) :
    ((allocate (found.pages.map (·.path))).map (·.path)).Perm (found.pages.map (·.path)) := by
  have hperm := path_allocate_perm (found.pages.map (·.path))
  rwa [(ordered_scan h).distinctPaths_eq] at hperm

/-- No two requests of a scan are for the same address, if no two of its pages share theirs. -/
theorem nodup_pageUrl_allocate (h : scan tree root = .ok found)
    (hapart : ∀ p ∈ found.pages, ∀ q ∈ found.pages, pageUrl p.path = pageUrl q.path →
      p.path = q.path) :
    (((allocate (found.pages.map (·.path))).map (·.path)).map pageUrl).Nodup := by
  have hperm := path_allocate_perm_of_scan h
  refine List.Nodup.map_on ?_ (hperm.nodup_iff.mpr (ordered_scan h).nodup)
  intro a ha b hb heq
  obtain ⟨p, hp, rfl⟩ := List.mem_map.mp (hperm.mem_iff.mp ha)
  obtain ⟨q, hq, rfl⟩ := List.mem_map.mp (hperm.mem_iff.mp hb)
  exact hapart p hp q hq heq

/-- A symbol belongs to one request. -/
theorem eq_of_symbol_eq {paths : List String} {r s : Request} (hr : r ∈ allocate paths)
    (hs : s ∈ allocate paths) (heq : r.symbol = s.symbol) : r = s := by
  obtain ⟨count, hsettled, -⟩ := exists_settled (ordered_distinctPaths paths).nodup
  exact List.inj_on_of_nodup_map (nodup_symbol_allocate hsettled) hr hs heq

end LivePages.Site
