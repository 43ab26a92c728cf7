import LivePages.Proofs.Build.PageTable
import LivePages.Proofs.Front.Forwarding
import LivePages.Proofs.Site.PageAddress

/-!
# Every Page Is Reachable

Five parts of the system treat the same path: the scan that takes a file for a page, the address
that the page gets, the route of a request, the target that the front end writes, and the page
table of the backend. For the pages of a scan without backslashes in their paths they agree. So a
request whose path decodes to the address of a page is answered by the handler that was generated
from this page, as long as the target of the forwarded request is not too long.

## Main results

* `Reaches`: what becomes of a request for a page.
* `page_reached`: a page that is served is reached at its address.
* `page_unreached_long`: a request whose own target is short enough, and the forwarded one not.
-/

namespace LivePages.Front

open Http (Uri)

/-! ### Requests for a page -/

/-- What becomes of a request for the page of a request for a symbol, when a build has compiled it
in its turn, and the backend at an address has the page table of this build and runs, for every
symbol, what the source of the symbol was compiled to. -/
structure Reaches (config : Config) (done : Build.Generated) (r : Site.Request)
    (turn : Build.Workspace) (page : Build.CompiledPage) (handlerOf : String → Backend.Handler)
    (addr : String) (request : Http.Request) : Prop where
  /-- The front end takes the path for the address of the page, and asks the live backend. -/
  route : classify request.uri.decodedPath = .page (Site.pageUrl r.path) ∧
    ∀ front : FrontEnd, front.answer request = front.page (Site.pageUrl r.path) request
  /-- The backend gets a request for the same path with the same query, all else unchanged. -/
  passes : (targetText addr (Site.pageUrl r.path) request.uri.query).utf8ByteSize ≤ Uri.limit →
    ∃ out, forwarded addr (Site.pageUrl r.path) request = .ok out ∧
      out.uri.authority = addr ∧ out.path = Site.pageUrl r.path ∧ out.query? = request.query? ∧
      out.method = request.method ∧ out.body = request.body
  /-- A request whose target would be too long is answered by the front end itself. -/
  refuses : Uri.limit < (targetText addr (Site.pageUrl r.path) request.uri.query).utf8ByteSize →
    forwarded addr (Site.pageUrl r.path) request = .error (.badTarget .tooLong)
  /-- The page table leads to what the source of the symbol of this page was compiled to. -/
  lookup : (Backend.Registry.ofPages
    (done.pages.map fun row => (row.url, handlerOf row.symbol))).lookup? (Site.pageUrl r.path) =
      some (handlerOf r.symbol)
  /-- No other page of the table has this symbol. -/
  sole : ∀ row ∈ done.pages, row.symbol = r.symbol → row.url = Site.pageUrl r.path
  /-- The source of the symbol was generated from the text of the file of this page. -/
  source : ∃ text, turn.tree.readText (Files.Path.join config.webRoot r.path) = .ok text ∧
    page.source = Source.renderHandler
      (Page.parse (Site.loader turn.tree config.webRoot) text).parts (Site.pageUrl r.path) ∧
    ∃ tree, turn.tree.write (Files.Path.join config.srcDir (Build.sourceName r.symbol))
      (Text.Utf8.ofString page.source) turn.now = .ok tree

/-- Where the front end shows its own state, no page is. -/
theorem path_ne_of_classify {uri : Uri} {url : String} (h : classify uri.decodedPath = .page url) :
    uri.path ≠ healthPath ∧ uri.path ≠ statusPath := by
  have hdecoded {path : String} (hpath : uri.path = path) :
      classify (String.ofList (Text.Percent.decodeText path.toList)) = .page url := hpath ▸ h
  constructor <;> intro hpath
  · have hroute : classify (String.ofList (Text.Percent.decodeText healthPath.toList)) =
        .notFound := by decide
    exact absurd (hroute.symm.trans (hdecoded hpath)) (by simp)
  · have hroute : classify (String.ofList (Text.Percent.decodeText statusPath.toList)) =
        .notFound := by decide
    exact absurd (hroute.symm.trans (hdecoded hpath)) (by simp)

/-- A request whose path decodes to the address of a page goes to the backend. -/
theorem answer_of_classify {request : Http.Request} {url : String}
    (h : classify request.uri.decodedPath = .page url) (front : FrontEnd) :
    front.answer request = front.page url request := by
  obtain ⟨hhealth, hstatus⟩ := path_ne_of_classify h
  rw [FrontEnd.answer, if_neg hhealth, if_neg hstatus, h]

/-! ### The page table -/

section

variable {tree : Files.Tree} {config : Config} {found : Site.Scan} {ws ws' : Build.Workspace}
  {done : Build.Generated} {r : Site.Request}

/-- The addresses of the page table of a scan are different. -/
theorem nodup_url_pages (hscan : Site.scan tree config.webRoot = .ok found)
    (hslashes : ∀ q ∈ found.pages, '\\' ∉ q.path.toList)
    (hbuild : (Build.generate config (found.pages.map (·.path))).run.run ws = (.ok done, ws')) :
    (done.pages.map (·.url)).Nodup := by
  have hsub := (Build.pages_sublist hbuild).map (·.url)
  refine hsub.nodup ?_
  have hnodup := Site.nodup_pageUrl_allocate hscan fun p hp q hq =>
    Site.pageUrl_inj hscan hslashes hp hq
  rw [List.map_map] at hnodup ⊢
  exact hnodup

/-- A row of the page table leads to what the source of its symbol was compiled to. -/
theorem lookup?_of_mem_pages (hnodup : (done.pages.map (·.url)).Nodup)
    {row : Source.EntryPage} (hrow : row ∈ done.pages) (handlerOf : String → Backend.Handler) :
    (Backend.Registry.ofPages
      (done.pages.map fun row => (row.url, handlerOf row.symbol))).lookup? row.url =
        some (handlerOf row.symbol) := by
  have hpaths : ((done.pages.map fun row => (row.url, handlerOf row.symbol)).map (·.1)).Nodup := by
    rw [List.map_map]
    exact hnodup
  exact Backend.Registry.lookup?_ofPages hpaths
    (List.mem_map_of_mem (f := fun row => (row.url, handlerOf row.symbol)) hrow)

/-- A symbol of the page table belongs to one page. -/
theorem url_of_symbol_eq {paths : List String}
    (hbuild : (Build.generate config paths).run.run ws = (.ok done, ws'))
    (hr : r ∈ Site.allocate paths) {row : Source.EntryPage} (hrow : row ∈ done.pages)
    (hsymbol : row.symbol = r.symbol) : row.url = Site.pageUrl r.path := by
  obtain ⟨s, hs, rfl⟩ := List.mem_map.mp ((Build.pages_sublist hbuild).subset hrow)
  rw [Site.eq_of_symbol_eq hr hs hsymbol.symm]
  rfl

end

/-- **Every page is reachable at its address, and at that of no other page.** Whatever pages a scan
has found, with no backslash in their paths, and whichever of them a build has compiled from these
paths and not left out: every request whose path decodes to the address of this page reaches it, at
every address of a backend that is an authority, unless the forwarded target is too long. -/
theorem page_reached {tree : Files.Tree} {config : Config} {found : Site.Scan}
    {p : Site.PageFile} {ws ws' turn : Build.Workspace} {done : Build.Generated}
    {r : Site.Request} {page : Build.CompiledPage} {addr target : String}
    {request : Http.Request} (hscan : Site.scan tree config.webRoot = .ok found)
    (hslashes : ∀ q ∈ found.pages, '\\' ∉ q.path.toList) (hp : p ∈ found.pages)
    (hbuild : (Build.generate config (found.pages.map (·.path))).run.run ws = (.ok done, ws'))
    (hturn : Build.CompilesTo config (found.pages.map (·.path)) ws r turn page)
    (hr : r.path = p.path) (hserved : page.includeOnly = false) (haddr : Uri.IsAuthority addr)
    (htarget : Uri.parse target = .ok request.uri)
    (hpath : request.uri.decodedPath = Site.pageUrl p.path)
    (handlerOf : String → Backend.Handler) :
    Reaches config done r turn page handlerOf addr request ∧
      ∀ q ∈ found.pages, Site.pageUrl q.path = Site.pageUrl p.path → q.path = p.path := by
  have hslash := hslashes p hp
  have hhead := Site.head?_ne_slash hscan hp
  have hapart : ∀ q ∈ found.pages, Site.pageUrl q.path = Site.pageUrl p.path →
      q.path = p.path := fun q hq heq => Site.pageUrl_inj hscan hslashes hq hp heq
  refine ⟨?_, hapart⟩
  rw [← hr] at hpath hslash hhead
  -- the page is read from its own file, so its path is not empty and ends in its name
  obtain ⟨text, hload, hsource⟩ := hturn.exists_load
  rw [Site.loadName_pageUrl hhead hslash] at hload
  obtain ⟨hne, hread⟩ := Site.exists_readText_of_load hload
  obtain ⟨name, hlast, hname⟩ := Site.exists_pageName_pageUrl hscan hp (hslashes p hp) (hr ▸ hne)
  have hroute : classify request.uri.decodedPath = .page (Site.pageUrl r.path) := by
    rw [hpath]
    exact classify_of_isPageName (hr ▸ hlast) hname
  -- it is passed on under the same path
  have hurl := Site.head?_toList_pageUrl r.path
  have hforward := forwarded_eq haddr hurl htarget
  -- and its row leads to its own source
  obtain ⟨hrow, hwrite⟩ := Build.rowOf_mem_of_compilesTo hbuild hturn hserved
  have hnodup := nodup_url_pages hscan hslashes hbuild
  exact {
    route := ⟨hroute, answer_of_classify hroute⟩
    passes := fun hshort => by
      rw [if_neg (Nat.not_lt.mpr hshort)] at hforward
      exact ⟨_, hforward, rfl, decodedPath_forwardedUri addr hurl _, rfl, rfl, rfl⟩
    refuses := fun hlong => by rwa [if_pos hlong] at hforward
    lookup := lookup?_of_mem_pages hnodup hrow handlerOf
    sole := fun row hmem hsymbol => url_of_symbol_eq hbuild hturn.mem_allocate hmem hsymbol
    source := ⟨text, hread, hsource, hwrite⟩ }

namespace Sample

/-- A site with a page whose path has to be written with percent codes. -/
def tree : Files.Tree :=
  { nodes := [(["web"], .directory 1), (["web", "a"], .directory 1),
      (["web", "a", "b c%.RSP"], .file (Text.Utf8.ofString "<%= 1 %>") 2 false)] }

/-- A configuration with the usual directories. -/
def config : Config :=
  { runtimeCrate := "/rt" }

/-- The work before the build. -/
def start : Build.Workspace :=
  ⟨tree, 5, []⟩

/-- The address of the backend. -/
def addr : String := "127.0.0.1:18181"

theorem isAuthority_addr : Uri.IsAuthority addr := by
  rfl

/-- A request for the page. -/
def request (query : String) : Http.Request :=
  { method := "GET", uri := { writtenPath := "/a/b%20c%25.RSP", query := some query } }

/-- The target of a request for the page. -/
def target (query : String) : String :=
  "/a/b%20c%25.RSP" ++ ("?" ++ query)

/-- The page is found and compiled, and served. -/
theorem exists_build : ∃ found p done ws r turn page,
    Site.scan tree config.webRoot = .ok found ∧ (∀ q ∈ found.pages, '\\' ∉ q.path.toList) ∧
      p ∈ found.pages ∧
      (Build.generate config (found.pages.map (·.path))).run.run start = (.ok done, ws) ∧
      Build.CompilesTo config (found.pages.map (·.path)) start r turn page ∧
      r.path = p.path ∧ page.includeOnly = false ∧
      ∀ query, (request query).uri.decodedPath = Site.pageUrl p.path := by
  -- nothing is built before the turn of the first request
  obtain ⟨found, hscan, hslashes, p, hp, done, hbuild, r, hfirst, hr, made, hdirs, page, hpage,
      hserved, hpath⟩ :
      ∃ found ∈ (Site.scan tree config.webRoot).toOption,
        (∀ q ∈ found.pages, '\\' ∉ q.path.toList) ∧ ∃ p ∈ found.pages,
        ∃ done ∈ ((Build.generate config (found.pages.map (·.path))).run.run start).1.toOption,
        ∃ r ∈ (Site.allocate (found.pages.map (·.path))).head?, r.path = p.path ∧
        ∃ made ∈ ((Build.Work.makeDirs config.srcDir).run.run start).1.toOption,
        ∃ page ∈ (Build.compilePage ((Build.Work.makeDirs config.srcDir).run.run start).2.tree
          config.webRoot r.path).toOption,
        page.1.includeOnly = false ∧ (request "").uri.decodedPath = Site.pageUrl p.path := by
    decide +kernel
  obtain ⟨after, hafter⟩ := List.head?_eq_some_iff.mp hfirst
  have hturn : (do Build.Work.makeDirs config.srcDir; [].foldlM (Build.generatePage config) {}
      ).run.run start = (.ok {}, ((Build.Work.makeDirs config.srcDir).run.run start).2) :=
    Build.run_bind_eq_ok_iff.mpr ⟨made, _, eq_mk_of_mem_toOption hdirs, rfl⟩
  exact ⟨found, p, done, _, r, _, page.1, eq_ok_of_mem_toOption hscan, hslashes, hp,
    eq_mk_of_mem_toOption hbuild,
    ⟨[], after, {}, page.2, hafter, hturn, eq_ok_of_mem_toOption hpage⟩, hr, hserved,
    fun _ => hpath⟩

/-- The target is read if the query is not too long. -/
theorem parse_target (query : String) (hquery : ∀ c ∈ query.toList, Uri.isQueryChar c = true)
    (hshort : (target query).utf8ByteSize ≤ Uri.limit) :
    Uri.parse (target query) = .ok (request query).uri := by
  have htext : (target query).toList =
      "/a/b%20c%25.RSP".toList ++ Uri.queryText (some query.toList) :=
    (String.toList_append ..).trans (congrArg _ (String.toList_append ..))
  have hpath : "/a/b%20c%25.RSP".toList.all Uri.isPathChar = true := by decide
  have hparse := Uri.parse_origin (by decide) (List.all_eq_true.mp hpath)
    (by simpa using hquery) htext hshort
  simpa [request] using hparse

/-- A query of a length. -/
def longQuery (n : ℕ) : String :=
  String.ofList (List.replicate n 'x')

theorem utf8ByteSize_longQuery (n : ℕ) : (longQuery n).utf8ByteSize = n := by
  induction n with
  | zero => rfl
  | succ n ih =>
      rw [longQuery, List.replicate_succ, String.ofList_cons, String.utf8ByteSize_append,
        String.utf8ByteSize_singleton, ← longQuery, ih, show 'x'.utf8Size = 1 from rfl,
        Nat.add_comm]

theorem parse_longQuery {n : ℕ} (h : n ≤ 65518) :
    Uri.parse (target (longQuery n)) = .ok (request (longQuery n)).uri := by
  refine parse_target (longQuery n) ?_ ?_
  · intro c hc
    rw [longQuery, String.toList_ofList] at hc
    rw [List.eq_of_mem_replicate hc]
    rfl
  · have hpath : "/a/b%20c%25.RSP".utf8ByteSize = 15 := by decide
    have hmark : "?".utf8ByteSize = 1 := by decide
    rw [target, String.utf8ByteSize_append, String.utf8ByteSize_append, utf8ByteSize_longQuery,
      hpath, hmark, Uri.limit]
    omega

end Sample

/-- A request with a query for a page below a directory, and a short target. -/
theorem page_reached_encoded : ∃ found p done ws r turn page,
    Site.scan Sample.tree Sample.config.webRoot = .ok found ∧ p ∈ found.pages ∧
      (Build.generate Sample.config (found.pages.map (·.path))).run.run Sample.start =
        (.ok done, ws) ∧
      Build.CompilesTo Sample.config (found.pages.map (·.path)) Sample.start r turn page ∧
      (targetText Sample.addr (Site.pageUrl p.path) (some "q=1")).utf8ByteSize ≤ Uri.limit ∧
      Reaches Sample.config done r turn page
        (fun symbol _ reply => .finished { reply with body := symbol }) Sample.addr
        (Sample.request "q=1") := by
  obtain ⟨found, p, done, ws, r, turn, page, hscan, hslashes, hp, hbuild, hturn, hr, hserved,
    hpath⟩ := Sample.exists_build
  have htarget : Uri.parse (Sample.target "q=1") = .ok (Sample.request "q=1").uri :=
    Sample.parse_target "q=1" (List.all_eq_true.mp rfl) (by decide)
  refine ⟨found, p, done, ws, r, turn, page, hscan, hp, hbuild, hturn, ?_,
    (page_reached hscan hslashes hp hbuild hturn hr hserved Sample.isAuthority_addr htarget
      (hpath "q=1") _).1⟩
  rw [← hpath "q=1"]
  decide +kernel

/-- **A request may be too long to be forwarded.** Its own target is not, but the one that the
front end writes has the scheme and the address of the backend in front of it. So the backend
never gets this request for a page that it serves. -/
theorem page_unreached_long : ∃ found p done ws r turn page,
    Site.scan Sample.tree Sample.config.webRoot = .ok found ∧
      (∀ q ∈ found.pages, '\\' ∉ q.path.toList) ∧ p ∈ found.pages ∧
      (Build.generate Sample.config (found.pages.map (·.path))).run.run Sample.start =
        (.ok done, ws) ∧
      Build.CompilesTo Sample.config (found.pages.map (·.path)) Sample.start r turn page ∧
      r.path = p.path ∧ page.includeOnly = false ∧ Uri.IsAuthority Sample.addr ∧
      Uri.parse (Sample.target (Sample.longQuery 65518)) =
        .ok (Sample.request (Sample.longQuery 65518)).uri ∧
      (Sample.request (Sample.longQuery 65518)).uri.decodedPath = Site.pageUrl p.path ∧
      forwarded Sample.addr (Site.pageUrl p.path) (Sample.request (Sample.longQuery 65518)) =
        .error (.badTarget .tooLong) := by
  obtain ⟨found, p, done, ws, r, turn, page, hscan, hslashes, hp, hbuild, hturn, hr, hserved,
    hpath⟩ := Sample.exists_build
  have htarget := Sample.parse_longQuery (Nat.le_refl 65518)
  refine ⟨found, p, done, ws, r, turn, page, hscan, hslashes, hp, hbuild, hturn, hr, hserved,
    Sample.isAuthority_addr, htarget, hpath _, ?_⟩
  have hurl := Site.head?_toList_pageUrl p.path
  have hquery : (Sample.request (Sample.longQuery 65518)).uri.query =
      some (Sample.longQuery 65518) := rfl
  have haddr : Sample.addr.utf8ByteSize = 15 := by decide
  rw [forwarded_eq Sample.isAuthority_addr hurl htarget, if_pos]
  -- without its path it has 65541 bytes already
  rw [hquery, utf8ByteSize_targetText, Sample.utf8ByteSize_longQuery, haddr, Uri.limit]
  omega

end LivePages.Front
