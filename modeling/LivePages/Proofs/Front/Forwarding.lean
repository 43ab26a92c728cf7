import LivePages.Front.Proxy
import LivePages.Proofs.Http.Target
import LivePages.Proofs.Site.ScannedPaths
import LivePages.Proofs.Text.Percent

/-!
# Forwarded Requests

The front end takes a path for that of a page by the name at its end, and asks the backend for the
page by a target that it writes itself. Unless that target is longer than a target may be, the
backend reads the same path and the same query from it.

## Main results

* `classify_of_isPageName`: a path that ends in the name of a page is the address of a page.
* `forwarded_eq`: the request that is passed on, and what becomes of one whose target is too long.
* `decodedPath_forwardedUri`: the path that the backend reads.
-/

namespace LivePages.Front

open Http (Uri)

/-! ### Routes -/

/-- The extension of a path that ends in the name of a page. -/
theorem extension?_of_isPageName {path name : List Char}
    (hlast : (Text.splitOn '/' path).getLast? = some name) (hname : Site.IsPageName name) :
    extension? path = some Site.pageExtension := by
  obtain ⟨stem, extension, hsplit, hstem, hcase⟩ := hname
  have hfound : (Text.splitOn '/' path).getLastD [] = name := by
    rw [List.getLastD_eq_getLast?, hlast]
    rfl
  rw [extension?, hfound, hsplit]
  simp [hstem, hcase]

/-- A path that ends in a slash has no extension. -/
theorem extension?_append_slash (path : List Char) : extension? (path ++ ['/']) = none := by
  have hlast : (Text.splitOn '/' (path ++ ['/'])).getLastD [] = [] := by
    rw [Text.splitOn_append_cons, List.getLastD_eq_getLast?]
    simp [Text.splitOn]
  rw [extension?, hlast]
  rfl

/-- **A path that ends in the name of a page is the address of a page.** -/
theorem classify_of_isPageName {path : String} {name : List Char}
    (hlast : (Text.splitOn '/' path.toList).getLast? = some name) (hname : Site.IsPageName name) :
    classify path = .page path := by
  have hextension := extension?_of_isPageName hlast hname
  have hslash : path.toList.getLast? ≠ some '/' := by
    intro hend
    obtain ⟨front, hfront⟩ := List.getLast?_eq_some_iff.mp hend
    rw [hfront, extension?_append_slash] at hextension
    exact absurd hextension (by simp)
  simp only [classify, if_neg hslash, hextension, if_pos]

/-! ### Targets -/

theorem isPathChar_of_isPathSafe {c : Char} (h : isPathSafe c = true) :
    Uri.isPathChar c = true := by
  rw [isPathSafe, Bool.or_eq_true] at h
  rcases h with h | h
  · rw [Text.Percent.isAlphanumeric, Bool.and_eq_true] at h
    simp [Uri.isPathChar, h.2]
  · have hlist : "/-_.~".toList.all Uri.isPathChar = true := by decide
    exact List.all_eq_true.mp hlist c (List.contains_iff_mem.mp h)

/-- The path of a target, as it is written. -/
def writtenPath (url : String) : List Char :=
  Text.Percent.encode isPathSafe url.toList

theorem isPathChar_of_mem_writtenPath {url : String} :
    ∀ c ∈ writtenPath url, Uri.isPathChar c = true := by
  intro c hc
  rcases Text.Percent.mem_encode hc with hsafe | rfl | ⟨n, hn, rfl⟩
  · exact isPathChar_of_isPathSafe hsafe
  · decide
  · have hdigit : ∀ n < 16, Uri.isPathChar (Text.hexDigitUpper n) = true := by decide
    exact hdigit n hn

/-- A slash at the start is written as it is. -/
theorem head?_writtenPath {url : String} (h : url.toList.head? = some '/') :
    (writtenPath url).head? = some '/' := by
  obtain ⟨rest, hrest⟩ := List.head?_eq_some_iff.mp h
  rw [writtenPath, hrest, Text.Percent.encode, List.flatMap_cons, if_pos (by decide)]
  rfl

theorem toList_targetText (addr url : String) (query : Option String) :
    (targetText addr url query).toList = "http://".toList ++
      (addr.toList ++ (writtenPath url ++ Uri.queryText (query.map String.toList))) := by
  cases query <;> simp [targetText, toString, writtenPath, Uri.queryText]

/-- How long a target with a query is. -/
theorem utf8ByteSize_targetText (addr url query : String) :
    (targetText addr url (some query)).utf8ByteSize =
      8 + addr.utf8ByteSize + (String.ofList (writtenPath url)).utf8ByteSize +
        query.utf8ByteSize := by
  have htext : targetText addr url (some query) =
      "http://" ++ addr ++ String.ofList (writtenPath url) ++ "?" ++ query := by
    simp [targetText, toString, writtenPath]
  have hscheme : "http://".utf8ByteSize = 7 := by decide
  have hmark : "?".utf8ByteSize = 1 := by decide
  simp only [htext, String.utf8ByteSize_append, hscheme, hmark]
  omega

/-- The target of a forwarded request. -/
def forwardedUri (addr url : String) (query : Option String) : Uri :=
  ⟨some "http", addr, String.ofList (writtenPath url), query⟩

/-- **The backend reads the same path.** -/
theorem decodedPath_forwardedUri (addr : String) {url : String} (h : url.toList.head? = some '/')
    (query : Option String) : (forwardedUri addr url query).decodedPath = url := by
  have hne : String.ofList (writtenPath url) ≠ "" := by
    intro hempty
    have hhead := head?_writtenPath h
    rw [String.ofList_eq_empty_iff.mp hempty] at hhead
    exact absurd hhead (by simp)
  have hpath : (forwardedUri addr url query).path = String.ofList (writtenPath url) := by
    simp [Uri.path, forwardedUri, hne]
  rw [Uri.decodedPath, hpath, String.toList_ofList, writtenPath,
    Text.Percent.decodeText_encode (by decide), String.ofList_toList]

/-! ### Requests -/

/-- An authority is a legal header value. -/
theorem isHeaderValue_of_isAuthority {addr : String} (h : Uri.IsAuthority addr) :
    Http.isHeaderValue (Text.Utf8.ofString addr) = true := by
  refine List.all_eq_true.mpr fun b hb => ?_
  obtain ⟨c, hc, hbc⟩ := List.mem_flatMap.mp hb
  obtain ⟨hlow, hhigh⟩ := h.isVisible c hc
  rw [Text.Utf8.utf8EncodeChar_of_le (Nat.le_of_lt hhigh), List.mem_singleton] at hbc
  have hvalue : b.toNat = c.toNat := by
    rw [hbc, UInt8.toNat_ofNat_of_lt' (Nat.lt_trans hhigh (by decide))]
  have hspace : 0x20 ≤ b := UInt8.le_iff_toNat_le.mpr (by simp; omega)
  have hdelete : b ≠ 0x7F := fun heq => by
    rw [heq] at hvalue
    simp at hvalue
    omega
  simp [Http.isHeaderByte, hspace, hdelete]

/-- **The request that is passed on.** -/
theorem forwarded_eq {addr url : String} {request : Http.Request} {target : String}
    (haddr : Uri.IsAuthority addr) (hurl : url.toList.head? = some '/')
    (htarget : Uri.parse target = .ok request.uri) :
    forwarded addr url request =
      if (targetText addr url request.uri.query).utf8ByteSize > Uri.limit then
        .error (.badTarget .tooLong)
      else .ok { request with
        uri := forwardedUri addr url request.uri.query
        headers := request.headers.replace "host" (Text.Utf8.ofString addr) } := by
  have hquery : ∀ q ∈ request.uri.query.map String.toList, ∀ c ∈ q, Uri.isQueryChar c = true := by
    intro q hq
    obtain ⟨text, htext, rfl⟩ := Option.map_eq_some_iff.mp hq
    exact Uri.isQueryChar_of_mem_query htarget text htext
  have hparse := Uri.parse_absolute haddr (head?_writtenPath hurl) isPathChar_of_mem_writtenPath
    hquery (toList_targetText addr url request.uri.query)
  have hhost := isHeaderValue_of_isAuthority haddr
  rw [forwarded, hparse]
  split
  · rfl
  · have hsame : (request.uri.query.map String.toList).map String.ofList = request.uri.query := by
      simp
    simp only [Except.mapError, bind, Except.bind, hhost, hsame]
    rfl

end LivePages.Front
