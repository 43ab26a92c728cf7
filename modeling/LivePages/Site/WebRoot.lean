import LivePages.Error
import LivePages.Files.Walk
import LivePages.Log
import LivePages.Page.Expand

/-!
# The web root

The directory that the pages of a site live in.

## Main definitions

* `isPage` — whether a path names a page.
* `scan` — all pages below the root, with the times they were written.
* `isStale` — whether something built from pages has to be built again.
* `loader` — the files below the root, by paths that cannot leave it.
-/

namespace LivePages.Site

/-- The extension of pages, in any case. -/
def pageExtension : String := "rsp"

/-- The text with ASCII letters in lower case. -/
def asciiLower (s : List Char) : List Char :=
  s.map Char.toLower

/-- The path names a page. -/
def isPage (path : String) : Bool :=
  match Files.Path.extension? path with
  | some extension => asciiLower extension.toList == pageExtension.toList
  | none => false

/-- A page of the site. -/
structure PageFile where
  /-- The path below the root. -/
  path : String
  /-- When it was written. -/
  modified : Files.Time
  deriving DecidableEq, Repr

/-- The pages that a scan found, and its log. -/
structure Scan where
  /-- The pages, in the order of their paths. -/
  pages : List PageFile
  /-- The log. -/
  log : List Log.Line

/-- The page that a visited file is, if it is one. -/
def pageOfVisit? (root : String) : Files.Visit → Option PageFile
  | .file path modified =>
    if isPage path then (Files.Path.below? root path).map fun rel => ⟨rel, modified⟩ else none
  | _ => none

/-- What is reported about a visit. -/
def visitLine? : Files.Visit → Option Log.Line
  | .file _ _ => none
  | .unreadable path error =>
    some (Log.warn
      s!"Skipping unreadable entry: IO error for operation on {path}: {error.message}")
  | .loop path ancestor =>
    let trouble := s!"File system loop found: {path} points to an ancestor {ancestor}"
    some (Log.warn s!"Skipping unreadable entry: {trouble}")

/-- Puts a page into a list sorted by components. A page with the same components gets its time. -/
def insertPage (page : PageFile) : List PageFile → List PageFile
  | [] => [page]
  | p :: r =>
    match Files.Path.compare page.path p.path with
    | .lt => page :: p :: r
    | .eq => { p with modified := page.modified } :: r
    | .gt => p :: insertPage page r

/-- All pages below the root. -/
def scan (tree : Files.Tree) (root : String) : Except Error Scan :=
  if !tree.isDirectory root then .error (.config (.noWebRoot root))
  else
    let visits := tree.walk root
    let pages := (visits.filterMap (pageOfVisit? root)).foldl
      (fun sorted page => insertPage page sorted) []
    .ok ⟨pages, visits.filterMap visitLine? ++
      [Log.debug s!"Found {pages.length} pages under {root}"]⟩

/-- The file built from pages is missing, or some page was written after it. -/
def isStale (tree : Files.Tree) (built : String) (modified : List Files.Time) : Bool :=
  match tree.stat built with
  | .error _ => true
  | .ok node => modified.any (node.modified < ·)

/-- The path has only names and dots, so that it cannot leave the directory it starts from. -/
def isConfined (path : String) : Bool :=
  path ≠ "" && (Files.Path.components path).all fun
    | .name _ | .here => true
    | .root | .up => false

/-- The path of a file below the root. -/
def resolve (root path : String) : Except Page.LoadError String :=
  if isConfined path then .ok (Files.Path.join root path) else .error (.outside path)

/-- The files below the root. -/
def loader (tree : Files.Tree) (root : String) : Page.Loader where
  load path := do
    let file ← resolve root path
    match tree.readText file with
    | .ok text => .ok text
    | .error e => .error (.file e)
  texts := tree.texts
  mem_texts := by
    intro path text h
    cases hr : resolve root path with
    | error e => simp [hr, bind, Except.bind] at h
    | ok file =>
      simp only [hr, bind, Except.bind] at h
      cases ht : tree.readText file with
      | error e => simp [ht] at h
      | ok t =>
        simp only [ht, Except.ok.injEq] at h
        exact h ▸ Files.Tree.mem_texts_of_readText ht

end LivePages.Site
