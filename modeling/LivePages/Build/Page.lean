import LivePages.Build.Workspace
import LivePages.Site.Symbol
import LivePages.Site.WebRoot
import LivePages.Source.Handler

/-!
# Compiled pages

A page of the web root, turned into the source of its handler.

## Main definitions

* `CompiledPage` — the source of a page, with its address.
* `compilePage` — compiles the page at a path below the web root.
-/

namespace LivePages.Build

/-- The source of a page. -/
structure CompiledPage where
  /-- The address the page answers to. -/
  url : String
  /-- The page is only there to be included. -/
  includeOnly : Bool
  /-- The source of its handler. -/
  source : String
  deriving DecidableEq, Repr

/-- The name under which the loader finds the page of an address. -/
def loadName (url : String) : String :=
  String.ofList (url.toList.dropWhile (· = '/'))

/-- Compiles the page at a path below the web root. The page is looked for under its address, so a
path whose address is written differently is not found. -/
def compilePage (tree : Files.Tree) (webRoot path : String) :
    Except Error (CompiledPage × List Log.Line) :=
  let url := Site.pageUrl path
  match Page.parseFile (Site.loader tree webRoot) (loadName url) with
  | .error e => .error (.template (loadName url) e)
  | .ok p =>
    .ok (⟨url, p.parts.includeOnly, Source.renderHandler p.parts url⟩, p.notices.map (·.line))

end LivePages.Build
