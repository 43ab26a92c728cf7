import LivePages.Source.Handler

/-!
# Entry source

The source of a backend's entry point: a module for every page, and the table of their addresses.
Modules are numbered by position, which keeps their names apart whatever the symbols are.

## Main definitions

* `EntryPage` — a page of the table.
* `renderEntry` — the source of the entry point.
-/

namespace LivePages.Source

/-- A page as the entry point sees it. -/
structure EntryPage where
  /-- The name of its source file, without the extension. -/
  symbol : String
  /-- The address it answers to. -/
  url : String
  deriving DecidableEq, Repr

/-- The two lines that declare the module of the page at a position. -/
def moduleLines (position : Nat) (page : EntryPage) : List String :=
  let file := "pages/" ++ page.symbol ++ ".rs"
  [s!"#[path = {Text.Quoted.quote file}]", s!"mod page_{position};"]

/-- The row of the table for the page at a position. -/
def tableRow (position : Nat) (page : EntryPage) : String :=
  s!"    ({Text.Quoted.quote page.url}, page_{position}::{handlerName}),"

/-- The source of the entry point. -/
def renderEntry (pages : List EntryPage) : String :=
  let numbered := pages.zipIdx.map fun p => (p.2, p.1)
  unlines <|
    ["// Generated by rsps. Do not edit.", ""] ++
    numbered.flatMap (fun p => moduleLines p.1 p.2) ++
    ["", "static PAGES: &[(&str, rsp_runtime::PageHandler)] = &["] ++
    numbered.map (fun p => tableRow p.1 p.2) ++
    ["];", "", "fn main() -> std::process::ExitCode \x7b", "    rsp_runtime::run(PAGES)", "\x7d"]

end LivePages.Source
