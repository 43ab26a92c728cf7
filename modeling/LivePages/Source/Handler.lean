import LivePages.Page.Parts
import LivePages.Text.Quoted
import LivePages.Text.Split

/-!
# Handler source

The source module generated for one page. It holds the page's imports, its address, and a function
that writes the page's fragments to the response, one after the other.

## Main definitions

* `importPath` — the path of an import in any of its accepted spellings.
* `renderHandler` — the source of a page.
-/

namespace LivePages.Source

/-- The name of the function in every generated module. -/
def handlerName : String := "__process__"

/-- The import without the blanks around it, the word before it and the semicolon after it. -/
def importPath (written : String) : String :=
  let s := Text.trim written.toList
  let s := (Text.withoutPrefix? "use ".toList s).getD s
  let s := (Text.withoutSuffix? [';'] s).getD s
  String.ofList (Text.trim s)

/-- The declarations for the imports that name something. -/
def importLines (imports : List String) : List String :=
  ((imports.map importPath).filter (· ≠ "")).map fun path => s!"use {path};"

/-- The lines that a fragment becomes in the handler. -/
def fragmentLine : Page.Fragment → String
  | .literal text => s!"    response.print_str({Text.Quoted.quote text});"
  | .eval expression => s!"    response.print(&({expression}));"
  | .code text => text

/-- The lines of a module before its handler's body. -/
def handlerHead (imports : List String) (url : String) : List String :=
  [s!"// Generated by rsps from {url}. Do not edit.",
    "#![allow(unused_imports, unused_variables, unused_mut, unused_braces, unreachable_code)]",
    "",
    "use rsp_runtime::prelude::*;"] ++
  importLines imports ++
  ["",
    s!"pub const URL_PATH: &str = {Text.Quoted.quote url};",
    "",
    s!"pub fn {handlerName}(request: &PageRequest, response: &mut PageResponse) \x7b"]

/-- The lines, each with a line feed after it. -/
def unlines (lines : List String) : String :=
  String.join (lines.map (· ++ "\n"))

/-- The source module of a page. -/
def renderHandler (parts : Page.Parts) (url : String) : String :=
  unlines (handlerHead parts.imports url ++ parts.fragments.map fragmentLine ++ ["\x7d"])

end LivePages.Source
