import LivePages.Text.Blank
import LivePages.Text.StringSet

/-!
# Parts of a page

What one page contributes to a generated handler, with everything it includes merged in.

## Main definitions

* `Fragment` — one unit of output, in order.
* `Parts` — all that is collected from a page.
-/

namespace LivePages.Page

/-- A unit of a page's body. -/
inductive Fragment where
  /-- Text that is written as it is. -/
  | literal (text : String)
  /-- Statements that are copied into the handler. -/
  | code (text : String)
  /-- An expression whose value is written. -/
  | eval (expression : String)
  deriving DecidableEq, Repr

/-- All that is collected from a page. -/
structure Parts where
  /-- The body, in order. -/
  fragments : List Fragment := []
  /-- The set of imported paths. -/
  imports : List String := []
  /-- The set of files merged into the page. -/
  depends : List String := []
  /-- The page is only there to be included. -/
  includeOnly : Bool := false
  /-- The files whose inclusion is in progress, innermost first. -/
  including : List String := []
  /-- The files required so far, last one first. -/
  required : List String := []
  deriving DecidableEq, Repr

namespace Parts

/-- Adds a fragment at the end. -/
def push (parts : Parts) (fragment : Fragment) : Parts :=
  { parts with fragments := parts.fragments ++ [fragment] }

/-- Adds text, unless it is empty. -/
def pushText (parts : Parts) (run : List Char) : Parts :=
  if run.isEmpty then parts else parts.push (.literal (String.ofList run))

/-- Adds statements. -/
def pushCode (parts : Parts) (body : List Char) : Parts :=
  parts.push (.code (String.ofList body))

/-- Adds an expression, without the blanks around it. -/
def pushEval (parts : Parts) (body : List Char) : Parts :=
  parts.push (.eval (String.ofList (Text.trim body)))

/-- Adds an imported path. -/
def addImport (parts : Parts) (path : String) : Parts :=
  { parts with imports := Text.StringSet.insert path parts.imports }

/-- Notes that a file was merged. -/
def addDepend (parts : Parts) (path : String) : Parts :=
  { parts with depends := Text.StringSet.insert path parts.depends }

/-- Starts the inclusion of a file. -/
def enter (parts : Parts) (path : String) : Parts :=
  { parts with including := path :: parts.including }

/-- Ends the inclusion of a file. -/
def leave (parts : Parts) (path : String) : Parts :=
  { parts with including := parts.including.erase path }

/-- Notes that a file is required. -/
def require (parts : Parts) (path : String) : Parts :=
  { parts with required := path :: parts.required }

end Parts

end LivePages.Page
