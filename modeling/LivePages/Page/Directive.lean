import LivePages.Text.Blank
import LivePages.Text.Letters
import LivePages.Text.Quoted
import LivePages.Text.Split

/-!
# Directives

The commands a directive tag can hold: a word of letters, and an argument.

## Main definitions

* `Directive.ofBody` — the command in the body of a tag.
* `Directive.argument?` — the file that an include or require names.
-/

namespace LivePages.Page

/-- How a file is merged into a page. -/
inductive MergeKind where
  /-- Every time it is asked for, but not into itself. -/
  | include
  /-- Once. -/
  | require
  deriving DecidableEq, Repr

/-- The word that asks for a merge. -/
def MergeKind.word : MergeKind → String
  | .include => "include"
  | .require => "require"

/-- A command of a page. -/
inductive Directive where
  /-- Imports the paths in a list of quoted texts. -/
  | importPaths (list : List Char)
  /-- Merges the file named by a quoted text. -/
  | merge (kind : MergeKind) (argument : List Char)
  /-- Marks the page as one that is only included. -/
  | includeOnly
  /-- A word that is no command. -/
  | unknown (word : String)
  deriving DecidableEq, Repr

/-- The command in the body of a directive tag: its leading letters decide which one. -/
def Directive.ofBody (body : List Char) : Directive :=
  let word := String.ofList (body.takeWhile Text.isLetter)
  let rest := body.dropWhile Text.isLetter
  if word = "import" then .importPaths rest
  else if word = "include" then .merge .include (Text.trim rest)
  else if word = "require" then .merge .require (Text.trim rest)
  else if word = "includeonly" then .includeOnly
  else .unknown word

/-- The quoted texts of an import list. -/
def importItems (list : List Char) : List (List Char) :=
  (Text.splitOn ',' list).map Text.trim

/-- The file that a merge directive names, if its argument can be read. -/
def Directive.argument? : Directive → Option String
  | .merge _ argument => (Text.Quoted.read argument).toOption.map String.ofList
  | _ => none

end LivePages.Page
