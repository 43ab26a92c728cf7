import LivePages.Error
import LivePages.Files.Tree
import LivePages.Log

/-!
# Work on files

A computation that changes a file tree and reports what it does. When it fails, what it has changed
and reported until then stays.

## Main definitions

* `Workspace` — the files, the time and the report.
* `Work` — a computation on a workspace.
* `Work.look`, `Work.change`, `Work.report` — its steps.
* `Work.attempt` — a step whose failure is no failure of the whole.
-/

namespace LivePages.Build

/-- The files, the time and the report. -/
structure Workspace where
  /-- The files. -/
  tree : Files.Tree
  /-- The time that files are written at. -/
  now : Files.Time
  /-- The report so far. -/
  log : List Log.Line := []
  deriving DecidableEq, Repr

/-- A computation on a workspace that may fail. -/
abbrev Work (α : Type) : Type := ExceptT Error (StateM Workspace) α

namespace Work

/-- Adds lines to the report. -/
def report (lines : List Log.Line) : Work Unit :=
  modify fun w => { w with log := w.log ++ lines }

/-- Reads something. -/
def look {α : Type} (f : Files.Tree → Except Files.Error α) : Work α := do
  match f (← get).tree with
  | .ok a => return a
  | .error e => throw (.io e)

/-- Changes the files at the present time. -/
def change (f : Files.Tree → Files.Time → Except Files.Error Files.Tree) : Work Unit := do
  let w ← get
  match f w.tree w.now with
  | .ok tree => set { w with tree }
  | .error e => throw (.io e)

/-- Does work and returns its error, if it fails. -/
def attempt (work : Work Unit) : Work (Option Error) :=
  tryCatch (do work; return none) fun e => return some e

/-- Does work that must not fail; should it fail, what it did stays and the rest is left out. -/
def quietly (work : Work Unit) : Work Unit := do
  let _ ← attempt work

/-- Does work, and something more in case it fails. -/
def onFailure {α : Type} (work : Work α) (cleanup : Work Unit) : Work α :=
  tryCatch work fun e => do quietly cleanup; throw e

/-- Writes a text file. -/
def writeText (path text : String) : Work Unit :=
  change fun tree now => tree.write path (Text.Utf8.ofString text) now

/-- Makes a directory and those above it that are missing. -/
def makeDirs (path : String) : Work Unit :=
  change fun tree now => tree.makeDirs path now

/-- Copies a file. -/
def copy (source target : String) : Work Unit :=
  change fun tree now => tree.copy source target now

end Work

end LivePages.Build
