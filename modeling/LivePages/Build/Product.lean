import LivePages.Build.Project

/-!
# Products

From the pages of a site to an executable at its place.

## Main definitions

* `Toolchain` — what compiles a project.
* `compile`, `install` — the work on an assembled project.
* `build` — all the work, from the pages to the executable.
-/

namespace LivePages.Build

/-- What compiles the project in a directory, writes a record to a path, and returns the path of
the executable. -/
abbrev Toolchain : Type := (directory record : String) → Work String

/-- What a build has come to. -/
structure Report where
  /-- The executable. -/
  executable : String
  /-- The record of its build. -/
  record : String
  /-- The addresses of the pages compiled into it. -/
  pages : List String
  /-- The addresses of the pages left out because they are only there to be included. -/
  skipped : List String
  deriving DecidableEq, Repr

/-- Compiles a project. A failure removes the project. -/
def compile (toolchain : Toolchain) (project : Project) (executable : String) : Work String :=
  Work.onFailure (toolchain project.directory (recordPath executable))
    (closeProject project.directory)

/-- Keeps the versions that a build has settled for the next one. -/
def keepLock (config : Config) (project : Project) : Work Unit := do
  let w ← get
  match w.tree.copy (lockPath project.directory) (lockPath config.targetDir) w.now with
  | .ok tree => set { w with tree }
  | .error e => Work.report [Log.debug s!"Not caching Cargo.lock: {e.message}"]

/-- Puts a compiled executable to its place and removes the project. -/
def install (config : Config) (project : Project) (built executable : String) : Work Report := do
  Work.onFailure (Work.copy built executable) (closeProject project.directory)
  keepLock config project
  Work.quietly (closeProject project.directory)
  return {
    executable
    record := recordPath executable
    pages := project.pages.map (·.url)
    skipped := project.skipped }

/-- Turns an assembled project into an executable at its place. -/
def finish (config : Config) (toolchain : Toolchain) (project : Project) (executable : String) :
    Work Report := do
  let built ← compile toolchain project executable
  install config project built executable

/-- Builds the pages at paths below the web root into an executable. -/
def build (config : Config) (toolchain : Toolchain) (paths : List String) (executable : String) :
    Work Report := do
  let project ← prepare config paths executable
  finish config toolchain project executable

end LivePages.Build
