import LivePages.Build.Manifest
import LivePages.Build.Page
import LivePages.Build.Record
import LivePages.Config.Basic
import LivePages.Source.Entry

/-!
# Projects

What a compiler is given: a directory of its own with a manifest, an entry point and the sources
of the pages.

## Main definitions

* `Project` — an assembled project.
* `generate` — writes the sources of all pages.
* `assemble` — fills a project directory.
* `openAssembled` — assembles it in a fresh directory that a failure does not leave behind.
* `prepare` — all of it.
-/

namespace LivePages.Build

/-- An assembled project. -/
structure Project where
  /-- Its directory. -/
  directory : String
  /-- Its pages, in the order of the page table. -/
  pages : List Source.EntryPage
  /-- The addresses of the pages left out because they are only there to be included. -/
  skipped : List String
  deriving DecidableEq, Repr

open Files.Path (join)

/-- The name of the source file of a symbol. -/
def sourceName (symbol : String) : String :=
  symbol ++ ".rs"

/-- The pages generated so far. -/
structure Generated where
  /-- The pages with sources. -/
  pages : List Source.EntryPage := []
  /-- The addresses of the pages left out. -/
  skipped : List String := []
  deriving DecidableEq, Repr

/-- Writes the source of one page. A page that cannot be read is reported and left out. -/
def generatePage (config : Config) (done : Generated) (r : Site.Request) : Work Generated := do
  match compilePage (← get).tree config.webRoot r.path with
  | .error e =>
    Work.report [Log.warn s!"Skipping {r.path}: {e.message}"]
    return done
  | .ok (page, lines) =>
    Work.report lines
    if page.includeOnly then
      Work.report [Log.debug s!"{page.url} is include-only, not compiled"]
      return { done with skipped := done.skipped ++ [page.url] }
    else
      Work.writeText (join config.srcDir (sourceName r.symbol)) page.source
      return { done with pages := done.pages ++ [⟨r.symbol, page.url⟩] }

/-- What is reported once all pages are generated. -/
def Generated.line (done : Generated) : Log.Line :=
  let count := done.pages.length
  let left := done.skipped.length
  Log.info s!"Generated {count} pages ({left} include-only skipped)"

/-- Writes the sources of the pages at paths below the web root, in the order of their symbols. -/
def generate (config : Config) (paths : List String) : Work Generated := do
  Work.makeDirs config.srcDir
  let done ← (Site.allocate paths).foldlM (generatePage config) {}
  Work.report [done.line]
  return done

/-! ### The directory of a project -/

/-- The directory that projects are made in unless there is a configured one. -/
def systemTemporary : String := "/tmp"

/-- The path of a project directory. -/
def projectPath (directory : String) (n : Nat) : String :=
  join directory s!"rsp_{n}"

/-- Nothing stands at a path. -/
def isVacant (tree : Files.Tree) (path : String) : Bool :=
  match tree.goal false path with
  | .ok (.missing _) => true
  | _ => false

/-- A path in a directory at which nothing stands. There are fewer nodes than paths tried. -/
def freshPath (tree : Files.Tree) (directory : String) : String :=
  let paths := (List.range (tree.nodes.length + 1)).map (projectPath directory)
  (paths.find? (isVacant tree)).getD (projectPath directory 0)

/-- Makes an empty project directory. -/
def openProject (config : Config) : Work String := do
  match config.tmpDir with
  | some directory => Work.makeDirs directory
  | none => pure ()
  let path := freshPath (← get).tree (config.tmpDir.getD systemTemporary)
  Work.change fun tree now => tree.makeDir path now
  return path

/-- Removes a project directory and everything in it. -/
def closeProject (directory : String) : Work Unit :=
  Work.change fun tree _ => tree.removeDirs directory

/-- The file that keeps the versions of all packages from one build to the next. -/
def lockPath (directory : String) : String :=
  join directory "Cargo.lock"

/-- Puts a file into a project: as a link where possible, as a copy otherwise. -/
def linkOrCopy (source target : String) : Work Unit := do
  let source ← Work.look fun tree => tree.resolved source
  match ← Work.attempt (Work.change fun tree _ => tree.makeLink target source) with
  | none => pure ()
  | some _ => Work.copy source target

/-- Fills a project directory. -/
def assemble (config : Config) (directory : String) (pages : List Source.EntryPage) :
    Work Unit := do
  let sources := join (join directory "src") "pages"
  Work.makeDirs sources
  Work.writeText (join directory "Cargo.toml")
    (manifest config.runtimeCrate config.build.dependencies)
  Work.writeText (join (join directory "src") "main.rs") (Source.renderEntry pages)
  if (← get).tree.isFile (lockPath config.targetDir) then
    Work.copy (lockPath config.targetDir) (lockPath directory)
  pages.forM fun page =>
    let name := sourceName page.symbol
    linkOrCopy (join config.srcDir name) (join sources name)

/-- Assembles the project of an executable from the generated pages. -/
def openAssembled (config : Config) (done : Generated) (executable : String) : Work Project := do
  let directory ← openProject config
  Work.onFailure
    (do
      assemble config directory done.pages
      match Files.Path.parent? executable with
      | some parent => Work.makeDirs parent
      | none => pure ())
    (closeProject directory)
  return ⟨directory, done.pages, done.skipped⟩

/-- Generates the sources of the pages at paths below the web root and assembles the project of an
executable. -/
def prepare (config : Config) (paths : List String) (executable : String) : Work Project := do
  let done ← generate config paths
  openAssembled config done executable

end LivePages.Build
