import LivePages.Source.Handler
import LivePages.Text.Blank

/-!
# The manifest of a backend project

The document that names the package of a backend, its only program and what it depends on.

## Main definitions

* `packageName` — the name of the package and of its program.
* `manifest` — the document.
-/

namespace LivePages.Build

/-- The name of the package and of the executable compiled from it. -/
def packageName : String := "rsp-backend"

/-- The line of a dependency. A requirement that is a table stands as it is written, any other is
quoted. -/
def dependencyLine (name requirement : String) : String :=
  let required := Text.trimmed requirement
  if required.toList.head? = some '\x7b' then s!"{name} = {required}"
  else s!"{name} = {Text.Quoted.quote required}"

/-- The manifest of a project that depends on the package at a path and on further packages. The
empty workspace keeps the project out of any workspace around it. -/
def manifest (runtimeCrate : String) (dependencies : List (String × String)) : String :=
  Source.unlines <|
    ["[package]", s!"name = {Text.Quoted.quote packageName}", "version = \"0.0.0\"",
      "edition = \"2021\"", "publish = false", "", "[[bin]]",
      s!"name = {Text.Quoted.quote packageName}", "path = \"src/main.rs\"", "", "[dependencies]",
      s!"rsp-runtime = \x7b path = {Text.Quoted.quote runtimeCrate} \x7d"] ++
    dependencies.map (fun d => dependencyLine d.1 d.2) ++
    ["", "[workspace]"]

end LivePages.Build
