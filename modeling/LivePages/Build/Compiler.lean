import LivePages.Build.Product
import LivePages.Build.Record
import LivePages.Command.Run

/-!
# Compilers

The toolchain that runs a compiler of packages as a process. All builds share one directory for
what the compiler produces, so that it need not compile everything again.

## Main definitions

* `Compiler` — the command, and where it leaves executables.
* `Compiler.toolchain` — the toolchain that runs it.
-/

namespace LivePages.Build

/-- A compiler of packages. -/
structure Compiler where
  /-- The command that runs it. -/
  command : String
  /-- The directory for what it produces. -/
  targetDir : String
  /-- It takes its time to make fast executables. -/
  release : Bool
  deriving DecidableEq, Repr

/-- The compiler of a configuration. -/
def Compiler.ofConfig (config : Config) : Compiler :=
  ⟨config.build.cargo, config.targetDir, config.build.release⟩

/-- The arguments that compile the package in a directory. -/
def Compiler.arguments (compiler : Compiler) (directory : String) : List String :=
  ["build", "--manifest-path", Files.Path.join directory "Cargo.toml", "--target-dir",
    compiler.targetDir] ++ if compiler.release then ["--release"] else []

/-- Where the compiler leaves the executable. -/
def Compiler.product (compiler : Compiler) : String :=
  let profile := if compiler.release then "release" else "debug"
  Files.Path.join (Files.Path.join compiler.targetDir profile) packageName

/-- The number of lines of a record that a failure shows. -/
def shownLines : Nat := 30

/-- What is said about a compiler that ended badly. -/
def failureLines (status : ExitStatus) (tail : List String) : List Log.Line :=
  Log.error s!"Compiling failed with {status.message}:" ::
    tail.map fun line => Log.error s!"  {line}"

/-- The toolchain that runs a compiler and keeps what it prints in the record. -/
def Compiler.toolchain (compiler : Compiler) : Toolchain := fun directory record => do
  Work.change fun tree now => tree.write record [] now
  Work.report [Log.info s!"Compiling {directory} (log: {record})"]
  let w ← get
  match Command.run w.tree w.now none compiler.command (compiler.arguments directory) with
  | .error fault => throw (.build (.cannotRun compiler.command fault))
  | .ok ran =>
    let kept := ran.tree.stat record *> ran.tree.write record ran.output w.now
    let tree := kept.toOption.getD ran.tree
    set { w with tree }
    if !ran.status.isSuccess then
      Work.report (failureLines ran.status (recordTail tree record shownLines))
      throw (.build (.compilerFailed compiler.command ran.status))
    if !tree.isFile compiler.product then throw (.build (.noExecutable compiler.product))
    return compiler.product

end LivePages.Build
