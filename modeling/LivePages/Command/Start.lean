import LivePages.Files.Tree

/-!
# Starting processes

Which file a command runs, and why it may not run.

## Main definitions

* `Fault` — why a process does not start.
* `program` — the contents of the file that a command runs.
-/

namespace LivePages.Command

/-- Why a process does not start. -/
inductive Fault where
  /-- Its file, or the directory it starts in, cannot be used. -/
  | file (error : Files.Error)
  /-- A NUL character stands in the command or an argument. -/
  | nulInCommand
  deriving DecidableEq, Repr

/-- The wording of a fault. -/
def Fault.message : Fault → String
  | .file error => error.message
  | .nulInCommand => "nul byte found in provided data"

/-- The directories in which a command without a slash is looked for. -/
def searchPath : List String :=
  ["/usr/local/sbin", "/usr/local/bin", "/usr/sbin", "/usr/bin", "/sbin", "/bin"]

/-- The contents of a file that may be run. -/
def runnable (tree : Files.Tree) (path : String) : Except Files.Error (List UInt8) := do
  match ← tree.stat path with
  | .file content _ true => return content
  | _ => throw .permissionDenied

/-- The contents of the file that a command runs when it is started in a directory. -/
def program (tree : Files.Tree) (directory : Option String) (command : String)
    (arguments : List String) : Except Fault (List UInt8) := do
  if (command :: arguments).any fun s => s.toList.contains '\x00' then throw .nulInCommand
  let tree ← match directory with
    | none => pure tree
    | some path =>
      match tree.place path with
      | .error e => throw (.file e)
      | .ok place =>
        if tree.isDirectory path then pure { tree with here := place }
        else throw (.file .notADirectory)
  if command.toList.contains '/' then (runnable tree command).mapError .file
  else
    let found := searchPath.findSome? fun d =>
      (runnable tree (Files.Path.join d command)).toOption
    match found with
    | some content => return content
    | none => throw (.file .notFound)

end LivePages.Command
