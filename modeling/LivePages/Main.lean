import LivePages.CommandLine.Program

/-!
# The command line

Runs the program on the files below the directory that it is started in, and writes back those that
it changes.
-/

namespace LivePages

/-- Reads what stands at an entry of a directory, and everything below it, into a tree. -/
partial def gather (entry : IO.FS.DirEntry) (place : Files.Place) (tree : Files.Tree) :
    IO Files.Tree := do
  let about ← entry.path.metadata
  let time := about.modified.sec.toNat * 1000000000 + about.modified.nsec.toNat
  match about.type with
  | .dir =>
    let below ← entry.path.readDir
    below.foldlM (fun tree e => gather e (place ++ [e.fileName]) tree)
      (tree.set place (.directory time))
  | .file =>
    let content ← IO.FS.readBinFile entry.path
    return tree.set place (.file content.toList time false)
  | _ => return tree

/-- The time of the newest node of a tree. -/
def newest (tree : Files.Tree) : Files.Time :=
  tree.nodes.foldl (fun time p => max time p.2.modified) 0

/-- Writes the files of a tree that another one does not hold in this form, and removes those that
it no longer holds. -/
def writeBack (old new : Files.Tree) : IO Unit := do
  for (place, node) in new.nodes do
    let path := "/" ++ Text.joined "/" place
    if old.get? place != some node then
      match node with
      | .file content _ _ =>
        IO.FS.createDirAll ("/" ++ Text.joined "/" place.dropLast)
        IO.FS.writeBinFile path ⟨content.toArray⟩
      | .directory _ => IO.FS.createDirAll path
      | .link _ => pure ()
  for (place, node) in old.nodes do
    if node.isFile && (new.get? place).isNone then
      IO.FS.removeFile ("/" ++ Text.joined "/" place)

/-- Runs the program in the directory that it is started in. -/
def runHere (arguments : List String) : IO UInt32 := do
  let here := toString (← IO.currentDir)
  let names := (Files.Path.segments here).filter (· != "")
  let start := ((({} : Files.Tree).makeDirs here 0).toOption).getD {}
  let tree ← gather { root := here, fileName := "." } names start
  let setting : CommandLine.Setting :=
    { tree := { tree with here := names }
      now := newest tree + 1
      runtimeCrate := Files.Path.join here "rsp-runtime" }
  let ending := CommandLine.run setting arguments
  writeBack tree ending.tree
  IO.print ending.output
  IO.eprint ending.messages
  return ending.code.toUInt32

end LivePages

/-- Runs the program. -/
def main (arguments : List String) : IO UInt32 :=
  LivePages.runHere arguments
