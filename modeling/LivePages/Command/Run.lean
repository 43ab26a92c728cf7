import LivePages.Command.Start
import LivePages.Shell.Run

/-!
# Running processes

A command is a script for the system's shell or one of the small programs found on every system.
It runs without input, and its output and its messages are kept together in their order.

## Main definitions

* `Command.run` — runs a command to its end.
-/

namespace LivePages.Command

/-- The start of a script for the system's shell. -/
def scriptMark : List Char := "#!/bin/sh".toList

/-- What a command does: the script in its file, or a program of the system. -/
def workOf (tree : Files.Tree) (directory : Option String) (command : String)
    (arguments : List String) : Except Fault (Shell.Session → Shell.Session) :=
  match program tree directory command arguments with
  | .ok content =>
    let text := Text.Utf8.decodeLossy content
    if scriptMark.isPrefixOf text then .ok (Shell.runScript text)
    else .error (.file .notAProgram)
  | .error (.file .notFound) =>
    match Shell.program? command with
    | some tool => .ok (tool arguments)
    | none => .error (.file .notFound)
  | .error fault => .error fault

/-- Runs a command to its end, in another directory if one is given. -/
def run (tree : Files.Tree) (now : Files.Time) (directory : Option String) (command : String)
    (arguments : List String) : Except Fault Shell.Ran := do
  let work ← workOf tree directory command arguments
  let here := match directory with
    | some path => (tree.place path).toOption.getD tree.here
    | none => tree.here
  let session : Shell.Session :=
    { tree := { tree with here }, now, name := command, arguments }
  let ran := Shell.process session work
  return { ran with tree := { ran.tree with here := tree.here } }

end LivePages.Command
