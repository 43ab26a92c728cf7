import LivePages.Error
import LivePages.Files.Tree

/-!
# Sessions

The state of a shell while it carries out a script.

## Main definitions

* `Sink`, `Flow`, `Session` — where output goes, how a script goes on, and all the state.
* `Session.print`, `Session.complain` — output.
* `Session.set`, `Session.value` — variables and parameters.
-/

namespace LivePages.Shell

/-- Where output goes. -/
inductive Sink where
  /-- To one of the outputs that are collected. -/
  | collected (index : Nat)
  /-- To the end of a file. -/
  | file (path : String)
  | nowhere
  deriving DecidableEq, Repr

/-- How a script goes on. -/
inductive Flow where
  /-- With the next command. -/
  | going
  /-- It ends. -/
  | leaving
  /-- With what follows the loop that it is in. -/
  | breaking
  /-- With the next round of the loop that it is in. -/
  | skipping
  /-- A signal ends it, and every script that it is a part of. -/
  | killed (signal : Nat)
  deriving DecidableEq, Repr

/-- The state of a shell. -/
structure Session where
  /-- The files, and the directory that the shell is in. -/
  tree : Files.Tree
  /-- The time that files are written at. -/
  now : Files.Time
  /-- The script. -/
  name : String
  /-- Its arguments. -/
  arguments : List String := []
  /-- The variables that are set. -/
  bindings : List (String × String) := []
  /-- The line of the script that is carried out. -/
  line : Nat := 1
  /-- The status of the last command, below 256. -/
  status : Nat := 0
  /-- A failure that nothing looks at ends the script. -/
  strict : Bool := false
  /-- How the script goes on. -/
  flow : Flow := .going
  /-- The outputs that are collected: that of the whole script, and those of the parts in progress
  whose output is wanted. -/
  outputs : List (List UInt8) := [[]]
  /-- The rest of the input. -/
  input : List UInt8 := []
  /-- Where the output goes. -/
  out : Sink := .collected 0
  /-- Where messages go. -/
  err : Sink := .collected 0

/-- The process number that a script sees as its own. -/
def ownNumber : String := "4242"

namespace Session

/-- The script goes on. -/
def isGoing (s : Session) : Bool :=
  s.flow == .going

/-- The session after a command with a status. -/
def done (s : Session) (status : Nat) : Session :=
  { s with status }

/-- The session after a round of a loop: a round that was cut short ends here. -/
def afterRound (s : Session) : Session :=
  if s.flow == .skipping then { s with flow := .going } else s

/-- The session after a loop. -/
def afterLoop (s : Session) : Session :=
  if s.flow == .breaking then { s with flow := .going } else s

/-- Ends the script with a status. -/
def leave (s : Session) (status : Nat) : Session :=
  { s with status, flow := .leaving }

/-- Adds bytes at the end of a file. -/
def appendTo (s : Session) (path : String) (bytes : List UInt8) : Session :=
  let old := (s.tree.read path).toOption.getD []
  match s.tree.write path (old ++ bytes) s.now with
  | .ok tree => { s with tree }
  | .error _ => s

/-- Sends bytes to a sink. -/
def send (s : Session) (sink : Sink) (bytes : List UInt8) : Session :=
  match sink with
  | .collected i => { s with outputs := s.outputs.modify i (· ++ bytes) }
  | .file path => s.appendTo path bytes
  | .nowhere => s

/-- Prints bytes. -/
def print (s : Session) (bytes : List UInt8) : Session :=
  s.send s.out bytes

/-- Prints a line. -/
def printLine (s : Session) (line : String) : Session :=
  s.print (Text.Utf8.ofString (line ++ "\n"))

/-- Gives a message of one line. -/
def complain (s : Session) (line : String) : Session :=
  s.send s.err (Text.Utf8.ofString (line ++ "\n"))

/-- Gives a message of the shell itself. -/
def report (s : Session) (message : String) (status : Nat) : Session :=
  (s.complain s!"{s.name}: {s.line}: {message}").done status

/-- Gives a message about a failure. -/
def fail (s : Session) (line : String) (status : Nat) : Session :=
  (s.complain line).done status

/-- Sets a variable. -/
def set (s : Session) (name value : String) : Session :=
  { s with bindings := (name, value) :: s.bindings.filter fun p => p.1 != name }

/-- Takes a variable away. -/
def unset (s : Session) (name : String) : Session :=
  { s with bindings := s.bindings.filter fun p => p.1 != name }

/-- The directory that the shell is in. -/
def directory (s : Session) : String :=
  "/" ++ Text.joined "/" s.tree.here

/-- The value of a variable or parameter that is set. -/
def value? (s : Session) (name : String) : Option String :=
  match name with
  | "#" => toString s.arguments.length
  | "?" => toString s.status
  | "$" => ownNumber
  | "0" => s.name
  | "@" | "*" => Text.joined " " s.arguments
  | "PWD" => s.directory
  | name =>
    match name.toNat? with
    | some i => s.arguments[i - 1]?
    | none => (s.bindings.find? fun p => p.1 == name).map (·.2)

/-- The value of a variable or parameter, empty if it is not set. Behind the mark for a length it is
the number of its characters. -/
def value (s : Session) (name : String) : String :=
  match s.value? name, name.toList with
  | some value, _ => value
  | none, '#' :: name => toString ((s.value? (String.ofList name)).getD "").length
  | none, _ => ""

/-- Makes a file empty, and makes it if it is missing. -/
def truncate (s : Session) (path : String) : Except Files.Error Session := do
  return { s with tree := ← s.tree.write path [] s.now }

/-- Makes a file if it is missing. -/
def ensure (s : Session) (path : String) : Except Files.Error Session :=
  match s.tree.stat path with
  | .ok (.file ..) => .ok s
  | _ => s.truncate path

/-- The end of the process that the session is in, once the script has ended. -/
def ending (s : Session) : ExitStatus :=
  match s.flow with
  | .killed signal => .killed signal
  | _ => .exited s.status

end Session

end LivePages.Shell
