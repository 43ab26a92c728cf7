/-!
# Shell scripts

What a script in the language of the system's shell consists of.

## Main definitions

* `Piece`, `Word` — the parts of a word before anything in it is filled in.
* `Redirection` — where a stream of a command leads.
* `Command` — what is carried out.
-/

namespace LivePages.Shell

/-- A part of a word. What stands in quotes is not cut into fields. -/
inductive Piece where
  /-- Text as it is. -/
  | text (text : String) (quoted : Bool)
  /-- The value of a variable or of a parameter of the script. -/
  | value (name : String) (quoted : Bool)
  /-- The value of a variable or parameter, or a text in place of one that is not set; with the
  mark also in place of an empty one. -/
  | fallback (name text : String) (emptyToo : Bool) (quoted : Bool)
  /-- The result of a calculation. -/
  | calculation (expression : String) (quoted : Bool)
  /-- What a script prints. -/
  | output (script : String) (quoted : Bool)
  deriving DecidableEq, Repr

/-- A word. -/
abbrev Word : Type := List Piece

/-- What is done to a stream. -/
inductive Mode where
  /-- It comes from a file. -/
  | read
  /-- It goes to a file, in place of what that held. -/
  | write
  /-- It goes to the end of a file. -/
  | append
  /-- It goes where another stream goes. -/
  | duplicate
  deriving DecidableEq, Repr

/-- Where a stream of a command leads. -/
structure Redirection where
  /-- The number of the stream. -/
  stream : Nat
  /-- What is done to it. -/
  mode : Mode
  /-- The file, or the number of the other stream. -/
  target : Word
  deriving DecidableEq, Repr

/-- What is carried out. -/
inductive Command where
  /-- A tool with its arguments, or assignments alone, and the line that it stands on. -/
  | simple (line : Nat) (assignments : List (String × Word)) (words : List Word)
  /-- One after the other. -/
  | sequence (commands : List Command)
  /-- Each with the output of the one before as its input. -/
  | pipeline (commands : List Command)
  /-- The second if the first succeeds. -/
  | both (first second : Command)
  /-- The second if the first fails. -/
  | either (first second : Command)
  /-- Success and failure exchanged. -/
  | negation (command : Command)
  /-- One of two, as a test decides. -/
  | branch (test yes no : Command)
  /-- Again and again while a test succeeds, or until it does. -/
  | loop (whileTrue : Bool) (test body : Command)
  /-- Once for each of some words. -/
  | each (name : String) (words : List Word) (body : Command)
  /-- In a shell of its own. -/
  | apart (body : Command)
  /-- With some streams led elsewhere. -/
  | redirected (command : Command) (redirections : List Redirection)

/-- The command that does nothing. -/
def Command.nothing : Command := .sequence []

end LivePages.Shell
