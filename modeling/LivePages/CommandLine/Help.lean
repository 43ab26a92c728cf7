import LivePages.CommandLine.Arguments

/-!
# Help

The texts that describe a program and its commands. Descriptions stand in a column of their own and
are broken between words where a line gets too long.

## Main definitions

* `Order.help` — the description of a command.
* `Suite.overview` — the description of a program.
-/

namespace LivePages.CommandLine

/-- The column that descriptions stand in. -/
def descriptionColumn : Nat := 20

/-- The longest a line may get. -/
def lineWidth : Nat := 80

/-- Text filled up with blanks to the column of descriptions. -/
def indented (line : String) : String :=
  line ++ String.ofList (List.replicate (descriptionColumn - line.length) ' ')

/-- The lines that begin with a line already begun and go on with words. -/
def broken : String → List String → List String
  | line, [] => [line]
  | line, word :: words =>
    if line.length + word.length + 1 > lineWidth then
      line :: broken (indented "" ++ word) words
    else broken (line ++ " " ++ word) words

/-- The lines of an entry: its name, and what is said about it. -/
def entryLines (name description : String) : List String :=
  let line := "  " ++ name
  match (Text.splitOn ' ' description.toList).map String.ofList with
  | [] => [line]
  | first :: words =>
    if description == "" then [line]
    else if line.length < descriptionColumn then broken (indented line ++ first) words
    else line :: broken (indented "" ++ first) words

/-- A heading with entries below it. -/
def listing (heading : String) (entries : List (String × String)) : String :=
  Text.joined "\n" ((heading ++ ":") :: entries.flatMap fun e => entryLines e.1 e.2)

/-- The entry for help itself. -/
def helpEntry : String × String :=
  ("--help, help", "display usage information")

/-- How an option is used. -/
def Choice.usage (c : Choice) : String :=
  let use := s!"{c.short} <{c.name}>"
  if c.required then use else s!"[{use}]"

/-- The description of a command of a program. -/
def Order.help (program : String) (order : Order) : String :=
  let usage := order.operands.map (fun o => s!"<{o.name}>") ++ order.choices.map Choice.usage
  let operands := order.operands.map fun o => (o.name, o.description)
  let choices := order.choices.map fun c => (s!"{c.short}, {c.long}", c.description)
  let sections := (if operands.isEmpty then [] else [listing "Positional Arguments" operands]) ++
    [listing "Options" (choices ++ [helpEntry])]
  Text.joined "\n\n"
    ([Text.joined " " (s!"Usage: {program} {order.name}" :: usage), order.description] ++ sections)
    ++ "\n"

/-- The description of a program. -/
def Suite.overview (suite : Suite) : String :=
  Text.joined "\n\n"
    [s!"Usage: {suite.name} <command> [<args>]", suite.description,
      listing "Options" [helpEntry],
      listing "Commands" (suite.orders.map fun o => (o.name, o.description))] ++ "\n"

end LivePages.CommandLine
