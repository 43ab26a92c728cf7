import LivePages.Shell.Reader
import LivePages.Shell.Tools

/-!
# Running shell scripts

Carrying out the commands of a script one after the other. A bound on the depth of the work makes
this a total function; a script that reaches the bound ends there.

## Main definitions

* `fields` — the words that remain of a word when its values are filled in.
* `carryOut` — the session after a command.
* `runScript` — the session after a whole script.
* `Ran`, `process` — how a process ended, what it printed, and the files it left.
-/

namespace LivePages.Shell

/-! ### Fields -/

/-- A part of a word with its values filled in. -/
inductive Atom where
  /-- A character; one that cuts stands between two fields. -/
  | char (c : Char) (cuts : Bool)
  /-- There is a field here, even if it is empty. -/
  | mark
  /-- A field ends here. -/
  | cut
  deriving DecidableEq, Repr

/-- The characters that cut a value into fields. -/
def cutsFields (c : Char) : Bool :=
  c == ' ' || c == '\t' || c == '\n'

/-- The atoms of a value. -/
def atomsOf (quoted : Bool) (value : String) : List Atom :=
  if quoted then .mark :: value.toList.map (.char · false)
  else value.toList.map fun c => .char c (cutsFields c)

/-- The fields that atoms make, with the characters of the field begun, last one first. -/
def fieldsFrom : Option (List Char) → List Atom → List String
  | none, [] => []
  | some field, [] => [String.ofList field.reverse]
  | field, .char c cuts :: r =>
    if cuts then (fieldsFrom field []) ++ fieldsFrom none r
    else fieldsFrom (some (c :: field.getD [])) r
  | field, .mark :: r => fieldsFrom (some (field.getD [])) r
  | field, .cut :: r => (fieldsFrom field []) ++ fieldsFrom none r

/-- The fields that atoms make. -/
def fields (atoms : List Atom) : List String :=
  fieldsFrom none atoms

/-- The one text that atoms make where nothing is cut. -/
def textOf (atoms : List Atom) : String :=
  String.ofList (atoms.filterMap fun
    | .char c _ => some c
    | .mark => none
    | .cut => some ' ')

namespace Session

/-- The atoms of a variable or parameter. -/
def atoms (s : Session) (name : String) (quoted : Bool) : List Atom :=
  if name == "@" || (name == "*" && !quoted) then
    (s.arguments.map (atomsOf quoted)).intersperse [.cut] |>.flatten
  else atomsOf quoted (s.value name)

/-- The value of a variable in a calculation. -/
def number (s : Session) (name : String) : Int :=
  numberOf (s.value name)

/-! ### Parts of a script -/

/-- What a part of a script prints, and the session after it. -/
def collect (s : Session) (part : Session → Session) : List UInt8 × Session :=
  let i := s.outputs.length
  let t := part { s with outputs := s.outputs ++ [[]], out := .collected i }
  (t.outputs.getD i [], { t with outputs := t.outputs.take i, out := s.out })

/-- The session after a part that a shell of its own carries out. -/
def apart (s : Session) (part : Session → Session) : Session :=
  let t := part s
  let flow := match t.flow with
    | .killed signal => .killed signal
    | _ => s.flow
  { s with
    tree := { t.tree with here := s.tree.here }
    outputs := t.outputs
    input := t.input
    status := t.status
    flow }

/-- The session after a part whose failure is looked at. -/
def lenient (s : Session) (part : Session → Session) : Session :=
  { part { s with strict := false } with strict := s.strict }

/-- Ends a strict script after a failure. -/
def judged (s : Session) : Session :=
  if s.strict && s.status != 0 && s.isGoing then s.leave s.status else s

/-! ### Redirections -/

/-- The sink that a stream goes to. -/
def sink (s : Session) (stream : Nat) : Sink :=
  if stream == 1 then s.out else if stream == 2 then s.err else .nowhere

/-- Leads a stream to a sink. -/
def lead (s : Session) (stream : Nat) (sink : Sink) : Session :=
  if stream == 1 then { s with out := sink }
  else if stream == 2 then { s with err := sink }
  else s

/-- What the shell says of a file that cannot be opened. -/
def openTrouble (missing : String) : Files.Error → String
  | .notFound | .notADirectory => missing
  | e => e.reason

/-- Leads a stream to a file. -/
def leadToFile (s : Session) (stream : Nat) (mode : Mode) (path : String) :
    Except String Session := do
  let absolute := Files.Path.join s.directory path
  if mode == .read then
    if path == "/dev/null" then return { s with input := [] }
    else
      match s.tree.read path with
      | .ok input => return { s with input }
      | .error e =>
        let trouble := openTrouble "No such file" e
        throw s!"cannot open {path}: {trouble}"
  else if path == "/dev/null" then return s.lead stream .nowhere
  else
    match if mode == .append then s.ensure path else s.truncate path with
    | .ok s => return s.lead stream (.file absolute)
    | .error e =>
      let trouble := openTrouble "Directory nonexistent" e
      throw s!"cannot create {path}: {trouble}"

/-- Leads a stream where a redirection says, whose target has been filled in. -/
def redirect (s : Session) (r : Redirection) (target : String) : Except String Session :=
  match r.mode with
  | .duplicate =>
    if target == "-" then .ok (s.lead r.stream .nowhere)
    else if target != "" && target.toList.all (·.isDigit) then
      .ok (s.lead r.stream (s.sink (decimal target.toList)))
    else s.leadToFile r.stream .write target
  | mode => s.leadToFile r.stream mode target

end Session

/-! ### Commands -/

/-- The line of a command that is a tool. -/
def lineOf? : Command → Option Nat
  | .simple line _ _ => some line
  | _ => none

/-- The command is the bare word `exec`, whose redirections stay. -/
def isBareExec : Command → Bool
  | .simple _ _ [[.text "exec" false]] => true
  | _ => false

/-- The piece stands for what a script prints. -/
def isOutput : Piece → Bool
  | .output .. => true
  | _ => false

/-- Runs a tool. -/
def runTool (s : Session) (name : String) (arguments : List String) : Session :=
  match tool? name with
  | some tool => tool arguments s
  | none =>
    match s.tree.stat name with
    | .ok _ =>
      if name.toList.contains '/' then s.report s!"{name}: Permission denied" 126
      else s.report s!"{name}: not found" 127
    | .error _ => s.report s!"{name}: not found" 127

/-- Text without the line ends at its end. -/
def withoutLineEnds (s : List Char) : List Char :=
  (s.reverse.dropWhile (· == '\n')).reverse

mutual

/-- Fills the values into a word. -/
def fill : Nat → Word → Session → List Atom × Session
  | 0, _, s => ([], s.leave 2)
  | _, [], s => ([], s)
  | fuel + 1, piece :: word, s =>
    let (first, s) := fillPiece fuel piece s
    let (rest, s) := fill fuel word s
    (first ++ rest, s)

/-- Fills a value in for a piece. -/
def fillPiece : Nat → Piece → Session → List Atom × Session
  | 0, _, s => ([], s.leave 2)
  | fuel + 1, piece, s =>
    match piece with
    | .text text true => (atomsOf true text, s)
    | .text text false => (text.toList.map (.char · false), s)
    | .value name quoted => (s.atoms name quoted, s)
    | .fallback name text emptyToo quoted =>
      match s.value? name with
      | some value =>
        if emptyToo && value == "" then (atomsOf quoted text, s) else (atomsOf quoted value, s)
      | none => (atomsOf quoted text, s)
    | .calculation expression quoted =>
      match doubleQuoted? (expression.length + 1) (expression.toList ++ ['"']) with
      | none => ([], (s.report "Syntax error: Unterminated quoted string" 2).leave 2)
      | some (word, _) =>
        let (atoms, s) := fill fuel word s
        let text := textOf atoms
        match calculate s.number text.toList with
        | .ok n => (atomsOf quoted (toString n), s)
        | .error cause =>
          ([], (s.report s!"arithmetic expression: {cause.message}: \"{text}\"" 2).leave 2)
    | .output script quoted =>
      match Command.read? script.toList with
      | none => ([], (s.report "Syntax error: end of file unexpected" 2).leave 2)
      | some command =>
        let (bytes, s) := s.collect fun s => s.apart (carryOut fuel command)
        let text := withoutLineEnds (Text.Utf8.decodeLossy bytes)
        (atomsOf quoted (String.ofList text), s)

/-- Fills the values into some words. -/
def fillAll : Nat → List Word → Session → List String × Session
  | 0, _, s => ([], s.leave 2)
  | _, [], s => ([], s)
  | fuel + 1, word :: words, s =>
    let (atoms, s) := fill fuel word s
    let (rest, s) := fillAll fuel words s
    (fields atoms ++ rest, s)

/-- Carries out assignments. -/
def assign : Nat → List (String × Word) → Session → Session
  | 0, _, s => s.leave 2
  | _, [], s => s
  | fuel + 1, (name, word) :: rest, s =>
    let (atoms, s) := fill fuel word s
    assign fuel rest (s.set name (textOf atoms))

/-- Leads streams where redirections say. -/
def redirectAll : Nat → List Redirection → Session → Except Session Session
  | 0, _, s => .error (s.leave 2)
  | _, [], s => .ok s
  | fuel + 1, r :: rest, s =>
    let (atoms, s) := fill fuel r.target s
    match s.redirect r (textOf atoms) with
    | .ok s => redirectAll fuel rest s
    | .error message => .error (s.report message 2)

/-- Carries out a command. -/
def carryOut : Nat → Command → Session → Session
  | 0, _, s => s.leave 2
  | fuel + 1, command, s =>
    if !s.isGoing then s
    else
      match command with
      | .simple line assignments words =>
        let (words, t) := fillAll fuel words { s with line }
        let u := assign fuel assignments t
        if !u.isGoing then u
        else
          match words with
          | [] => if assignments.any fun a => a.2.any isOutput then u.judged else u.done 0
          | name :: arguments =>
            let u := u.done s.status
            let u := match name, arguments with
              | "exec", [] => u.done 0
              | "exec", name :: arguments =>
                let u := runTool u name arguments
                if u.isGoing then u.leave u.status else u
              | name, arguments => runTool u name arguments
            (if assignments.isEmpty then u else { u with bindings := t.bindings }).judged
      | .sequence [] => s
      | .sequence (first :: rest) =>
        carryOut fuel (.sequence rest) (carryOut fuel first s)
      | .pipeline [] => s
      | .pipeline [last] => s.apart (carryOut fuel last)
      | .pipeline (first :: rest) =>
        let (bytes, t) := s.collect fun s => s.apart (carryOut fuel first)
        { carryOut fuel (.pipeline rest) { t with input := bytes } with input := t.input }
      | .both first second =>
        let t := s.lenient (carryOut fuel first)
        if t.status == 0 then carryOut fuel second t else t
      | .either first second =>
        let t := s.lenient (carryOut fuel first)
        if t.status == 0 then t else carryOut fuel second t
      | .negation command =>
        let t := s.lenient (carryOut fuel command)
        if t.isGoing then t.done (if t.status == 0 then 1 else 0) else t
      | .branch test yes no =>
        let t := s.lenient (carryOut fuel test)
        if !t.isGoing then t
        else carryOut fuel (if t.status == 0 then yes else no) (t.done 0)
      | .loop whileTrue test body =>
        let t := s.lenient (carryOut fuel test)
        if !t.isGoing then t
        else if (t.status == 0) == whileTrue then
          let u := (carryOut fuel body (t.done 0)).afterRound
          (carryOut fuel (.loop whileTrue test body) u).afterLoop
        else t.done 0
      | .each name words body =>
        let (values, t) := fillAll fuel words s
        let last := values.foldl (fun t value =>
          if t.isGoing then (carryOut fuel body (t.set name value)).afterRound else t) (t.done 0)
        last.afterLoop
      | .apart body => (s.apart (carryOut fuel body)).judged
      | .redirected command redirections =>
        match redirectAll fuel redirections { s with line := (lineOf? command).getD s.line } with
        | .error t => { t with out := s.out, err := s.err, input := s.input }
        | .ok t =>
          let u := carryOut fuel command t
          if isBareExec command then u
          else { u with out := s.out, err := s.err, input := s.input }

end

/-! ### Scripts -/

/-- How deep the work on a script may go. -/
def depth : Nat := 20000

/-- What became of a script. -/
structure Ran where
  /-- How it ended. -/
  status : ExitStatus
  /-- What it printed, messages included. -/
  output : List UInt8
  /-- The files it left. -/
  tree : Files.Tree

/-- Carries a part of a session out as a process of its own. -/
def process (s : Session) (part : Session → Session) : Ran :=
  let t := part s
  { status := t.ending
    output := t.outputs.headD []
    tree := { t.tree with here := s.tree.here } }

/-- The session after a whole script. -/
def runScript (script : List Char) (s : Session) : Session :=
  match tokens? script with
  | none => (s.report "Syntax error: Unterminated quoted string" 2).leave 2
  | some tokens =>
    match Command.ofTokens? tokens with
    | none => (s.report "Syntax error: end of file unexpected" 2).leave 2
    | some command => carryOut depth command s

end LivePages.Shell
