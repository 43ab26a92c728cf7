import LivePages.Shell.Printing
import LivePages.Shell.Session

/-!
# Tools

The commands that scripts are made of: those of the shell itself, and the small programs that are
found on every system.

## Main definitions

* `Tool` — a tool, given its arguments.
* `tool?` — the tool of a name.
-/

namespace LivePages.Shell

/-- A tool, given its arguments. -/
abbrev Tool : Type := List String → Session → Session

namespace Tools

/-- The options of a tool: the letters behind a dash in front of the other arguments. -/
def options : List String → List Char × List String
  | [] => ([], [])
  | "--" :: r => ([], r)
  | word :: r =>
    match word.toList with
    | '-' :: c :: letters => let (more, r) := options r; (c :: letters ++ more, r)
    | _ => ([], word :: r)

/-- Does something with each of some arguments. The status is that of the last failure. -/
def forEach (arguments : List String) (s : Session) (act : String → Session → Session) : Session :=
  arguments.foldl (fun s a =>
    let t := act a { s with status := 0 }
    if t.status == 0 then t.done s.status else t) (s.done 0)

/-- Changes the files, or gives a message why not. -/
def changing (s : Session) (trouble : String) (r : Except Files.Error Files.Tree) : Session :=
  match r with
  | .ok tree => { s with tree }
  | .error e => s.fail s!"{trouble}: {e.reason}" 1

/-! ### Text -/

/-- Prints its arguments. -/
def echo : Tool := fun arguments s => (s.print (echoed arguments)).done 0

/-- Prints a format filled in. -/
def printf : Tool := fun arguments s =>
  match arguments with
  | "--" :: format :: rest | format :: rest => (s.print (formatted format rest)).done 0
  | [] => s.report "printf: usage: printf format [arg ...]" 2

/-- Prints files, or its input. -/
def cat : Tool := fun arguments s =>
  let names := if arguments.isEmpty then ["-"] else arguments
  forEach names s fun name s =>
    if name == "-" then { s.print s.input with input := [] }
    else
      match s.tree.read name with
      | .ok bytes => s.print bytes
      | .error e => s.fail s!"cat: {name}: {e.reason}" 1

/-- The words in some bytes. -/
def wordCount (bytes : List UInt8) : Nat :=
  (bytes.splitBy fun a b => isSpace a == isSpace b).countP fun run => !(run.any isSpace)
where
  isSpace (b : UInt8) : Bool := b == 32 || (9 ≤ b && b ≤ 13)

/-- Counts lines, words and bytes. -/
def wc : Tool := fun arguments s =>
  let (letters, names) := options arguments
  let wanted (c : Char) : Bool := letters.contains c || letters.isEmpty
  let line (bytes : List UInt8) (name : String) : String :=
    let counts := (if wanted 'l' then [bytes.count 10] else [])
      ++ (if wanted 'w' then [wordCount bytes] else [])
      ++ (if wanted 'c' then [bytes.length] else [])
    let least := if name.isEmpty && counts.length > 1 then 7 else (toString bytes.length).length
    let shown := counts.map fun n =>
      if counts.length == 1 then toString n
      else String.ofList (List.replicate (least - (toString n).length) ' ') ++ toString n
    Text.joined " " (shown ++ if name.isEmpty then [] else [name])
  if names.isEmpty then { s.printLine (line s.input "") with input := [], status := 0 }
  else forEach names s fun name s =>
    match s.tree.read name with
    | .ok bytes => s.printLine (line bytes name)
    | .error e => s.fail s!"wc: {name}: {e.reason}" 1

/-- Prints numbers one after the other. -/
def seq : Tool := fun arguments s =>
  let numbers := arguments.map fun a => a.toInt?.getD 0
  let (first, step, last) := match numbers with
    | [last] => ((1 : Int), (1 : Int), last)
    | [first, last] => (first, 1, last)
    | first :: step :: last :: _ => (first, step, last)
    | [] => (1, 1, 0)
  let count := if step = 0 then 0 else ((last - first) / step + 1).toNat
  let s := (List.range count).foldl (fun s i => s.printLine (toString (first + i * step))) s
  s.done 0

/-! ### Files -/

/-- Prints the directory that the shell is in. -/
def pwd : Tool := fun _ s => (s.printLine s.directory).done 0

/-- Goes to another directory. -/
def cd : Tool := fun arguments s =>
  let path := arguments.headD "/"
  match s.tree.place path, s.tree.isDirectory path with
  | .ok place, true => { s with tree := { s.tree with here := place }, status := 0 }
  | _, _ => s.report s!"cd: can't cd to {path}" 2

/-- Lists directories. -/
def ls : Tool := fun arguments s =>
  let (_, names) := options arguments
  forEach (if names.isEmpty then ["."] else names) s fun name s =>
    match s.tree.stat name with
    | .error e => s.fail s!"ls: cannot access '{name}': {e.reason}" 2
    | .ok _ =>
      let inside := (s.tree.list name).toOption.getD [name]
      (inside.filter fun n => n.toList.head? != some '.').foldl Session.printLine s

/-- Makes directories. -/
def mkdir : Tool := fun arguments s =>
  let (letters, names) := options arguments
  forEach names s fun name s =>
    changing s s!"mkdir: cannot create directory '{name}'"
      (if letters.contains 'p' then s.tree.makeDirs name s.now else s.tree.makeDir name s.now)

/-- Makes files, or sets their times. -/
def touch : Tool := fun arguments s =>
  forEach (options arguments).2 s fun name s =>
    changing s s!"touch: cannot touch '{name}'" (match s.tree.stat name with
      | .ok _ => s.tree.touch name s.now
      | .error _ => s.tree.write name [] s.now)

/-- Removes files, and directories with option `r`. -/
def rm : Tool := fun arguments s =>
  let (letters, names) := options arguments
  forEach names s fun name s =>
    let whole := letters.contains 'r' || letters.contains 'R'
    match if whole then s.tree.removeDirs name else s.tree.removeFile name with
    | .error .notFound =>
      if letters.contains 'f' then s
      else s.fail s!"rm: cannot remove '{name}': {Files.Error.notFound.reason}" 1
    | r => changing s s!"rm: cannot remove '{name}'" r

/-- The path that something from `source` gets at `target`. -/
def arrival (s : Session) (source target : String) : String :=
  if s.tree.isDirectory target then
    Files.Path.join target ((Files.Path.fileName? source).getD source)
  else target

/-- Copies files. -/
def cp : Tool := fun arguments s =>
  let (_, names) := options arguments
  forEach names.dropLast s fun name s =>
    let trouble := s!"cp: cannot stat '{name}'"
    changing s trouble (s.tree.copy name (arrival s name (names.getLastD "")) s.now)

/-- Moves files. -/
def mv : Tool := fun arguments s =>
  let (_, names) := options arguments
  forEach names.dropLast s fun name s =>
    changing s s!"mv: cannot stat '{name}'" (do
      let tree ← s.tree.copy name (arrival s name (names.getLastD "")) s.now
      tree.removeFile name)

/-- Makes a link. -/
def ln : Tool := fun arguments s =>
  match (options arguments).2 with
  | [target, path] =>
    let path := arrival s target path
    changing (s.done 0) s!"ln: failed to create symbolic link '{path}'"
      (s.tree.makeLink path target)
  | _ => s.fail "ln: missing file operand" 1

/-- A mode lets the owner run a file, or says nothing about that. -/
def runMode? (mode : String) : Option Bool :=
  match mode.toList with
  | c :: r =>
    if c.isDigit then
      let owner := ((c :: r).reverse.drop 2).headD '0'
      some (owner.toNat % 2 == 1)
    else if !(c :: r).contains 'x' then none
    else some (!(c :: r).contains '-')
  | [] => none

/-- Gives or takes permissions. -/
def chmod : Tool := fun arguments s =>
  match arguments with
  | mode :: names => forEach names s fun name s =>
    changing s s!"chmod: cannot access '{name}'" (match runMode? mode with
      | some runnable => s.tree.permit name runnable
      | none => (s.tree.stat name).map fun _ => s.tree)
  | [] => s.fail "chmod: missing operand" 1

/-! ### Tests -/

/-- The file of a path has a property. -/
def holdsOf (s : Session) (path : String) (p : Files.Node → Bool) : Bool :=
  match s.tree.stat path with
  | .ok node => p node
  | .error _ => false

/-- The result of a test. -/
def judge (s : Session) : List String → Bool
  | [] => false
  | [a] => a != ""
  | ["!", a] => a == ""
  | ["!", a, b] => !judge s [a, b]
  | "!" :: a :: b :: c :: r => !judge s (a :: b :: c :: r)
  | [sign, a] =>
    match sign with
    | "-n" => a != ""
    | "-z" => a == ""
    | "-f" => holdsOf s a Files.Node.isFile
    | "-d" => holdsOf s a Files.Node.isDirectory
    | "-e" | "-r" | "-w" => holdsOf s a fun _ => true
    | "-s" => holdsOf s a fun
      | .file content _ _ => !content.isEmpty
      | _ => true
    | "-x" => holdsOf s a fun
      | .file _ _ runnable => runnable
      | _ => true
    | _ => false
  | [a, sign, b] =>
    let compare (p : Int → Int → Bool) : Bool := p (numberOf a) (numberOf b)
    match sign with
    | "=" => a == b
    | "!=" => a != b
    | "-eq" => compare fun a b => a == b
    | "-ne" => compare fun a b => a != b
    | "-lt" => compare fun a b => a < b
    | "-le" => compare fun a b => a ≤ b
    | "-gt" => compare fun a b => b < a
    | "-ge" => compare fun a b => b ≤ a
    | _ => false
  | _ => false
termination_by arguments => arguments.length

/-- Tests what its arguments say. -/
def test : Tool := fun arguments s => s.done (if judge s arguments then 0 else 1)

/-- Tests what its arguments but the last, a bracket, say. -/
def bracket : Tool := fun arguments s =>
  if arguments.getLast? == some "]" then test arguments.dropLast s
  else s.report "[: missing ]" 2

/-! ### The shell itself -/

/-- The bound of the numbers that the shell's own commands take. -/
def numberBound : Nat := 0x80000000

/-- Ends the script. -/
def exit : Tool := fun arguments s =>
  match arguments with
  | [] => s.leave s.status
  | code :: _ =>
    if code != "" && code.toList.all (·.isDigit) && decimal code.toList < numberBound then
      s.leave (decimal code.toList % 256)
    else (s.report s!"exit: Illegal number: {code}" 2).leave 2

/-- The signal of a number or a name, whose case does not count. -/
def signal? (text : String) : Option Nat :=
  if text != "" && text.toList.all (·.isDigit) then
    let number := decimal text.toList
    if number ≤ signalCount then some number else none
  else
    let name := "SIG" ++ String.ofList (text.toList.map Char.toUpper)
    (signalNames.find? fun p => p.2 == name).map (·.1)

/-- The signal that arguments name and what it is sent to, or what is wrong with them. -/
def signalAndTargets : List String → Except String (Nat × List String)
  | "-s" :: name :: r =>
    match signal? name with
    | some signal => .ok (signal, r)
    | none => .error s!"invalid signal number or name: {name}"
  | word :: r =>
    match word.toList with
    | '-' :: c :: _ =>
      match signal? (String.ofList (word.toList.drop 1)) with
      | some signal => .ok (signal, r)
      | none => .error s!"Illegal option -{c}"
    | _ => .ok (15, word :: r)
  | [] => .ok (15, [])

/-- How to send a signal. -/
def killUsage : String :=
  "Usage: kill [-s sigspec | -signum | -sigspec] [pid | job]... or\nkill -l [exitstatus]"

/-- Sends a signal. -/
def kill : Tool := fun arguments s =>
  match signalAndTargets arguments with
  | .error message => s.report s!"kill: {message}" 2
  | .ok (_, []) => s.report s!"kill: {killUsage}" 2
  | .ok (signal, targets) =>
    if let some word := targets.find? fun t => t == "" || !t.toList.all (·.isDigit) then
      s.report s!"kill: Illegal number: {word}" 2
    else if targets.contains ownNumber then
      if (unnoticedSignals ++ haltingSignals).contains signal then s.done 0
      else { s with flow := .killed signal }
    else s.report "kill: No such process" 1

/-- Drops the first parameters of the script. -/
def shift : Tool := fun arguments s =>
  let count := match arguments with
    | n :: _ => decimal n.toList
    | [] => 1
  { s with arguments := s.arguments.drop count, status := 0 }

/-- Sets variables for other programs. -/
def exportTool : Tool := fun arguments s =>
  let s := arguments.foldl (fun s a =>
    match Text.splitFirst? '=' a.toList with
    | some (name, value) => s.set (String.ofList name) (String.ofList value)
    | none => s) s
  s.done 0

/-- Takes variables away. -/
def unset : Tool := fun arguments s => (arguments.foldl Session.unset s).done 0

/-- Changes how the shell goes about failures. -/
def setTool : Tool := fun arguments s =>
  match arguments with
  | "--" :: arguments => { s with arguments, status := 0 }
  | arguments =>
    let strict := if arguments.contains "-e" then true
      else if arguments.contains "+e" then false else s.strict
    { s with strict, status := 0 }

/-- The tools of the shell itself. -/
def ofShell : List (String × Tool) :=
  [(":", fun _ s => s.done 0), ("break", fun _ s => { s with flow := .breaking, status := 0 }),
    ("continue", fun _ s => { s with flow := .skipping, status := 0 }), ("cd", cd),
    ("exit", exit), ("shift", shift),
    ("return", exit), ("export", exportTool), ("unset", unset), ("set", setTool)]

/-- The tools that are programs. -/
def programs : List (String × Tool) :=
  [("true", fun _ s => s.done 0), ("false", fun _ s => s.done 1), ("echo", echo),
    ("printf", printf), ("cat", cat), ("wc", wc), ("seq", seq), ("pwd", pwd), ("ls", ls),
    ("mkdir", mkdir), ("touch", touch), ("rm", rm), ("cp", cp), ("mv", mv), ("ln", ln),
    ("chmod", chmod), ("test", test), ("[", bracket), ("kill", kill),
    ("sleep", fun _ s => s.done 0)]

end Tools

/-- The program of a command: its name alone, or its path in one of the usual directories. -/
def program? (command : String) : Option Tool :=
  let name := ["/bin/", "/usr/bin/"].findSome? fun directory =>
    Text.withoutPrefix? directory.toList command.toList
  Tools.programs.lookup ((name.map String.ofList).getD command)

/-- The tool of a name. -/
def tool? (name : String) : Option Tool :=
  Tools.ofShell.lookup name <|> program? name

end LivePages.Shell
