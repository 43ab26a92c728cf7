import LivePages.Build.Compiler
import LivePages.CommandLine.Help
import LivePages.Config.Text
import LivePages.Net.Network

/-!
# The program

The commands of the program: watching and serving a site, building it once, and showing what is
generated for a page.

## Main definitions

* `program` — its commands and their options.
* `Setting` — what the program finds when it is started.
* `Ending` — its exit code, what it printed, and the files it left.
* `run` — the ending for some arguments.
-/

namespace LivePages.CommandLine

/-- The configuration file that is read unless another one is named. -/
def defaultConfigFile : String := "rsps.json"

/-- The option that names the configuration file. -/
def configChoice : Choice :=
  { letter := 'c', name := "config", description := "configuration file" }

/-- Watches and serves a site. -/
def serveOrder : Order :=
  { name := "serve"
    description := "watch the web root, rotate backends and serve traffic"
    choices :=
      [configChoice,
        { letter := 'l', name := "listen",
          description := "front-end listen address, overriding the configuration" },
        { letter := 'w', name := "web-root",
          description := "directory of page sources, overriding the configuration" }] }

/-- Builds a site. -/
def buildOrder : Order :=
  { name := "build"
    description := "compile all pages into one backend executable"
    choices :=
      [configChoice,
        { letter := 'o', name := "output", required := true,
          description := "where to write the executable" }] }

/-- Shows what is generated for a page. -/
def genOrder : Order :=
  { name := "gen"
    description := "print the Rust source generated for one page"
    operands := [{ name := "page", description := "page path relative to the web root" }]
    choices := [configChoice] }

/-- The program. -/
def program : Suite :=
  { name := "rsps"
    description := "rsps - self-updating server for RSP pages"
    orders := [serveOrder, buildOrder, genOrder] }

/-- What the program finds when it is started. -/
structure Setting where
  /-- The files, and the directory it is started in. -/
  tree : Files.Tree
  /-- The time. -/
  now : Files.Time
  /-- The package that generated programs depend on unless another one is configured. -/
  runtimeCrate : String
  /-- The addresses on which others listen. -/
  taken : List Net.Address := []

/-- How the program ends. -/
structure Ending where
  /-- Its exit code. -/
  code : Nat
  /-- What it printed. -/
  output : String := ""
  /-- Its messages. -/
  messages : String := ""
  /-- The files it left. -/
  tree : Files.Tree

/-- An error as the program reports it: what it was doing, if that is said, and the error. -/
structure Failure where
  /-- What it was doing. -/
  doing : Option String := none
  /-- The error. -/
  error : Error

/-- An error and what it was caused by, each in its own words. -/
def chain : Error → List String
  | .io e => [(Error.io e).message, e.message]
  | .json e => [(Error.json e).message, e.message]
  | e => [e.message]

/-- A number at the right end of five columns. -/
def numbered (n : Nat) : String :=
  let digits := toString n
  String.ofList (List.replicate (5 - digits.length) ' ') ++ digits ++ ": "

/-- A cause with its further lines indented like its first. -/
def causeText (mark indent text : String) : String :=
  let lines := (Text.splitOn '\n' text.toList).map String.ofList
  "\n" ++ mark ++ Text.joined ("\n" ++ indent) lines

/-- The causes of an error, numbered if there is more than one. -/
def causesText : List String → String
  | [] => ""
  | [cause] => "\n\nCaused by:" ++ causeText "    " "    " cause
  | causes =>
    "\n\nCaused by:" ++
      String.join (causes.zipIdx.map fun c => causeText (numbered c.2) "       " c.1)

/-- The report of a failure. -/
def Failure.report (failure : Failure) : String :=
  match failure.doing.toList ++ chain failure.error with
  | [] => "Error: \n"
  | first :: causes => "Error: " ++ first ++ causesText causes ++ "\n"

/-- The path of the directory that the program is started in. -/
def Setting.directory (s : Setting) : String :=
  "/" ++ Text.joined "/" s.tree.here

/-- The configuration that a command works with: that of the file, with what the options override,
and all its paths made absolute. -/
def configuration (s : Setting) (r : Reading) : Except Error Config := do
  let path := (r.value? configChoice.name).getD defaultConfigFile
  let c ← (Config.load s.tree s.runtimeCrate path).1
  let c := { c with
    listenAddr := (r.value? "listen").getD c.listenAddr
    webRoot := (r.value? "web-root").getD c.webRoot }
  let c := c.resolve s.directory
  match c.validate with
  | .ok () => return c
  | .error e => throw (.config e)

/-- Serves a site until it is interrupted, unless its address cannot be listened on. -/
def serve (s : Setting) (c : Config) : Except Failure Unit :=
  (Net.listen s.taken c.listenAddr).mapError fun error => { error }

/-- Builds a site into an executable. What has been done to the files stays where that fails. -/
def build (s : Setting) (c : Config) (output : String) : Except Failure Unit × Files.Tree :=
  match Site.scan s.tree c.webRoot with
  | .error error => (.error { error }, s.tree)
  | .ok found =>
    let toolchain := (Build.Compiler.ofConfig c).toolchain
    let work := Build.build c toolchain (found.pages.map (·.path)) output
    let (result, w) := work.run.run ⟨s.tree, s.now, []⟩
    match result with
    | .ok _ => (.ok (), w.tree)
    | .error error => (.error { doing := some s!"building {output}", error }, w.tree)

/-- The source generated for a page. -/
def gen (s : Setting) (c : Config) (page : String) : Except Failure String :=
  match Build.compilePage s.tree c.webRoot page with
  | .ok (page, _) => .ok page.source
  | .error error => .error { error }

/-- The ending after a command that printed something, or failed. -/
def ending (tree : Files.Tree) : Except Failure String → Ending
  | .ok output => { code := 0, output, tree }
  | .error failure => { code := 1, messages := failure.report, tree }

/-- Carries out a command. -/
def perform (s : Setting) (order : Order) (r : Reading) : Ending :=
  match configuration s r with
  | .error error => ending s.tree (.error { error })
  | .ok c =>
    match order.name with
    | "serve" => ending s.tree ((serve s c).map fun _ => "")
    | "build" =>
      let (result, tree) := build s c ((r.value? "output").getD "")
      ending tree (result.map fun _ => "")
    | _ => ending s.tree (gen s c (r.operands.headD ""))

/-- The ending of the program for some arguments. -/
def run (s : Setting) (arguments : List String) : Ending :=
  match program.read arguments with
  | .error mistake =>
    let advice := s!"\nRun {program.name} --help for more information.\n"
    { code := 1, messages := mistake.message ++ advice, tree := s.tree }
  | .ok .overview => { code := 0, output := program.overview ++ "\n", tree := s.tree }
  | .ok (.help order) => { code := 0, output := order.help program.name ++ "\n", tree := s.tree }
  | .ok (.perform order r) => perform s order r

end LivePages.CommandLine
