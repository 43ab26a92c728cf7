import LivePages.Json.Reader
import LivePages.Net.Fault
import LivePages.Page.Loader
import LivePages.Command.Start

/-!
# Errors

Why an operation of the library fails, grouped by the stage that it fails in.

## Main definitions

* `Error` — the causes.
* `Error.message`, `Error.kind` — their wording, and the name of their stage.
-/

namespace LivePages

/-- What is wrong with a configuration. -/
inductive ConfigError where
  /-- The address to listen on is blank. -/
  | noListenAddress
  /-- There are fewer than two ports. -/
  | tooFewPorts (count : Nat)
  /-- A port occurs twice. -/
  | duplicatePort (port : Nat)
  /-- The web root is not a directory. -/
  | noWebRoot (root : String)
  /-- A text is not a socket address. -/
  | badAddress
  deriving DecidableEq, Repr

/-- The wording of what is wrong with a configuration. -/
def ConfigError.message : ConfigError → String
  | .noListenAddress => "listen_addr must not be empty"
  | .tooFewPorts count => s!"at least 2 backend ports are required, got {count}"
  | .duplicatePort port => s!"duplicate backend port {port}"
  | .noWebRoot root => s!"web root {root} is not a directory"
  | .badAddress => "invalid socket address syntax"

/-- How a process ended. -/
inductive ExitStatus where
  /-- By itself, with a code below 256. -/
  | exited (code : Nat)
  /-- By a signal. -/
  | killed (signal : Nat)
  deriving DecidableEq, Repr

/-- The names of the signals. -/
def signalNames : List (Nat × String) :=
  [(1, "SIGHUP"), (2, "SIGINT"), (3, "SIGQUIT"), (4, "SIGILL"), (5, "SIGTRAP"), (6, "SIGABRT"),
    (7, "SIGBUS"), (8, "SIGFPE"), (9, "SIGKILL"), (10, "SIGUSR1"), (11, "SIGSEGV"),
    (12, "SIGUSR2"), (13, "SIGPIPE"), (14, "SIGALRM"), (15, "SIGTERM"), (16, "SIGSTKFLT"),
    (17, "SIGCHLD"), (18, "SIGCONT"), (19, "SIGSTOP"), (20, "SIGTSTP"), (21, "SIGTTIN"),
    (22, "SIGTTOU"), (23, "SIGURG"), (24, "SIGXCPU"), (25, "SIGXFSZ"), (26, "SIGVTALRM"),
    (27, "SIGPROF"), (28, "SIGWINCH"), (29, "SIGIO"), (30, "SIGPWR"), (31, "SIGSYS")]

/-- The wording of an end. -/
def ExitStatus.message : ExitStatus → String
  | .exited code => s!"exit status: {code}"
  | .killed signal =>
    match signalNames.find? fun p => p.1 == signal with
    | some p => s!"signal: {signal} ({p.2})"
    | none => s!"signal: {signal}"

/-- The number of signals. -/
def signalCount : Nat := 64

/-- The signals that a process does not notice. -/
def unnoticedSignals : List Nat := [0, 17, 18, 23, 28]

/-- The signals that halt a process without ending it. -/
def haltingSignals : List Nat := [19, 20, 21, 22]

/-- The end of a process that leaves with some number: its last eight bits are the code. -/
def ExitStatus.ofNumber (number : Nat) : ExitStatus :=
  .exited (number % 256)

/-- The code of a process that ended by itself. -/
def ExitStatus.code? : ExitStatus → Option Nat
  | .exited code => some code
  | .killed _ => none

/-- The process ended well. -/
def ExitStatus.isSuccess : ExitStatus → Bool
  | .exited code => code == 0
  | .killed _ => false

/-- Why no executable was built. -/
inductive BuildError where
  /-- The compiler could not be started. -/
  | cannotRun (compiler : String) (fault : Command.Fault)
  /-- The compiler reported a failure. -/
  | compilerFailed (compiler : String) (status : ExitStatus)
  /-- The compiler reported success and left no executable. -/
  | noExecutable (path : String)
  /-- A reason in a toolchain's own words. -/
  | reported (reason : String)
  deriving DecidableEq, Repr

/-- The wording of a failed build. -/
def BuildError.message : BuildError → String
  | .cannotRun compiler fault => s!"failed to run {compiler}: {fault.message}"
  | .compilerFailed compiler status => s!"{compiler} build exited with {status.message}"
  | .noExecutable path => s!"compiler succeeded but {path} is missing"
  | .reported reason => reason

/-- Why a backend does not run. -/
inductive LaunchError where
  /-- Its process could not be started. -/
  | cannotStart (executable : String) (fault : Command.Fault)
  /-- Its process ended before it was ready. -/
  | exitedEarly (status : ExitStatus)
  /-- A reason in a spawner's own words. -/
  | reported (reason : String)
  deriving DecidableEq, Repr

/-- The wording of a failed launch. -/
def LaunchError.message : LaunchError → String
  | .cannotStart executable fault => s!"Failed to spawn {executable}: {fault.message}"
  | .exitedEarly status => s!"backend exited during start-up with {status.message}"
  | .reported reason => reason

/-- Why a network operation fails. -/
inductive TransportError where
  /-- An address cannot be listened on. -/
  | cannotBind (address : String) (fault : Net.Fault)
  /-- An address cannot be reached. -/
  | cannotConnect (address : String) (fault : Net.Fault)
  deriving DecidableEq, Repr

/-- The wording of a failed network operation. -/
def TransportError.message : TransportError → String
  | .cannotBind address fault => s!"Failed to bind to {address}: {fault.message}"
  | .cannotConnect address fault => s!"{address}: {fault.message}"

/-- Why an operation fails. -/
inductive Error where
  | io (error : Files.Error)
  | json (error : Json.Error)
  | config (error : ConfigError)
  /-- A page cannot be loaded. -/
  | template (path : String) (error : Page.LoadError)
  | build (error : BuildError)
  | launch (error : LaunchError)
  | transport (error : TransportError)
  /-- Something was not ready in so many milliseconds. -/
  | timeout (milliseconds : Nat)

/-- The wording of an error. -/
def Error.message : Error → String
  | .io error => s!"IO error: {error.message}"
  | .json error => s!"JSON error: {error.message}"
  | .config error => s!"Configuration error: {error.message}"
  | .template path error => s!"Template error: loading {path}: {error.message}"
  | .build error => s!"Build failed: {error.message}"
  | .launch error => s!"Launch failed: {error.message}"
  | .transport error => s!"Transport error: {error.message}"
  | .timeout milliseconds => s!"Timed out after {milliseconds}ms"

/-- The name of the stage an error belongs to. -/
def Error.kind : Error → String
  | .io _ => "Io"
  | .json _ => "Json"
  | .config _ => "Config"
  | .template _ _ => "Template"
  | .build _ => "Build"
  | .launch _ => "Launch"
  | .transport _ => "Transport"
  | .timeout _ => "Timeout"

end LivePages
