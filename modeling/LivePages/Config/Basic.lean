import LivePages.Error
import LivePages.Files.Path
import LivePages.Text.Blank

/-!
# Configuration

The settings of a server. Every setting has a default.

## Main definitions

* `Config`, `BackendConfig`, `BuildConfig` — the settings.
* `Config.defaults` — their defaults.
* `Config.resolve` — the same settings with every directory looked at from a base directory.
* `Config.validate` — what a ring of backends relies on.
-/

namespace LivePages

/-- The ring of backends and the times of a rotation, in milliseconds. -/
structure BackendConfig where
  /-- The host that backends listen on. -/
  host : String := "127.0.0.1"
  /-- One port for every place of the ring. -/
  ports : List Nat := [8081, 8082, 8083]
  /-- How long a new backend warms up. -/
  startWait : Nat := 1000
  /-- How long a replaced backend drains. -/
  killWait : Nat := 10000
  /-- How long after its end a backend's executable is deleted. -/
  delWait : Nat := 1000
  /-- How often the pages are looked at. -/
  pollInterval : Nat := 1000
  /-- How long a new backend may take to answer; zero turns the probe off. -/
  readyTimeout : Nat := 5000
  deriving DecidableEq, Repr

/-- How backends are compiled. -/
structure BuildConfig where
  /-- The compiler. -/
  cargo : String := "cargo"
  /-- Whether it optimises. -/
  release : Bool := true
  /-- The further packages that pages may import, by name, with the versions required. -/
  dependencies : List (String × String) := []
  deriving DecidableEq, Repr

/-- The settings of a server. -/
structure Config where
  /-- The directory of the pages and the files served as they are. -/
  webRoot : String := "web"
  /-- Where generated sources are written. -/
  srcDir : String := "src"
  /-- Where executables and their build logs are written. -/
  exeDir : String := "exe"
  /-- Where projects are assembled, unless in the system's own directory. -/
  tmpDir : Option String := none
  /-- Where the compiler keeps its results. -/
  targetDir : String := "target-rsp"
  /-- The package that backends are built on. -/
  runtimeCrate : String
  /-- The address of the front end. -/
  listenAddr : String := "0.0.0.0:8080"
  /-- The ring. -/
  backend : BackendConfig := {}
  /-- The compiler. -/
  build : BuildConfig := {}
  deriving DecidableEq, Repr

/-- The bound of the port numbers. -/
def portBound : Nat := 0x10000

/-- The bound of the waiting times. -/
def waitBound : Nat := 0x10000000000000000

/-- The addresses of the ring, in order. -/
def BackendConfig.addrs (config : BackendConfig) : List String :=
  config.ports.map fun port => s!"{config.host}:{port}"

/-- How long the probe may take; without a time there is no probe. -/
def BackendConfig.probe? (config : BackendConfig) : Option Nat :=
  if config.readyTimeout = 0 then none else some config.readyTimeout

namespace Config

/-- The settings of an empty configuration. -/
def defaults (runtimeCrate : String) : Config :=
  { runtimeCrate }

/-- Every directory looked at from a base directory. -/
def resolve (config : Config) (base : String) : Config :=
  let from' (path : String) : String := Files.Path.join base path
  { config with
    webRoot := from' config.webRoot
    srcDir := from' config.srcDir
    exeDir := from' config.exeDir
    tmpDir := config.tmpDir.map from'
    targetDir := from' config.targetDir
    runtimeCrate := from' config.runtimeCrate }

/-- The first member of a list that occurs before, given the members passed already. -/
def firstRepeated? (seen : List Nat) : List Nat → Option Nat
  | [] => none
  | a :: r => if seen.contains a then some a else firstRepeated? (a :: seen) r

/-- Checks what the ring relies on. -/
def validate (config : Config) : Except ConfigError Unit :=
  if (Text.trim config.listenAddr.toList).isEmpty then .error .noListenAddress
  else if config.backend.ports.length < 2 then
    -- a place keeps its lock until its backend has been replaced, so one place could never rotate
    .error (.tooFewPorts config.backend.ports.length)
  else
    match firstRepeated? [] config.backend.ports with
    | some port => .error (.duplicatePort port)
    | none => .ok ()

end Config

end LivePages
