import LivePages.Config.Basic
import LivePages.Files.Tree
import LivePages.Json.Value
import LivePages.Log

/-!
# Configuration texts

A configuration as a JSON document. A section may also be the list of its settings in order.

## Main definitions

* `Config.parse` — reads a document; what is missing has its default.
* `Config.toJson` — writes one with all settings.
* `Config.load` — reads a file; a missing file means the defaults.
-/

namespace LivePages

open Json Json.Reader

/-- Puts an entry into a list sorted by keys, in place of one with the same key. -/
def insertEntry (key value : String) : List (String × String) → List (String × String)
  | [] => [(key, value)]
  | e :: r =>
    if key < e.1 then (key, value) :: e :: r
    else if key = e.1 then (key, value) :: r
    else e :: insertEntry key value r

/-- The entries sorted by keys; of those with the same key the last one counts. -/
def sortEntries (entries : List (String × String)) : List (String × String) :=
  entries.foldl (fun sorted e => insertEntry e.1 e.2 sorted) []

/-- Reads a path. -/
def pathReader : Reader String :=
  textFor "path string"

/-- Reads a waiting time. -/
def waitReader : Reader Nat :=
  natural waitBound "u64"

/-- The settings of the ring, in order. -/
def BackendConfig.fields : List (Json.Field BackendConfig) :=
  [field "host" string fun c v => { c with host := v },
    field "ports" (listOf (natural portBound "u16")) fun c v => { c with ports := v },
    field "start_wait_ms" waitReader fun c v => { c with startWait := v },
    field "kill_wait_ms" waitReader fun c v => { c with killWait := v },
    field "del_wait_ms" waitReader fun c v => { c with delWait := v },
    field "poll_interval_ms" waitReader fun c v => { c with pollInterval := v },
    field "ready_timeout_ms" waitReader fun c v => { c with readyTimeout := v }]

/-- The settings of the compiler, in order. -/
def BuildConfig.fields : List (Json.Field BuildConfig) :=
  [field "cargo" string fun c v => { c with cargo := v },
    field "release" bool fun c v => { c with release := v },
    field "dependencies" (mapOf string) fun c v => { c with dependencies := sortEntries v }]

/-- The settings of a server, in order. -/
def Config.fields : List (Json.Field Config) :=
  [field "web_root" pathReader fun c v => { c with webRoot := v },
    field "src_dir" pathReader fun c v => { c with srcDir := v },
    field "exe_dir" pathReader fun c v => { c with exeDir := v },
    field "tmp_dir" (optional pathReader) fun c v => { c with tmpDir := v },
    field "target_dir" pathReader fun c v => { c with targetDir := v },
    field "runtime_crate" pathReader fun c v => { c with runtimeCrate := v },
    field "listen_addr" string fun c v => { c with listenAddr := v },
    field "backend" (record "struct BackendConfig" BackendConfig.fields {})
      fun c v => { c with backend := v },
    field "build" (record "struct BuildConfig" BuildConfig.fields {})
      fun c v => { c with build := v }]

namespace Config

/-- Reads a document. -/
def parse (runtimeCrate : String) (text : String) : Except Json.Error Config :=
  (record "struct RspConfig" Config.fields (defaults runtimeCrate)).run (Text.Utf8.ofString text)

/-- The value of the ring's settings. -/
def backendJson (c : BackendConfig) : Value :=
  .object
    [("host", .text c.host), ("ports", .list (c.ports.map .natural)),
      ("start_wait_ms", .natural c.startWait), ("kill_wait_ms", .natural c.killWait),
      ("del_wait_ms", .natural c.delWait), ("poll_interval_ms", .natural c.pollInterval),
      ("ready_timeout_ms", .natural c.readyTimeout)]

/-- The value of the compiler's settings. -/
def buildJson (c : BuildConfig) : Value :=
  .object
    [("cargo", .text c.cargo), ("release", .bool c.release),
      ("dependencies", .object (c.dependencies.map fun d => (d.1, .text d.2)))]

/-- The value of all settings. -/
def toJson (c : Config) : Value :=
  .object
    [("web_root", .text c.webRoot), ("src_dir", .text c.srcDir), ("exe_dir", .text c.exeDir),
      ("tmp_dir", .ofOption .text c.tmpDir), ("target_dir", .text c.targetDir),
      ("runtime_crate", .text c.runtimeCrate), ("listen_addr", .text c.listenAddr),
      ("backend", backendJson c.backend), ("build", buildJson c.build)]

/-- Reads a configuration file, with the log. -/
def load (tree : Files.Tree) (runtimeCrate : String) (path : String) :
    Except Error Config × List Log.Line :=
  match tree.readText path with
  | .ok text =>
    ((parse runtimeCrate text).mapError .json, [Log.info s!"Loaded configuration from {path}"])
  | .error .notFound =>
    (.ok (defaults runtimeCrate),
      [Log.warn s!"Configuration file {path} not found, using defaults"])
  | .error e => (.error (.io e), [])

end Config

end LivePages
