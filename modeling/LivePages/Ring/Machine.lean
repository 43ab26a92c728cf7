import LivePages.Ring.Task

/-!
# The ring

All that a rotating ring of backends consists of, and what may happen to it. A rotation scans the
pages and, when the live backend is out of date, builds a new one into the current slot, starts
it, publishes its address, and leaves the old one to a retirement. The lock of a slot is taken
before a build and given up when the backend is gone, which is all that holds a rotation back.

## Main definitions

* `Machine` — slots, processes, tasks, files and everything shown to others.
* `World` — how compilers, processes and the network behave at a moment.
* `Move`, `Machine.apply` — what may happen next: a statement of some task, the end of a process,
  or a change of the files from outside.
* `Machine.run` — a sequence of moves.
-/

namespace LivePages.Ring

/-- A position of the ring. -/
structure Position where
  /-- The slot that the next backend is built into. -/
  current : Nat := 0
  /-- The slot of the backend published last. -/
  last : Option Nat := none
  deriving DecidableEq, Repr

/-- A ring of backends. -/
structure Machine where
  /-- The settings. -/
  config : Config
  /-- The files. -/
  tree : Files.Tree
  /-- The time. -/
  clock : Files.Time
  /-- The slots. -/
  slots : List Slot
  /-- The position. -/
  position : Position := {}
  /-- The live backend. -/
  live : Option Handle := none
  /-- The published address. -/
  published : LiveAddress := {}
  /-- The position that is shown. -/
  shown : Position := {}
  /-- All processes ever started, by their numbers. -/
  backends : List Backend := []
  /-- The next statement of the task that has the ring, if one has it. -/
  task : Option Statement := none
  /-- The retirements in progress. -/
  retirements : List Retirement := []
  /-- All events so far. -/
  events : List Event := []
  /-- How the tasks ended that have had the ring. -/
  outcomes : List Outcome := []
  /-- All deeds so far. -/
  deeds : List Deed := []
  /-- The log. -/
  log : List Log.Line := []

/-- What starts a process from an executable on an address. With a status it ends that way during
its warm-up, without one it stays up. -/
abbrev Spawner : Type :=
  Files.Tree → (executable addr : String) → Except LaunchError (Option ExitStatus)

/-- How the outside behaves. -/
structure World where
  /-- The toolchain. -/
  toolchain : Build.Toolchain
  /-- The spawner. -/
  spawner : Spawner
  /-- The network. -/
  network : Net.Network

namespace Machine

/-- The ring of a configuration, before anything has happened. -/
def new (config : Config) (tree : Files.Tree) (clock : Files.Time) : Except Error Machine :=
  match config.validate with
  | .ok () => .ok { config, tree, clock, slots := Slot.ring config }
  | .error e => .error (.config e)

/-! ### Small changes -/

/-- The slot at a position. -/
def slot (s : Machine) (i : Nat) : Slot :=
  s.slots.getD i { index := i, exePath := "", addr := "" }

/-- Changes the slot at a position. -/
def onSlot (s : Machine) (i : Nat) (f : Slot → Slot) : Machine :=
  { s with slots := s.slots.modify i f }

/-- Adds lines to the log. -/
def report (s : Machine) (lines : List Log.Line) : Machine :=
  { s with log := s.log ++ lines }


/-- Takes the lock of the slot at a position, if it is free. -/
def lock? (s : Machine) (i : Nat) : Option Machine :=
  if (s.slot i).locked then none else some (s.onSlot i fun slot => { slot with locked := true })

/-- Gives up the slot at a position. -/
def unlock (s : Machine) (i : Nat) : Machine :=
  s.onSlot i (·.unlock)

/-- Tells an event to those who follow the ring. -/
def emit (s : Machine) (event : Event) : Machine :=
  { s with events := s.events ++ [event] }

/-- Puts a deed on record. -/
def record (s : Machine) (deed : Deed) : Machine :=
  { s with deeds := s.deeds ++ [deed] }

/-- Changes the state of the slot at a position. -/
def move (s : Machine) (i : Nat) (next : Phase) : Machine :=
  ((s.onSlot i (·.move next)).record (.moved i (s.slot i).phase next)).report
    [(s.slot i).moveLine next]

/-- Goes on to a statement of the task that has the ring. -/
def next (s : Machine) (statement : Statement) : Machine :=
  { s with task := some statement }

/-- The status of a backend that has ended. -/
def status? (s : Machine) (backend : Nat) : Option ExitStatus := do
  (← s.backends[backend]?).status

/-- Changes a backend. -/
def onBackend (s : Machine) (backend : Nat) (f : Backend → Backend) : Machine :=
  { s with backends := s.backends.modify backend f }

/-- Tells a backend to end. -/
def kill (s : Machine) (handle : Handle) : Machine :=
  (s.onBackend handle.backend fun b => { b with killed := true }).record (.killed handle)

/-- Carries out work on the files at the present time. -/
def work {α : Type} (s : Machine) (work : Build.Work α) : Except Error α × Machine :=
  let (result, w) := work.run.run ⟨s.tree, s.clock, []⟩
  (result, ({ s with tree := w.tree } : Machine).report w.log)

/-- The slot that the next backend is built into. -/
def current (s : Machine) : Slot :=
  s.slot s.position.current

/-- The backend of the current slot as a possession. -/
def handleOf (s : Machine) (backend : Nat) : Handle :=
  ⟨s.position.current, backend⟩

/-! ### A rotation -/

/-- What was built last: the executable of the live backend, or that of the current slot while
there is none. -/
def builtLast (s : Machine) : String :=
  match s.live with
  | some handle => (s.slot handle.slot).exePath
  | none => s.current.exePath

/-- Compares the pages with what was built last. -/
def check (s : Machine) (pages : List Site.PageFile) : Machine :=
  let stale := Site.isStale s.tree s.builtLast (pages.map (·.modified))
  if s.live.isSome && !stale then s.next (.finish .idle) else s.next (.acquire pages stale)

/-- Goes on with the lock of the current slot in hand. An executable that is up to date is used
again. -/
def acquired (s : Machine) (pages : List Site.PageFile) (stale : Bool) : Machine :=
  if s.live.isNone && !stale then
    (s.report [Log.info s!"Reusing up-to-date {s.current.exePath}"]).next .enterLaunching
  else s.next (.enterBuilding pages)

/-- Makes the directory of the sources. -/
def openSources (s : Machine) (pages : List Site.PageFile) : Machine :=
  match s.work (Build.Work.makeDirs s.config.srcDir) with
  | (.ok _, s) => s.next (.generate (Site.allocate (pages.map (·.path))) {})
  | (.error e, s) => s.next (.leaveBuilding e)

/-- Reads the next page and writes its source. -/
def generate (s : Machine) (done : Build.Generated) : List Site.Request → Machine
  | [] => (s.report [done.line]).next (.assemble done)
  | r :: waiting =>
    match s.work (Build.generatePage s.config done r) with
    | (.ok done, s) => s.next (.generate waiting done)
    | (.error e, s) => s.next (.leaveBuilding e)

/-- Assembles the project. -/
def assemble (s : Machine) (done : Build.Generated) : Machine :=
  match s.work (Build.openAssembled s.config done s.current.exePath) with
  | (.ok project, s) => s.next (.compile project)
  | (.error e, s) => s.next (.leaveBuilding e)

/-- Runs the toolchain. -/
def compile (s : Machine) (world : World) (project : Build.Project) : Machine :=
  let s := s.record (.compiled s.position.current (project.pages.map (·.symbol)))
  match s.work (Build.compile world.toolchain project s.current.exePath) with
  | (.ok built, s) => s.next (.install project built)
  | (.error e, s) => s.next (.leaveBuilding e)

/-- Puts the executable to its place. -/
def install (s : Machine) (project : Build.Project) (built : String) : Machine :=
  match s.work (Build.install s.config project built s.current.exePath) with
  | (.ok _, s) => s.next .enterLaunching
  | (.error e, s) => s.next (.leaveBuilding e)

/-- Starts a process from the current slot. -/
def start (s : Machine) (world : World) : Machine :=
  let slot := s.current
  let s := s.record (.tried slot.exePath slot.addr)
  match world.spawner s.tree slot.exePath slot.addr with
  | .error e => s.next (.leaveLaunching (.launch e))
  | .ok status =>
    let backend := s.backends.length
    let started : Backend := { slot := s.position.current, status }
    let s := { s with backends := s.backends ++ [started] }
    let launched := Log.info s!"Launched {slot.exePath} on {slot.addr}"
    ((s.record (.started (s.handleOf backend))).report [launched]).next (.examine backend)

/-- Looks whether the process still runs after its warm-up. -/
def examine (s : Machine) (backend : Nat) : Machine :=
  match s.status? backend with
  | some status => s.next (.killUnready backend (.launch (.exitedEarly status)))
  | none => s.next (.probe backend)

/-- Waits until the backend answers. -/
def probe (s : Machine) (world : World) (backend : Nat) : Machine :=
  match world.network.waitReady s.config.backend.probe? s.current.addr with
  | .ok () => s.next (.announceLaunch backend)
  | .error e => s.next (.killUnready backend e)

/-- Publishes the address of the current slot. -/
def publish (s : Machine) (backend : Nat) : Machine :=
  let previous := match s.published.current with
    | some addr => s!"Some({Text.Quoted.quote addr})"
    | none => "None"
  let line := Log.info s!"Publishing {s.current.addr} (previously {previous})"
  let s := { s with published := s.published.publish s.current.addr }
  ((s.record (.published (s.handleOf backend))).report [line]).next (.announcePublication backend)

/-- Takes the place of the live backend, whose retirement begins. -/
def handOver (s : Machine) (backend : Nat) : Machine :=
  let retirements := match s.live with
    | some old => s.retirements ++ [{ handle := old }]
    | none => s.retirements
  ({ s with live := some (s.handleOf backend), retirements } : Machine).next .turn

/-- Moves the ring on. -/
def turn (s : Machine) : Machine :=
  let i := s.position.current
  ({ s with position := ⟨(i + 1) % s.slots.length, some i⟩ } : Machine).next .showPosition

/-- Takes the live backend away. -/
def stop (s : Machine) : Machine :=
  match s.live with
  | none => s.next (.finish .stopped)
  | some handle =>
    let line := Log.info s!"Stopping backend in slot {handle.slot}"
    (({ s with live := none } : Machine).report [line]).next (.stopKill handle)

/-- Gives the ring back. -/
def finish (s : Machine) (outcome : Outcome) : Machine :=
  { s with task := none, outcomes := s.outcomes ++ [outcome] }

/-- Carries out a statement of the task that has the ring. There is no result while the statement
waits: for a lock that somebody has, or for the end of a process that still runs. -/
def carryOut (s : Machine) (world : World) : Statement → Option Machine
  | .scan =>
    match Site.scan s.tree s.config.webRoot with
    | .ok found => some ((s.report found.log).next (.check found.pages))
    | .error e => some (s.next (.finish (.failed e)))
  | .check pages => some (s.check pages)
  | .acquire pages stale => (s.lock? s.position.current).map fun s => s.acquired pages stale
  | .enterBuilding pages =>
    some ((s.move s.position.current .building).next (.announceBuild pages))
  | .announceBuild pages =>
    let i := s.position.current
    let line := Log.info s!"Building {pages.length} pages into slot {i}"
    some (((s.emit (.buildStarted i)).report [line]).next (.openSources pages))
  | .openSources pages => some (s.openSources pages)
  | .generate waiting done => some (s.generate done waiting)
  | .assemble done => some (s.assemble done)
  | .compile project => some (s.compile world project)
  | .install project built => some (s.install project built)
  | .leaveBuilding e =>
    let i := s.position.current
    let line := Log.error s!"Build for slot {i} failed: {e.message}"
    some (((s.report [line]).move i .idle).next (.announceBuildFailure e))
  | .announceBuildFailure e =>
    some ((s.emit (.buildFailed s.position.current e.message)).next (.giveUp .buildFailed))
  | .enterLaunching => some ((s.move s.position.current .launching).next .start)
  | .start => some (s.start world)
  | .examine backend => some (s.examine backend)
  | .probe backend => some (s.probe world backend)
  | .killUnready backend e => some ((s.kill (s.handleOf backend)).next (.awaitUnready backend e))
  | .awaitUnready backend e =>
    (s.status? backend).map fun _ =>
      (s.record (.confirmed (s.handleOf backend))).next (.leaveLaunching e)
  | .leaveLaunching e =>
    let i := s.position.current
    let line := Log.error s!"Launching slot {i} on {s.current.addr} failed: {e.message}"
    some (((s.report [line]).move i .idle).next (.announceLaunchFailure e))
  | .announceLaunchFailure e =>
    some ((s.emit (.launchFailed s.position.current e.message)).next (.giveUp .launchFailed))
  | .announceLaunch backend =>
    some ((s.emit (.launched s.position.current s.current.addr)).next (.enterLive backend))
  | .enterLive backend => some ((s.move s.position.current .live).next (.publish backend))
  | .publish backend => some (s.publish backend)
  | .announcePublication backend =>
    some ((s.emit (.published s.position.current s.current.addr)).next (.handOver backend))
  | .handOver backend => some (s.handOver backend)
  | .turn => some s.turn
  | .showPosition => some (({ s with shown := s.position } : Machine).next (.finish .rotated))
  | .giveUp outcome => some ((s.unlock s.position.current).next (.finish outcome))
  | .stop => some s.stop
  | .stopKill handle => some ((s.kill handle).next (.stopAwait handle))
  | .stopAwait handle =>
    (s.status? handle.backend).map fun _ =>
      (s.record (.confirmed handle)).next
        (.stopMove handle .draining [.terminating, .cleaning, .idle])
  | .stopMove handle phase later =>
    let s := s.move handle.slot phase
    match later with
    | [] => some (s.next (.stopUnlock handle))
    | p :: r => some (s.next (.stopMove handle p r))
  | .stopUnlock handle =>
    some (((s.unlock handle.slot).record (.unlocked handle)).next (.finish .stopped))
  | .finish outcome => some (s.finish outcome)

/-! ### A retirement -/

/-- Deletes an executable. -/
def delete (s : Machine) (path : String) : Option Files.Error × Machine :=
  match s.tree.removeFile path with
  | .ok tree => (none, { s with tree })
  | .error e => (some e, s)

/-- What is said and told about a deletion. -/
def announceDeletion (s : Machine) (i : Nat) (path : String) : Option Files.Error → Machine
  | none => (s.report [Log.info s!"Deleted {path}"]).emit (.deleted i)
  | some e =>
    (s.report [Log.error s!"Deleting {path} failed: {e.message}"]).emit (.deleteFailed i e.message)

/-- Carries out a statement of a retirement: the system afterwards, and the statement that
follows, if one does. There is no result while the backend still runs that is waited for. -/
def retire (s : Machine) (handle : Handle) : Retiring → Option (Machine × Option Retiring)
  | .enterDraining =>
    let line := Log.info s!"Draining slot {handle.slot}"
    some ((s.move handle.slot .draining).report [line], some .announceDraining)
  | .announceDraining => some (s.emit (.draining handle.slot), some .enterTerminating)
  | .enterTerminating => some (s.move handle.slot .terminating, some .kill)
  | .kill => some (s.kill handle, some .announceKill)
  | .announceKill => some (s.emit (.terminated handle.slot), some .await)
  | .await =>
    (s.status? handle.backend).map fun status =>
      let line := Log.info s!"Backend in slot {handle.slot} exited with {status.message}"
      ((s.record (.confirmed handle)).report [line], some (.announceExit status))
  | .announceExit status =>
    some (s.emit (.exited handle.slot status.code?), some .enterCleaning)
  | .enterCleaning => some (s.move handle.slot .cleaning, some .delete)
  | .delete =>
    let (failure, s) := s.delete (s.slot handle.slot).exePath
    some (s.record (.deleted handle), some (.announceDeletion failure))
  | .announceDeletion failure =>
    some (s.announceDeletion handle.slot (s.slot handle.slot).exePath failure, some .enterIdle)
  | .enterIdle => some (s.move handle.slot .idle, some .unlock)
  | .unlock => some ((s.unlock handle.slot).record (.unlocked handle), some .announceRelease)
  | .announceRelease => some (s.emit (.released handle.slot), none)

/-- Carries out the next statement of the retirement at a position of the list. -/
def retireAt (s : Machine) (i : Nat) : Option Machine := do
  let retirement ← s.retirements[i]?
  let (s, following) ← s.retire retirement.handle retirement.next
  match following with
  | some next => return { s with retirements := s.retirements.set i { retirement with next } }
  | none => return { s with retirements := s.retirements.eraseIdx i }

end Machine

/-! ### Moves -/

/-- What may happen next. -/
inductive Move where
  /-- A rotation takes the ring. -/
  | begin
  /-- A shutdown takes the ring. -/
  | beginStop
  /-- The task that has the ring carries out its next statement. -/
  | proceed (world : World)
  /-- The retirement at a position of the list carries out its next statement. -/
  | retire (i : Nat)
  /-- A process ends. -/
  | exit (backend : Nat) (status : ExitStatus)
  /-- The files are changed from outside. -/
  | change (tree : Files.Tree)

namespace Machine

/-- Gives the ring to a task, if no other task has it. -/
def take (s : Machine) (statement : Statement) : Option Machine :=
  if s.task.isNone then some (s.next statement) else none

/-- Ends a process that still runs. -/
def exit (s : Machine) (backend : Nat) (status : ExitStatus) : Option Machine := do
  let b ← s.backends[backend]?
  if b.status.isSome then none
  return s.onBackend backend fun b => { b with status := some status }

/-- The system after a move, if the move is possible. Every move takes some time. -/
def apply (s : Machine) (m : Move) : Option Machine :=
  let moved := match m with
    | .begin => s.take .scan
    | .beginStop => s.take .stop
    | .proceed world => s.task.bind (s.carryOut world)
    | .retire i => s.retireAt i
    | .exit backend status => s.exit backend status
    | .change tree => some { s with tree }
  moved.map fun t => { t with clock := t.clock + 1 }

/-- The system after a sequence of moves, if all are possible. -/
def run (s : Machine) : List Move → Option Machine
  | [] => some s
  | m :: r => (s.apply m).bind fun t => t.run r

end Machine

end LivePages.Ring
