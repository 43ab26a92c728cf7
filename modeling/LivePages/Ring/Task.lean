import LivePages.Build.Product
import LivePages.Net.Network
import LivePages.Ring.Event
import LivePages.Ring.LiveAddress
import LivePages.Ring.Slot

/-!
# Tasks

The work on a ring goes on in tasks: at most one has the ring to itself, to rotate or to stop it,
and every replaced backend is retired by a task of its own. A task is described by the statement
that it is about to carry out. Between any two statements other tasks may carry out theirs.

## Main definitions

* `Backend`, `Handle` — a started process, and the possession of one together with its slot.
* `Statement` — the statements of the task that has the ring.
* `Retiring`, `Retirement` — the statements of a retirement, and a retirement.
* `Deed` — what is done to slots and processes, for the record.
-/

namespace LivePages.Ring

/-- A process started from a slot. -/
structure Backend where
  /-- The position of its slot. -/
  slot : Nat
  /-- It has been told to end. -/
  killed : Bool := false
  /-- How it ended, once it has. -/
  status : Option ExitStatus := none
  deriving DecidableEq, Repr

/-- The possession of a running backend and of the lock of its slot. -/
structure Handle where
  /-- The position of the slot. -/
  slot : Nat
  /-- The number of the backend. -/
  backend : Nat
  deriving DecidableEq, Repr

/-- How a task that had the ring ended. -/
inductive Outcome where
  /-- The live backend is up to date. -/
  | idle
  /-- A new backend was published. -/
  | rotated
  | buildFailed
  | launchFailed
  /-- The pages could not be found. -/
  | failed (error : Error)
  /-- The ring was stopped. -/
  | stopped

/-- The next statement of the task that has the ring. -/
inductive Statement where
  /-- Finds all pages. -/
  | scan
  /-- Compares the pages with what was built last. -/
  | check (pages : List Site.PageFile)
  /-- Waits for the lock of the current slot. -/
  | acquire (pages : List Site.PageFile) (stale : Bool)
  /-- Enters the state of a build. -/
  | enterBuilding (pages : List Site.PageFile)
  | announceBuild (pages : List Site.PageFile)
  /-- Makes the directory of the sources. -/
  | openSources (pages : List Site.PageFile)
  /-- Reads the next page and writes its source. -/
  | generate (waiting : List Site.Request) (done : Build.Generated)
  /-- Assembles the project. -/
  | assemble (done : Build.Generated)
  /-- Runs the toolchain. -/
  | compile (project : Build.Project)
  /-- Puts the executable to its place. -/
  | install (project : Build.Project) (built : String)
  /-- Gives up after a failed build. -/
  | leaveBuilding (error : Error)
  | announceBuildFailure (error : Error)
  /-- Enters the state of a launch. -/
  | enterLaunching
  /-- Starts a process. -/
  | start
  /-- Looks whether the process still runs after its warm-up. -/
  | examine (backend : Nat)
  /-- Waits until the backend answers. -/
  | probe (backend : Nat)
  /-- Tells a process to end that did not become a backend. -/
  | killUnready (backend : Nat) (error : Error)
  /-- Waits for its end. -/
  | awaitUnready (backend : Nat) (error : Error)
  /-- Gives up after a failed launch. -/
  | leaveLaunching (error : Error)
  | announceLaunchFailure (error : Error)
  | announceLaunch (backend : Nat)
  /-- Enters the state of a live backend. -/
  | enterLive (backend : Nat)
  /-- Publishes the address. -/
  | publish (backend : Nat)
  | announcePublication (backend : Nat)
  /-- Takes the place of the live backend, whose retirement begins. -/
  | handOver (backend : Nat)
  /-- Moves the ring on. -/
  | turn
  /-- Shows the new position. -/
  | showPosition
  /-- Gives the current slot up after a failure. -/
  | giveUp (outcome : Outcome)
  /-- Takes the live backend away. -/
  | stop
  /-- Tells it to end. -/
  | stopKill (handle : Handle)
  /-- Waits for its end. -/
  | stopAwait (handle : Handle)
  /-- Goes through the states of its end. -/
  | stopMove (handle : Handle) (next : Phase) (later : List Phase)
  /-- Gives its slot up. -/
  | stopUnlock (handle : Handle)
  /-- Gives the ring back. -/
  | finish (outcome : Outcome)

/-- The next statement of a retirement. -/
inductive Retiring where
  | enterDraining
  | announceDraining
  | enterTerminating
  /-- Tells the backend to end. -/
  | kill
  | announceKill
  /-- Waits for its end. -/
  | await
  | announceExit (status : ExitStatus)
  | enterCleaning
  /-- Deletes its executable. -/
  | delete
  | announceDeletion (failure : Option Files.Error)
  | enterIdle
  /-- Gives the slot up. -/
  | unlock
  | announceRelease
  deriving DecidableEq, Repr

/-- The retirement of a backend. -/
structure Retirement where
  /-- The backend and its slot. -/
  handle : Handle
  /-- What is done next. -/
  next : Retiring := .enterDraining
  deriving DecidableEq, Repr

/-- What is done to slots and processes. -/
inductive Deed where
  /-- The state of a slot was changed. -/
  | moved (slot : Nat) (before after : Phase)
  /-- A project was compiled for a slot from sources with such symbols. -/
  | compiled (slot : Nat) (symbols : List String)
  /-- The start of a process was tried. -/
  | tried (executable addr : String)
  /-- A backend was started from a slot. -/
  | started (handle : Handle)
  /-- A backend was published. -/
  | published (handle : Handle)
  /-- A backend was told to end. -/
  | killed (handle : Handle)
  /-- The end of a backend was seen. -/
  | confirmed (handle : Handle)
  /-- The deletion of the executable of a backend was tried. -/
  | deleted (handle : Handle)
  /-- The slot of a backend was given up. -/
  | unlocked (handle : Handle)
  deriving DecidableEq, Repr

end LivePages.Ring
