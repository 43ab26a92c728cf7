import LivePages.Config.Basic
import LivePages.Log

/-!
# Slots

A place of the ring. It has an executable and an address for good, and a state that tells how far
the backend in it has come.

## Main definitions

* `Phase`, `Phase.allows` — the states of a slot, and the changes that belong to its life.
* `Slot`, `Slot.move` — a slot, and its change to another state.
* `Slot.ring` — the slots of a configuration.
-/

namespace LivePages.Ring

/-- How far the backend in a slot has come. -/
inductive Phase where
  /-- There is none. -/
  | idle
  /-- Its executable is being compiled. -/
  | building
  /-- Its process has been started and is not ready yet. -/
  | launching
  /-- It answers requests. -/
  | live
  /-- It has been replaced, and finishes the requests it has. -/
  | draining
  /-- It has been killed, and its end is awaited. -/
  | terminating
  /-- It has ended, and its executable is being deleted. -/
  | cleaning
  deriving DecidableEq, Repr

/-- The name of a phase in documents. -/
def Phase.name : Phase → String
  | .idle => "idle"
  | .building => "building"
  | .launching => "launching"
  | .live => "live"
  | .draining => "draining"
  | .terminating => "terminating"
  | .cleaning => "cleaning"

/-- The name of a phase in the log. -/
def Phase.title : Phase → String
  | .idle => "Idle"
  | .building => "Building"
  | .launching => "Launching"
  | .live => "Live"
  | .draining => "Draining"
  | .terminating => "Terminating"
  | .cleaning => "Cleaning"

/-- All phases, in the order of a backend's life. -/
def Phase.all : List Phase :=
  [.idle, .building, .launching, .live, .draining, .terminating, .cleaning]

/-- The phase with a name in documents. -/
def Phase.ofName? (name : String) : Option Phase :=
  Phase.all.find? fun p => p.name == name

/-- The second phase may follow the first. -/
def Phase.allows : Phase → Phase → Bool
  | .idle, .building | .idle, .launching => true
  | .building, .launching | .building, .idle => true
  | .launching, .live | .launching, .idle => true
  | .live, .draining => true
  | .draining, .terminating => true
  | .terminating, .cleaning => true
  | .cleaning, .idle => true
  | _, _ => false

/-- A place of the ring. -/
structure Slot where
  /-- Its position. -/
  index : Nat
  /-- The executable of its backends. -/
  exePath : String
  /-- The address of its backends. -/
  addr : String
  /-- How far its backend has come. -/
  phase : Phase := .idle
  /-- Somebody owns it: from before a build until the backend started from it is gone. -/
  locked : Bool := false
  deriving DecidableEq, Repr

/-- What is reported about a change: one that does not belong to a slot's life is made all the
same. -/
def Slot.moveLine (slot : Slot) (next : Phase) : Log.Line :=
  if slot.phase.allows next then
    Log.debug s!"Slot {slot.index}: {slot.phase.title} -> {next.title}"
  else
    Log.warn s!"Slot {slot.index}: unexpected transition {slot.phase.title} -> {next.title}"

/-- Changes the state. -/
def Slot.move (slot : Slot) (next : Phase) : Slot :=
  { slot with phase := next }

/-- Becomes the owner of a slot that has none. -/
def Slot.lock? (slot : Slot) : Option Slot :=
  if slot.locked then none else some { slot with locked := true }

/-- Gives a slot up. -/
def Slot.unlock (slot : Slot) : Slot :=
  { slot with locked := false }

/-- The executable of the slot at a position. -/
def executablePath (exeDir : String) (index : Nat) : String :=
  Files.Path.join exeDir s!"backend-{index}"

/-- One idle slot for every port. -/
def Slot.ring (config : Config) : List Slot :=
  config.backend.addrs.zipIdx.map fun p =>
    { index := p.2, exePath := executablePath config.exeDir p.2, addr := p.1 }

end LivePages.Ring
