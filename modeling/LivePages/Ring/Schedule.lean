import LivePages.Ring.Machine

/-!
# Schedules

Moves in an order of their own choice: a rotation goes on until it has to wait, and then lets a
retirement go on that it waits for.

## Main definitions

* `Machine.rotate`, `Machine.shutDown` — a whole rotation, and a whole shutdown.
* `Machine.poll` — one cycle of watching the pages.
* `Machine.release` — the retirements of a slot up to their end.
* `Machine.settle` — all retirements up to their end.
-/

namespace LivePages.Ring

/-- How a backend ends that is told to. -/
def killedStatus : ExitStatus := .killed 9

namespace Machine

/-- A move, or nothing if it is not possible. -/
def applyOrStay (s : Machine) (m : Move) : Machine :=
  (s.apply m).getD s

/-- Lets the retirement at a position of the list go on by one statement. The backend that it waits
for has been told to end, and does so. -/
def urge (s : Machine) (i : Nat) : Machine :=
  match s.apply (.retire i) with
  | some t => t
  | none =>
    match s.retirements[i]? with
    | some r => s.applyOrStay (.exit r.handle.backend killedStatus)
    | none => s

/-- The most moves of a retirement: one for every statement, and the end of the backend. -/
def retirementMoves : Nat := 14

/-- The position in the list of the first retirement of a slot. -/
def retirementOf? (s : Machine) (slot : Nat) : Option Nat :=
  s.retirements.findIdx? fun r => r.handle.slot == slot

/-- Ends the process that was started last from a slot, if it still runs. -/
def exitOf (s : Machine) (slot : Nat) (status : ExitStatus) : Machine :=
  let ofSlot := (s.backends.zipIdx).filter fun b => b.1.slot == slot
  match ofSlot.getLast? with
  | some (_, backend) => s.applyOrStay (.exit backend status)
  | none => s

/-- Lets the first retirement of a slot go on by so many moves. -/
def urgeSlot (slot : Nat) : Nat → Machine → Machine
  | 0, s => s
  | n + 1, s =>
    match s.retirementOf? slot with
    | some i => urgeSlot slot n (s.urge i)
    | none => s

/-- Carries the retirements of a slot to their end. -/
def release (s : Machine) (slot : Nat) : Machine :=
  urgeSlot slot (retirementMoves * s.retirements.length) s

/-- Carries all retirements to their end. -/
def settle (s : Machine) : Machine :=
  s.retirements.foldl (fun s r => s.release r.handle.slot) s

/-- Goes on by one move with what the task that has the ring waits for. -/
def unblock (s : Machine) : Machine :=
  match s.task with
  | some (.acquire _ _) => s.release s.position.current
  | some (.awaitUnready backend _) => s.applyOrStay (.exit backend killedStatus)
  | some (.stopAwait handle) => s.applyOrStay (.exit handle.backend killedStatus)
  | _ => s

/-- Lets the task that has the ring go on by at most so many moves. -/
def proceed (world : World) : Nat → Machine → Machine
  | 0, s => s
  | n + 1, s =>
    if s.task.isNone then s
    else
      match s.apply (.proceed world) with
      | some t => proceed world n t
      | none => proceed world n s.unblock

/-- The most moves of a task that has the ring, besides those that generate pages. -/
def taskMoves : Nat := 64

/-- The number of pages that a rotation finds. -/
def pageCount (s : Machine) : Nat :=
  match Site.scan s.tree s.config.webRoot with
  | .ok found => found.pages.length
  | .error _ => 0

/-- A whole rotation. It stops half way only where it waits for somebody else's lock. -/
def rotate (s : Machine) (world : World) : Machine :=
  match s.apply .begin with
  | some s => proceed world (taskMoves + s.pageCount) s
  | none => s

/-- A whole rotation and, if it replaced a backend, all retirements up to their end. -/
def rotateAndSettle (s : Machine) (world : World) : Machine :=
  let s := s.rotate world
  match s.outcomes.getLast? with
  | some .rotated => s.settle
  | _ => s

/-- One cycle of those that go on for as long as the ring is watched. That a rotation could not even
find the pages is worth a warning and no more. -/
def poll (s : Machine) (world : World) : Machine :=
  let s := s.rotateAndSettle world
  match s.outcomes.getLast? with
  | some (.failed e) => s.report [Log.warn s!"Rotation step failed: {e.message}"]
  | _ => s

/-- A whole shutdown. -/
def shutDown (s : Machine) (world : World) : Machine :=
  match s.apply .beginStop with
  | some s => proceed world taskMoves s
  | none => s

end Machine

end LivePages.Ring
