import LivePages.Json.Value

/-!
# Events of a rotation

What the ring tells those who follow it.

## Main definitions

* `Event` — the events.
* `Event.toJson` — an event as a document.
-/

namespace LivePages.Ring

/-- What happens to a slot. -/
inductive Event where
  | buildStarted (slot : Nat)
  | buildFailed (slot : Nat) (reason : String)
  /-- Its backend has started and is ready. -/
  | launched (slot : Nat) (addr : String)
  | launchFailed (slot : Nat) (reason : String)
  /-- Its backend gets the requests from now on. -/
  | published (slot : Nat) (addr : String)
  /-- Its backend has been replaced and finishes the requests it has. -/
  | draining (slot : Nat)
  /-- Its backend has been told to end. -/
  | terminated (slot : Nat)
  /-- Its backend has ended, with a code unless a signal ended it. -/
  | exited (slot : Nat) (code : Option Nat)
  /-- Its executable is gone. -/
  | deleted (slot : Nat)
  | deleteFailed (slot : Nat) (reason : String)
  /-- It is free again. -/
  | released (slot : Nat)
  deriving DecidableEq, Repr

namespace Event

/-- The slot an event is about. -/
def slot : Event → Nat
  | buildStarted s | buildFailed s _ | launched s _ | launchFailed s _ | published s _
  | draining s | terminated s | exited s _ | deleted s | deleteFailed s _ | released s => s

/-- The name of an event. -/
def name : Event → String
  | buildStarted _ => "build_started"
  | buildFailed _ _ => "build_failed"
  | launched _ _ => "launched"
  | launchFailed _ _ => "launch_failed"
  | published _ _ => "published"
  | draining _ => "draining"
  | terminated _ => "terminated"
  | exited _ _ => "exited"
  | deleted _ => "deleted"
  | deleteFailed _ _ => "delete_failed"
  | released _ => "released"

/-- What an event tells beside its name and its slot. -/
def details : Event → List (String × Json.Value)
  | launched _ addr | published _ addr => [("addr", .text addr)]
  | buildFailed _ reason | launchFailed _ reason | deleteFailed _ reason =>
    [("error", .text reason)]
  | exited _ code => [("code", .ofOption .natural code)]
  | _ => []

/-- An event as a document. -/
def toJson (event : Event) : Json.Value :=
  .object ([("event", .text event.name), ("slot", .natural event.slot)] ++ event.details)

end Event

end LivePages.Ring
