/-!
# The live address

The address of the backend that answers requests at the moment. It is published by one and read by
many; a watcher learns whether something was published since it looked last.

## Main definitions

* `LiveAddress` — the address, and how often one was published.
* `Watcher` — what a watcher has seen.
-/

namespace LivePages.Ring

/-- The published address. -/
structure LiveAddress where
  /-- The address, once one was published. -/
  current : Option String := none
  /-- How often an address was published. -/
  version : Nat := 0
  deriving DecidableEq, Repr

/-- Makes an address the current one. -/
def LiveAddress.publish (live : LiveAddress) (addr : String) : LiveAddress :=
  ⟨some addr, live.version + 1⟩

/-- How much of the publishing a watcher has seen. -/
structure Watcher where
  /-- The version it saw last. -/
  seen : Nat
  deriving DecidableEq, Repr

/-- A watcher that has seen all there is. -/
def LiveAddress.watch (live : LiveAddress) : Watcher :=
  ⟨live.version⟩

/-- Whether something was published since the watcher looked last. -/
def Watcher.isBehind (watcher : Watcher) (live : LiveAddress) : Bool :=
  watcher.seen != live.version

end LivePages.Ring
