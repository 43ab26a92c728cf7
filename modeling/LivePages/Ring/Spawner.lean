import LivePages.Command.Start
import LivePages.Ring.Machine

/-!
# Spawners

Ways to start a backend: as a process, and pretended ones for trying out a ring without processes.

## Main definitions

* `Spawner.process` — runs the executable with the address as its only argument.
* `Spawner.steady`, `Spawner.leaving`, `Spawner.signalled`, `Spawner.refusing` — the pretended
  ones.
-/

namespace LivePages.Ring.Spawner

/-- Runs the executable with the address as its only argument. -/
def process : Spawner := fun tree executable addr =>
  match Command.program tree none executable [addr] with
  | .ok _ => .ok none
  | .error fault => .error (.cannotStart executable fault)

/-- Starts what stays up. -/
def steady : Spawner := fun _ _ _ => .ok none

/-- Starts what leaves with a number during its warm-up. -/
def leaving (number : Nat) : Spawner := fun _ _ _ => .ok (some (.ofNumber number))

/-- The end of what sends itself a signal and has nothing else to do, unless the signal halts it. A
signal that does not exist is a mistake, for which it ends with the code 2. -/
def endBySignal? (signal : Nat) : Option ExitStatus :=
  if haltingSignals.contains signal then none
  else if unnoticedSignals.contains signal then some (.exited 0)
  else if signal ≤ signalCount then some (.killed signal)
  else some (.exited 2)

/-- Starts what sends itself a signal during its warm-up. -/
def signalled (signal : Nat) : Spawner := fun _ _ _ => .ok (endBySignal? signal)

/-- Starts nothing. -/
def refusing (reason : String) : Spawner := fun _ _ _ => .error (.reported reason)

end LivePages.Ring.Spawner
