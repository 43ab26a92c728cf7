import LivePages.Error
import LivePages.Http.Message
import LivePages.Log
import LivePages.Net.Endpoint

/-!
# Networks

Who answers at which address.

## Main definitions

* `Peer`, `Network` — somebody who answers, and who does so where.
* `Network.isolated` — a network without any way to anybody.
* `Network.check`, `Network.waitReady` — the probe of a new backend.
* `listenFault?` — why an address cannot be listened on.
-/

namespace LivePages.Net

/-- Somebody who answers requests, and reports while doing so. -/
abbrev Peer : Type := Http.Request → Http.Response × List Log.Line

/-- Who answers at which address. -/
structure Network where
  /-- The peer at an address, which is written as a text. -/
  peer : String → Except Fault Peer

namespace Network

/-- A network without any way to anybody. -/
def isolated : Network where
  peer address := do
    let _ ← endpoint address
    throw .unreachable

/-- A network in which a peer answers everywhere. -/
def everywhere (peer : Peer) : Network where
  peer address := do
    let _ ← endpoint address
    return peer

/-- Tries to connect once. -/
def check (network : Network) (address : String) : Except Error Unit :=
  match network.peer address with
  | .ok _ => .ok ()
  | .error fault => .error (.transport (.cannotConnect address fault))

/-- Tries to connect until it succeeds or the time, in milliseconds, is over. Without a time there
is nothing to wait for. Whoever does not answer at first never does. -/
def waitReady (network : Network) (timeout : Option Nat) (address : String) : Except Error Unit :=
  match timeout with
  | none => .ok ()
  | some milliseconds =>
    match network.peer address with
    | .ok _ => .ok ()
    | .error _ => .error (.timeout milliseconds)

end Network

/-- An address of this host: one of its own network, or the one that stands for all. -/
def isLocal : Address → Bool
  | .v4 bytes _ => bytes.head? = some 127 || bytes.all (· = 0)
  | .v6 groups _ _ => groups.dropLast.all (· = 0) && groups.getLastD 0 ≤ 1

/-- The ports from one up to this bound are kept for the system. -/
def reservedBound : Nat := 1024

/-- Why an address cannot be listened on when some addresses are taken. -/
def listenFault? (taken : List Address) (text : String) : Option Fault :=
  match endpoint text with
  | .error fault => some fault
  | .ok address =>
    if 0 < address.portNumber && address.portNumber < reservedBound then some .reservedPort
    else if !isLocal address then some .foreignAddress
    else if taken.contains address then some .addressInUse
    else none

/-- Listens on an address. -/
def listen (taken : List Address) (text : String) : Except Error Unit :=
  match listenFault? taken text with
  | some fault => .error (.transport (.cannotBind text fault))
  | none => .ok ()

end LivePages.Net
