/-!
# Network faults

Why no connection comes about.

## Main definitions

* `Fault` — the causes.
* `Fault.message`, `Fault.kind` — their wording, and the name of their class.
-/

namespace LivePages.Net

/-- The causes of failure. -/
inductive Fault where
  /-- A text has no port. -/
  | noPort
  /-- What stands for the port is no port number. -/
  | badPort
  /-- A host name holds a NUL character. -/
  | nulInHost
  /-- A host name has no address. -/
  | unknownHost
  /-- There is no way to the host. -/
  | unreachable
  /-- Nobody listens at the address. -/
  | refused
  /-- Somebody listens at the address already. -/
  | addressInUse
  /-- The port is kept for the system. -/
  | reservedPort
  /-- The address is not one of this host. -/
  | foreignAddress
  deriving DecidableEq, Repr

/-- The wording of a fault, with the number of the system error where there is one. -/
def Fault.message : Fault → String
  | .noPort => "invalid socket address"
  | .badPort => "invalid port value"
  | .nulInHost => "file name contained an unexpected NUL byte"
  | .unknownHost => "failed to lookup address information: Temporary failure in name resolution"
  | .unreachable => "Network is unreachable (os error 101)"
  | .refused => "Connection refused (os error 111)"
  | .addressInUse => "Address already in use (os error 98)"
  | .reservedPort => "Permission denied (os error 13)"
  | .foreignAddress => "Cannot assign requested address (os error 99)"

/-- The name of the class of a fault. -/
def Fault.kind : Fault → String
  | .noPort | .badPort | .nulInHost => "InvalidInput"
  | .unknownHost => "Uncategorized"
  | .unreachable => "NetworkUnreachable"
  | .refused => "ConnectionRefused"
  | .addressInUse => "AddrInUse"
  | .reservedPort => "PermissionDenied"
  | .foreignAddress => "AddrNotAvailable"

end LivePages.Net
