import LivePages.Net.Address
import LivePages.Net.Fault
import LivePages.Text.Split

/-!
# Endpoints

Where a connection goes to: a socket address, written as one or as a host name and a port.

## Main definitions

* `hostAddress?` — the address of a host.
* `endpoint` — the address that a text means.
-/

namespace LivePages.Net

/-- The port that digits spell; a plus sign may stand before them. -/
def portNumber? (text : List Char) : Option Nat :=
  let digits := match text with
    | '+' :: r => r
    | r => r
  if digits ≠ [] ∧ digits.all Char.isDigit then
    let n := digits.foldl (fun n c => n * 10 + (c.toNat - '0'.toNat)) 0
    if n < 0x10000 then some n else none
  else none

/-- Reads a number written with decimal digits, with octal ones behind a zero, or with hexadecimal
ones behind `0x`. -/
def anyNumber? (s : List Char) : Option (Nat × List Char) :=
  let hexadecimal (r : List Char) : Option (Nat × List Char) :=
    match Address.digits Text.hexValue? r with
    | ([], _) => some (0, s.drop 1)
    | (ds, rest) => some (ds.foldl (fun n d => 16 * n + d) 0, rest)
  match s with
  | '0' :: 'x' :: r | '0' :: 'X' :: r => hexadecimal r
  | '0' :: r =>
    let digits := r.takeWhile fun c => '0' ≤ c && c ≤ '7'
    some (digits.foldl (fun n c => 8 * n + (c.toNat - '0'.toNat)) 0, r.drop digits.length)
  | s =>
    match Address.digits Address.decimal? s with
    | ([], _) => none
    | (ds, rest) => some (ds.foldl (fun n d => 10 * n + d) 0, rest)

/-- The numbers of an address with points between them, at most four. -/
def numberParts? : (room : Nat) → List Char → Option (List Nat)
  | 0, _ => none
  | room + 1, s =>
    match anyNumber? s with
    | some (n, []) => some [n]
    | some (n, '.' :: r) => (numberParts? room r).map (n :: ·)
    | _ => none

/-- The bytes of an address of version 4 that may be written with fewer than four numbers: the last
one stands for all bytes that are left. -/
def looseBytes? (host : List Char) : Option (List Nat) := do
  let parts ← numberParts? 4 host
  let last ← parts.getLast?
  let first := parts.dropLast
  if first.any (0x100 ≤ ·) || Nat.pow 0x100 (4 - first.length) ≤ last then none
  let places := (List.range (4 - first.length)).reverse
  return first ++ places.map fun i => last / Nat.pow 0x100 i % 0x100

/-- The address of a host at a port. The only name known without asking anyone is that of the host
itself. -/
def hostAddress? (host : List Char) (port : Nat) : Option Address :=
  if host.map Char.toLower = "localhost".toList then some (.v4 [127, 0, 0, 1] port)
  else
    match looseBytes? host, Address.eightGroups host with
    | some bytes, _ => some (.v4 bytes port)
    | none, some (groups, []) => some (.v6 groups 0 port)
    | _, _ => none

/-- The address that a text means. -/
def endpoint (text : String) : Except Fault Address :=
  match Address.parse? text with
  | some address => .ok address
  | none =>
    match Text.splitLast? ':' text.toList with
    | none => .error .noPort
    | some (host, port) =>
      match portNumber? port with
      | none => .error .badPort
      | some port =>
        if host.contains '\x00' then .error .nulInHost
        else
          match hostAddress? host port with
          | some address => .ok address
          | none => .error .unknownHost

end LivePages.Net
