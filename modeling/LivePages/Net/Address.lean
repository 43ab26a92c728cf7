import LivePages.Text.Hex

/-!
# Socket addresses

An address of version 4 or 6 with a port, read from its text and written in its shortest form.

## Main definitions

* `Address` — the addresses.
* `Address.parse?` — reads one; the whole text has to be used.
* `Address.render` — writes one. In version 6 the first of the longest runs of zero groups is left
  out.
-/

namespace LivePages.Net

/-- A socket address. -/
inductive Address where
  /-- Four bytes and a port. -/
  | v4 (bytes : List Nat) (port : Nat)
  /-- Eight groups of sixteen bits, a scope and a port. -/
  | v6 (groups : List Nat) (scope : Nat) (port : Nat)
  deriving DecidableEq, Repr

namespace Address

/-- The port. -/
def portNumber : Address → Nat
  | .v4 _ port | .v6 _ _ port => port

/-- Reads a part of a text off its front. -/
abbrev Part (α : Type) : Type := List Char → Option (α × List Char)

/-- A given character. -/
def char (c : Char) : Part Unit
  | [] => none
  | d :: r => if d = c then some ((), r) else none

/-- The value of a decimal digit. -/
def decimal? (c : Char) : Option Nat :=
  if c.isDigit then some (c.toNat - 0x30) else none

/-- The digits that come next, with their values. -/
def digits (value? : Char → Option Nat) (s : List Char) : List Nat × List Char :=
  (s.takeWhile (fun c => (value? c).isSome) |>.filterMap value?,
    s.dropWhile fun c => (value? c).isSome)

/-- A number with at least one digit and at most `most`, below a bound. Zeros in front of it are
refused unless `zeros` holds. -/
def number (base : Nat) (value? : Char → Option Nat) (most : Option Nat) (zeros : Bool)
    (bound : Nat) : Part Nat := fun s =>
  let (ds, rest) := digits value? s
  let n := ds.foldl (fun n d => base * n + d) 0
  if ds.isEmpty || most.any (ds.length > ·) || (!zeros && ds.length > 1 && ds.head? == some 0)
      || bound ≤ n then none
  else some (n, rest)

/-- A byte of a version 4 address. -/
def byte : Part Nat :=
  number 10 decimal? (some 3) false 0x100

/-- The four bytes of a version 4 address. -/
def fourBytes : Part (List Nat) := fun s => do
  let (a, s) ← byte s
  let ((), s) ← char '.' s
  let (b, s) ← byte s
  let ((), s) ← char '.' s
  let (c, s) ← byte s
  let ((), s) ← char '.' s
  let (d, s) ← byte s
  return ([a, b, c, d], s)

/-- A colon and a port. -/
def port : Part Nat := fun s => do
  let ((), s) ← char ':' s
  number 10 decimal? none true 0x10000 s

/-- A group of a version 6 address. -/
def group : Part Nat :=
  number 16 Text.hexValue? (some 4) true 0x10000

/-- A part of an address, after a colon unless it comes first. -/
def separated {α : Type} (first : Bool) (part : Part α) : Part α := fun s =>
  if first then part s
  else match char ':' s with
    | some ((), s) => part s
    | none => none

/-- At most `room` groups, and whether the last two of them were written as four bytes. -/
def groups : (room : Nat) → (first : Bool) → List Char → List Nat × Bool × List Char
  | 0, _, s => ([], false, s)
  | room + 1, first, s =>
    match if 0 < room then separated first fourBytes s else none with
    | some ([a, b, c, d], s) => ([256 * a + b, 256 * c + d], true, s)
    | _ =>
      match separated first group s with
      | none => ([], false, s)
      | some (g, s) =>
        let (gs, embedded, s) := groups room false s
        (g :: gs, embedded, s)

/-- The eight groups of a version 6 address; two colons stand for the zero groups left out. -/
def eightGroups : Part (List Nat) := fun s =>
  let (head, embedded, s) := groups 8 true s
  if head.length = 8 then some (head, s)
  else if embedded then none
  else do
    let ((), s) ← char ':' s
    let ((), s) ← char ':' s
    let (tail, _, s) := groups (7 - head.length) true s
    return (head ++ List.replicate (8 - head.length - tail.length) 0 ++ tail, s)

/-- A percent sign and a scope, or nothing. -/
def scope : List Char → Nat × List Char := fun s =>
  let part : Option (Nat × List Char) := do
    let ((), s) ← char '%' s
    number 10 decimal? none true 0x100000000 s
  part.getD (0, s)

/-- An address of version 4. -/
def version4 : Part Address := fun s => do
  let (bytes, s) ← fourBytes s
  let (p, s) ← port s
  return (.v4 bytes p, s)

/-- An address of version 6. -/
def version6 : Part Address := fun s => do
  let ((), s) ← char '[' s
  let (gs, s) ← eightGroups s
  let (z, s) := scope s
  let ((), s) ← char ']' s
  let (p, s) ← port s
  return (.v6 gs z p, s)

/-- The address that a text spells. -/
def parse? (text : String) : Option Address :=
  match version4 text.toList <|> version6 text.toList with
  | some (address, []) => some address
  | _ => none

/-- The bytes with dots between them. -/
def renderBytes (bytes : List Nat) : String :=
  ".".intercalate (bytes.map toString)

/-- The groups with colons between them. -/
def renderGroups (groups : List Nat) : String :=
  ":".intercalate (groups.map fun g => String.ofList (Text.toHex g))

/-- The position and length of the first longest run of zeros. -/
def longestZeros (groups : List Nat) : Nat × Nat :=
  let run (start : Nat) : Nat := ((groups.drop start).takeWhile (· == 0)).length
  (List.range groups.length).foldl
    (fun best i => if run i > best.2 then (i, run i) else best) (0, 0)

/-- The text of the groups of a version 6 address. -/
def renderV6 (groups : List Nat) : String :=
  match groups with
  | [0, 0, 0, 0, 0, 0xFFFF, x, y] =>
    "::ffff:" ++ renderBytes [x / 256, x % 256, y / 256, y % 256]
  | _ =>
    let (start, length) := longestZeros groups
    if 1 < length then
      renderGroups (groups.take start) ++ "::" ++ renderGroups (groups.drop (start + length))
    else renderGroups groups

/-- The text of an address. -/
def render : Address → String
  | .v4 bytes port => s!"{renderBytes bytes}:{port}"
  | .v6 groups scope port =>
    let zone := if scope = 0 then "" else s!"%{scope}"
    s!"[{renderV6 groups}{zone}]:{port}"

end Address

end LivePages.Net
