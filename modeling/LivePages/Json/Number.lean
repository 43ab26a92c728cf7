import LivePages.Json.Reader

/-!
# JSON numbers

A number without a fraction and an exponent is whole as long as it fits into 64 bits; any other
number is a double. A double is computed from its first digits, those that fit into 64 bits, and
one multiplication or division by a power of ten.

## Main definitions

* `Number` — the numbers.
* `Reader.number` — reads a number.
* `Reader.skipNumber` — goes past a number without computing it.
-/

namespace LivePages.Json

/-- A number. -/
inductive Number where
  | natural (value : Nat)
  /-- The negative of a positive number. -/
  | negative (value : Nat)
  | float (value : Float)

/-- The number as something unexpected. -/
def Number.unexpected : Number → Unexpected
  | .natural value => .natural value
  | .negative value => .negative value
  | .float value => .float value

/-- The byte is a decimal digit. -/
def isDigit (b : UInt8) : Bool :=
  0x30 ≤ b && b ≤ 0x39

/-- The value of a decimal digit. -/
def digitValue (b : UInt8) : Nat :=
  b.toNat - 0x30

/-- The numbers below this bound fit into 64 bits. -/
def wordBound : Nat := 0x10000000000000000

/-- The greatest exponent of ten that is multiplied with in one go. -/
def largestPower : Nat := 308

/-- A power of ten as a double. -/
def powerOfTen (k : Nat) : Float :=
  Float.ofScientific 1 false k

/-- `x · 10 ^ exponent`; `none` when it exceeds every double. A small exponent is worked off in
steps. -/
def scale? : Nat → Float → Int → Option Float
  | 0, x, _ => some x
  | fuel + 1, x, exponent =>
    if exponent.natAbs ≤ largestPower then
      if 0 ≤ exponent then
        let y := x * powerOfTen exponent.natAbs
        if y.isInf then none else some y
      else some (x / powerOfTen exponent.natAbs)
    else if x == 0 then some x
    else if 0 ≤ exponent then none
    else scale? fuel (x / powerOfTen largestPower) (exponent + largestPower)

namespace Reader

/-- The digits that come next. -/
def digits : Reader (List UInt8) :=
  fun s => .ok (s.takeWhile isDigit, s.dropWhile isDigit)

/-- The digits that come next, as long as the number they continue stays below the bound. -/
def boundedDigits (start : Nat) : Reader (Nat × Nat) :=
  fun s => go start 0 s
where
  /-- Takes one digit after the other; the second number counts them. -/
  go (n count : Nat) : List UInt8 → Except Failure ((Nat × Nat) × List UInt8)
    | [] => .ok ((n, count), [])
    | b :: r =>
      if isDigit b && 10 * n + digitValue b < wordBound then
        go (10 * n + digitValue b) (count + 1) r
      else .ok ((n, count), b :: r)

/-- The double with the given sign, digits and exponent. -/
def float (positive : Bool) (significand : Nat) (exponent : Int) : Reader Number := do
  match scale? (exponent.natAbs + 2) (UInt64.ofNat significand).toFloat exponent with
  | none => fail .numberOutOfRange
  | some x => pure (.float (if positive then x else -x))

/-- The number an exponent is read as; above the range of 32 bits it no longer matters how far. -/
def exponentBound : Nat := 0x80000000

/-- Reads an exponent, from its letter on. -/
def exponentPart (positive : Bool) (significand : Nat) (start : Int) : Reader Number := do
  skip
  let up ← do
    match ← peek with
    | some 0x2B => skip; pure true
    | some 0x2D => skip; pure false
    | _ => pure true
  match ← next with
  | none => fail .endInValue
  | some b =>
    if !isDigit b then fail .invalidNumber
    else
      let rest : List UInt8 ← fun s => .ok (s, s)
      let (fit, count) := grow (digitValue b) 0 rest
      if count = (rest.takeWhile isDigit).length then
        let _ ← digits
        float positive significand (if up then start + fit else start - fit)
      else
        -- the place of the failure is after the digit that is too much
        for _ in List.range (count + 1) do skip
        if significand ≠ 0 ∧ up then fail .numberOutOfRange
        else
          let _ ← digits
          pure (.float (if positive then 0.0 else -0.0))
where
  /-- The number that the digits continue, and how many of them keep it in range. -/
  grow (n count : Nat) : List UInt8 → Nat × Nat
    | [] => (n, count)
    | b :: r =>
      if isDigit b && 10 * n + digitValue b < exponentBound then
        grow (10 * n + digitValue b) (count + 1) r
      else (n, count)

/-- Reads an exponent if one comes next. -/
def optionalExponent (positive : Bool) (significand : Nat) (exponent : Int) : Reader Number := do
  match ← peek with
  | some 0x65 | some 0x45 => exponentPart positive significand exponent
  | _ => float positive significand exponent

/-- Reads a fraction, from the point on. -/
def fractionPart (positive : Bool) (significand : Nat) (start : Int) : Reader Number := do
  skip
  let (n, count) ← boundedDigits significand
  let more ← digits
  if count = 0 ∧ more.isEmpty then
    match ← peek with
    | some _ => failNext .invalidNumber
    | none => fail .endInValue
  else optionalExponent positive n (start - count)

/-- Reads what follows the whole part. -/
def numberRest (positive : Bool) (significand : Nat) : Reader Number := do
  match ← peek with
  | some 0x2E => fractionPart positive significand 0
  | some 0x65 | some 0x45 => exponentPart positive significand 0
  | _ =>
    if positive then pure (.natural significand)
    else if significand = 0 ∨ significand > 0x8000000000000000 then
      pure (.float (-(UInt64.ofNat significand).toFloat))
    else pure (.negative significand)

/-- Reads a number without its sign. -/
def number (positive : Bool) : Reader Number := do
  match ← next with
  | none => fail .endInValue
  | some 0x30 =>
    match ← peek with
    | some b => if isDigit b then failNext .invalidNumber else numberRest positive 0
    | none => numberRest positive 0
  | some b =>
    if !isDigit b then fail .invalidNumber
    else
      let (n, _) ← boundedDigits (digitValue b)
      match ← peek with
      | some d =>
        if !isDigit d then numberRest positive n
        else
          -- the digits that no longer fit count only as places
          let dropped ← digits
          match ← peek with
          | some 0x2E => fractionPart positive n dropped.length
          | some 0x65 | some 0x45 => exponentPart positive n dropped.length
          | _ => float positive n dropped.length
      | none => numberRest positive n

/-- Goes past an exponent, from its letter on. -/
def skipExponent : Reader Unit := do
  skip
  match ← peek with
  | some 0x2B | some 0x2D => skip
  | _ => pure ()
  match ← next with
  | some b => if isDigit b then let _ ← digits else fail .invalidNumber
  | none => fail .invalidNumber

/-- Goes past an exponent if one comes next. -/
def skipOptionalExponent : Reader Unit := do
  match ← peek with
  | some 0x65 | some 0x45 => skipExponent
  | _ => pure ()

/-- Goes past a number without its sign. -/
def skipNumber : Reader Unit := do
  match ← next with
  | some 0x30 =>
    match ← peek with
    | some b => if isDigit b then failNext .invalidNumber else pure ()
    | none => pure ()
  | some b => if isDigit b then let _ ← digits else fail .invalidNumber
  | none => fail .invalidNumber
  match ← peek with
  | some 0x2E =>
    skip
    if (← digits).isEmpty then failNext .invalidNumber else skipOptionalExponent
  | _ => skipOptionalExponent

end Reader

end LivePages.Json
