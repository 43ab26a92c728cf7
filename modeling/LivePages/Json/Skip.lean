import LivePages.Json.Number
import LivePages.Json.Text

/-!
# Skipping JSON values

Going past a value that nobody asked for. The value has to be well formed; how deeply it is nested
does not matter.

## Main definitions

* `Reader.skipValue` — goes past a value.
-/

namespace LivePages.Json

/-- What encloses a value. -/
inductive Enclosure where
  | list
  | object
  deriving DecidableEq

/-- The byte that ends an enclosure. -/
def Enclosure.close : Enclosure → UInt8
  | .list => 0x5D
  | .object => 0x7D

/-- The failure when neither a comma nor the end of an enclosure comes next. -/
def Enclosure.expected : Enclosure → Cause
  | .list => .expectedListCommaOrEnd
  | .object => .expectedObjectCommaOrEnd

/-- The failure when the text ends inside an enclosure. -/
def Enclosure.unfinished : Enclosure → Cause
  | .list => .endInList
  | .object => .endInObject

namespace Reader

/-- Goes past a key and its colon, from before the key. -/
def skipKey : Reader Unit := do
  match ← peekToken with
  | some 0x22 => skip
  | some _ => failNext .keyMustBeText
  | none => failNext .endInObject
  skipText
  match ← peekToken with
  | some 0x3A => skip
  | some _ => failNext .expectedColon
  | none => failNext .endInObject

/-- After a value, or after the start of an enclosure if `comma` does not hold: goes past the ends
of enclosures up to the place of the next value, and returns the enclosures around it. -/
def toNextValue : Nat → Bool → List Enclosure → Reader (List Enclosure)
  | _, _, [] => pure []
  | 0, _, _ => fail .expectedValue
  | fuel + 1, comma, e :: outer => do
    match ← peekToken with
    | none => failNext e.unfinished
    | some b =>
      if b = 0x2C ∧ comma then
        skip
        pure (e :: outer)
      else if b = e.close then
        skip
        toNextValue fuel true outer
      else if comma then failNext e.expected
      else pure (e :: outer)

/-- Goes past the value that comes next and what follows it inside the enclosures around it. -/
def skipWithin : Nat → List Enclosure → Reader Unit
  | 0, _ => fail .expectedValue
  | fuel + 1, around => do
    let opened : Option Enclosure ← do
      match ← peekToken with
      | none => failNext .endInValue
      | some 0x6E => skip; word "ull".toList; pure none
      | some 0x74 => skip; word "rue".toList; pure none
      | some 0x66 => skip; word "alse".toList; pure none
      | some 0x22 => skip; skipText; pure none
      | some 0x5B => skip; pure (some .list)
      | some 0x7B => skip; pure (some .object)
      | some 0x2D => skip; skipNumber; pure none
      | some b => if isDigit b then skipNumber; pure none else failNext .expectedValue
    let around := opened.toList ++ around
    let left : List UInt8 ← fun s => .ok (s, s)
    match ← toNextValue (left.length + 1) opened.isNone around with
    | [] => pure ()
    | .list :: outer => skipWithin fuel (.list :: outer)
    | .object :: outer =>
      skipKey
      skipWithin fuel (.object :: outer)

/-- Goes past a value. -/
def skipValue : Reader Unit :=
  fun s => skipWithin (s.length + 1) [] s

end Reader

end LivePages.Json
