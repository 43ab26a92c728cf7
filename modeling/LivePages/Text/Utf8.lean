/-!
# UTF-8

Bytes and characters. Reading goes through a machine that takes one byte at a time; it refuses a
byte at the first place where no character can be finished, so an ill-formed run is as long as
possible and no longer.

## Main definitions

* `Utf8.encode` — the bytes of a text.
* `Utf8.decode?` — the text, if the bytes are well formed.
* `Utf8.decodeLossy` — the text with U+FFFD for every ill-formed run.
-/

namespace LivePages.Text.Utf8

/-- The bytes of a text. -/
def encode (s : List Char) : List UInt8 :=
  s.flatMap String.utf8EncodeChar

/-- Where the reader stands between two bytes. -/
inductive State where
  /-- Between characters. -/
  | start
  /-- Inside a character: the bits so far, the bytes owed, and the range of the next byte. -/
  | inside (bits : Nat) (owed : Nat) (low high : UInt8)
  deriving DecidableEq, Repr

/-- What a byte does to the reader. -/
inductive Move where
  /-- The byte finishes a character. -/
  | finish (c : Char)
  /-- The byte belongs to a character that is not complete yet. -/
  | more (state : State)
  /-- The byte cannot stand here. -/
  | refuse
  deriving DecidableEq, Repr

/-- The move on the first byte of a character. -/
def lead (b : UInt8) : Move :=
  if b < 0x80 then .finish (Char.ofNat b.toNat)
  else if b < 0xC2 then .refuse
  else if b < 0xE0 then .more (.inside (b.toNat - 0xC0) 1 0x80 0xBF)
  else if b = 0xE0 then .more (.inside 0 2 0xA0 0xBF)
  else if b = 0xED then .more (.inside 13 2 0x80 0x9F)
  else if b < 0xF0 then .more (.inside (b.toNat - 0xE0) 2 0x80 0xBF)
  else if b = 0xF0 then .more (.inside 0 3 0x90 0xBF)
  else if b < 0xF4 then .more (.inside (b.toNat - 0xF0) 3 0x80 0xBF)
  else if b = 0xF4 then .more (.inside 4 3 0x80 0x8F)
  else .refuse

/-- The move on any byte. -/
def State.move : State → UInt8 → Move
  | .start, b => lead b
  | .inside bits owed low high, b =>
    if low ≤ b ∧ b ≤ high then
      let bits := bits * 64 + (b.toNat - 0x80)
      if owed ≤ 1 then .finish (Char.ofNat bits) else .more (.inside bits (owed - 1) 0x80 0xBF)
    else .refuse

/-- The character that stands for an ill-formed run. -/
def replacement : Char := '\uFFFD'

/-- Reads on from a state, with a replacement character for every ill-formed run. A byte that
cannot continue a character is looked at again as the first of one. -/
def lossyFrom : State → List UInt8 → List Char
  | .start, [] => []
  | .inside .., [] => [replacement]
  | state, b :: r =>
    match state.move b with
    | .finish c => c :: lossyFrom .start r
    | .more next => lossyFrom next r
    | .refuse =>
      match state with
      | .start => replacement :: lossyFrom .start r
      | .inside .. =>
        replacement ::
          match lead b with
          | .finish c => c :: lossyFrom .start r
          | .more next => lossyFrom next r
          | .refuse => replacement :: lossyFrom .start r

/-- The text, with U+FFFD for every ill-formed run of bytes. -/
def decodeLossy (bytes : List UInt8) : List Char :=
  lossyFrom .start bytes

/-- Reads on from a state, if the bytes are well formed. -/
def decodeFrom? : State → List UInt8 → Option (List Char)
  | .start, [] => some []
  | .inside .., [] => none
  | state, b :: r =>
    match state.move b with
    | .finish c => (decodeFrom? .start r).map (c :: ·)
    | .more next => decodeFrom? next r
    | .refuse => none

/-- The text, if the bytes are well formed. -/
def decode? (bytes : List UInt8) : Option (List Char) :=
  decodeFrom? .start bytes

/-- The bytes of a string. -/
def ofString (s : String) : List UInt8 :=
  encode s.toList

/-- The string of well-formed bytes. -/
def toString? (bytes : List UInt8) : Option String :=
  (decode? bytes).map String.ofList

/-- The string of any bytes, with U+FFFD for every ill-formed run. -/
def toStringLossy (bytes : List UInt8) : String :=
  String.ofList (decodeLossy bytes)

end LivePages.Text.Utf8
