import LivePages.Text.Hex
import LivePages.Text.Utf8

/-!
# Percent coding

A byte written as a percent sign and two hexadecimal digits.

## Main definitions

* `Percent.encode` — the text with every byte coded, except those of the characters kept.
* `Percent.decode` — the bytes of a text with the coded ones decoded. A percent sign without two
  digits after it stands for itself.
-/

namespace LivePages.Text.Percent

/-- The coded form of a byte: two upper-case digits. -/
def code (b : UInt8) : List Char :=
  ['%', hexDigitUpper (b.toNat / 16), hexDigitUpper (b.toNat % 16)]

/-- ASCII letters and digits. -/
def isAlphanumeric (c : Char) : Bool :=
  c.toNat < 0x80 && c.isAlphanum

/-- Codes every character that `keep` does not keep. -/
def encode (keep : Char → Bool) (s : List Char) : List Char :=
  s.flatMap fun c => if keep c then [c] else (String.utf8EncodeChar c).flatMap code

/-- The value of a byte that is a hexadecimal digit. -/
def digit? (b : UInt8) : Option Nat :=
  hexValue? (Char.ofNat b.toNat)

/-- The bytes with every coded one decoded. -/
def decode : List UInt8 → List UInt8
  | [] => []
  | 0x25 :: a :: b :: r =>
    match digit? a, digit? b with
    | some x, some y => UInt8.ofNat (16 * x + y) :: decode r
    | _, _ => 0x25 :: decode (a :: b :: r)
  | b :: r => b :: decode r

/-- The text of a coded text: ill-formed bytes become U+FFFD. -/
def decodeText (s : List Char) : List Char :=
  Utf8.decodeLossy (decode (Utf8.encode s))

end LivePages.Text.Percent
