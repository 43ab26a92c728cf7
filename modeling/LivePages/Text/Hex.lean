/-!
# Hexadecimal numbers

Writing a number with hexadecimal digits, reading one back, and the character at a code point.

## Main definitions

* `hexDigit`, `hexDigitUpper` — the digit for a value below sixteen.
* `hexValue?` — the value of a digit of either case.
* `toHex` — the shortest lower-case spelling of a number.
* `upperHex4` — at least four upper-case digits.
* `readHex?` — a number with an optional plus sign before its digits.
* `scalar?` — the character at a code point.
-/

namespace LivePages.Text

/-- The lower-case digit for `n`; above fifteen it stays at `f`. -/
def hexDigit (n : Nat) : Char :=
  ("0123456789abcdef".toList[n]?).getD 'f'

/-- The upper-case digit for `n`; above fifteen it stays at `F`. -/
def hexDigitUpper (n : Nat) : Char :=
  ("0123456789ABCDEF".toList[n]?).getD 'F'

/-- The value of a hexadecimal digit of either case. -/
def hexValue? (c : Char) : Option Nat :=
  let n := c.toNat
  if 0x30 ≤ n ∧ n ≤ 0x39 then some (n - 0x30)
  else if 0x41 ≤ n ∧ n ≤ 0x46 then some (n - 0x41 + 10)
  else if 0x61 ≤ n ∧ n ≤ 0x66 then some (n - 0x61 + 10)
  else none

/-- The digits of `n`, lowest first, at most `fuel` of them. -/
def hexDigitsLow (digit : Nat → Char) : Nat → Nat → List Char
  | 0, _ => []
  | fuel + 1, n => digit (n % 16) :: if n / 16 = 0 then [] else hexDigitsLow digit fuel (n / 16)

/-- The shortest lower-case spelling of `n`. A number has fewer digits than its successor has
units, which bounds the recursion. -/
def toHex (n : Nat) : List Char :=
  (hexDigitsLow hexDigit (n + 1) n).reverse

/-- The upper-case spelling of `n`, filled up with zeros to four digits. -/
def upperHex4 (n : Nat) : List Char :=
  let ds := (hexDigitsLow hexDigitUpper (n + 1) n).reverse
  List.replicate (4 - ds.length) '0' ++ ds

/-- The number spelled by the digits, from left to right. -/
def hexNumber? : List Char → Option Nat
  | [] => none
  | ds => ds.foldlM (fun n c => (hexValue? c).map (16 * n + ·)) 0

/-- A number in hexadecimal digits; one plus sign may stand before them. -/
def readHex? : List Char → Option Nat
  | '+' :: ds => hexNumber? ds
  | ds => hexNumber? ds

/-- The character at code point `n`, if there is one. -/
def scalar? (n : Nat) : Option Char :=
  if h : n.isValidChar then some (Char.ofNatAux n h) else none

end LivePages.Text
