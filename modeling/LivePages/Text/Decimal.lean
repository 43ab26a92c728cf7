/-!
# Decimal text of binary fractions

The fewest decimal digits that read back as a given double, and their positional spelling.

A finite double is `m · 2 ^ q`. The reals that round to it form an interval around it, closed iff
`m` is even. For one digit, two digits and so on up to seventeen, the two neighbours of the value
on the decimal grid of that many digits are tried; the first grid with a neighbour inside the
interval wins, and of two neighbours inside it the nearer one, the upper one on a tie.

## Main definitions

* `Decimal.shortest` — the digits and their exponent.
* `Decimal.positional` — the digits without an exponent.
* `Decimal.ofFloat` — the text of a double: no exponent, and no point without a fraction.
-/

namespace LivePages.Text.Decimal

/-- A finite positive binary fraction, with whether the gap below it is half the gap above. -/
structure Binary where
  /-- The significand. -/
  significand : Nat
  /-- The exponent of two. -/
  exponent : Int
  /-- The significand is the least of its binade. -/
  narrowBelow : Bool
  deriving Repr

/-- The value of the bits of a finite positive double. -/
def Binary.ofBits (bits : UInt64) : Binary :=
  let fraction : Nat := bits.toNat % 0x10000000000000
  let biased : Nat := bits.toNat / 0x10000000000000 % 0x800
  if biased = 0 then ⟨fraction, -1074, false⟩
  else ⟨fraction + 0x10000000000000, (biased : Int) - 1075, fraction = 0 && biased > 1⟩

/-- Decimal digits as one number, and the exponent of ten of its last digit. -/
structure Digits where
  /-- The digits. -/
  number : Nat
  /-- The exponent of the last digit. -/
  exponent : Int
  deriving Repr, DecidableEq

/-- `a · 2 ^ e` against `b · 10 ^ f`, both sides brought to whole numbers. -/
def scaled (a : Nat) (e : Int) (b : Nat) (f : Int) : Nat × Nat :=
  (a * Nat.pow 2 e.toNat * Nat.pow 10 (-f).toNat,
    b * Nat.pow 10 f.toNat * Nat.pow 2 (-e).toNat)

/-- The least `k` with `m · 2 ^ q < 10 ^ k`, searched upwards from a start below it. -/
def magnitudeFrom (m : Nat) (q : Int) : Nat → Int → Int
  | 0, k => k
  | fuel + 1, k =>
    let (a, b) := scaled m q 1 k
    if a < b then k else magnitudeFrom m q fuel (k + 1)

/-- The number of digits before the point, negative when zeros follow it. -/
def magnitude (v : Binary) : Int :=
  magnitudeFrom v.significand v.exponent 700 (-330)

/-- The best number of `n` digits inside the rounding interval, if there is one. -/
def ofLength? (v : Binary) (k : Int) (n : Nat) : Option Digits :=
  let f := k - n
  -- four times the value, and the ends of its interval, in quarters of the last binary place
  let m := 4 * v.significand
  let low := if v.narrowBelow then m - 1 else m - 2
  let high := m + 2
  let e := v.exponent - 2
  let closed := v.significand % 2 = 0
  let inside (d : Nat) : Bool :=
    let (l, x) := scaled low e d f
    let (h, y) := scaled high e d f
    if closed then l ≤ x && y ≤ h else l < x && y < h
  let (a, b) := scaled m e 1 f
  let down := a / b
  let up := down + 1
  match inside down, inside up with
  | true, true => some ⟨if 2 * (a % b) < b then down else up, f⟩
  | true, false => some ⟨down, f⟩
  | false, true => some ⟨up, f⟩
  | false, false => none

/-- The fewest digits that read back as the value. -/
def shortest (v : Binary) : Digits :=
  let k := magnitude v
  ((List.range 17).findSome? fun i => ofLength? v k (i + 1)).getD ⟨v.significand, v.exponent⟩

/-- The digits with a point where it belongs, and zeros up to it. -/
def positional (d : Digits) : String :=
  let text := toString d.number
  let trimmedText :=
    if d.exponent < 0 then
      let fractional := min (-d.exponent).toNat text.length
      let dropped := ((text.toList.reverse.take fractional).takeWhile (· == '0')).length
      (text.toList.take (text.length - dropped), d.exponent + dropped)
    else (text.toList, d.exponent)
  let (ds, e) := trimmedText
  if 0 ≤ e then String.ofList (ds ++ List.replicate e.toNat '0')
  else
    let places := (-e).toNat
    if places < ds.length then
      String.ofList (ds.take (ds.length - places) ++ '.' :: ds.drop (ds.length - places))
    else
      String.ofList ('0' :: '.' :: (List.replicate (places - ds.length) '0' ++ ds))

/-- The text of a double. -/
def ofFloat (x : Float) : String :=
  if x.isNaN then "NaN"
  else
    let bits := x.toBits
    let sign := if bits.toNat ≥ 0x8000000000000000 then "-" else ""
    let size := bits.toNat % 0x8000000000000000
    let body :=
      if size = 0 then "0"
      else if size ≥ 2047 * 0x10000000000000 then "inf"
      else positional (shortest (Binary.ofBits (UInt64.ofNat size)))
    sign ++ body

/-- The text of a double, with `.0` where there would be no fraction. -/
def ofFloatWithPoint (x : Float) : String :=
  let text := ofFloat x
  if x.isFinite && !text.toList.contains '.' then text ++ ".0" else text

end LivePages.Text.Decimal
