import LivePages.Text.Percent
import LivePages.Text.Split

/-!
# Form data

Pairs of a name and a value in the form `name=value&name=value`, where a plus sign stands for a
space and other bytes may be percent coded.

## Main definitions

* `Form.pairs` — the pairs in order.
* `Form.value?` — the value of the first pair with a name.
-/

namespace LivePages.Text.Form

/-- The text of one name or value. -/
def decode (bytes : List UInt8) : String :=
  Utf8.toStringLossy (Percent.decode (bytes.map fun b => if b = 0x2B then 0x20 else b))

/-- The pair spelled by one piece; without an equals sign the value is empty. -/
def pair (piece : List UInt8) : String × String :=
  match splitFirst? 0x3D piece with
  | some (name, value) => (decode name, decode value)
  | none => (decode piece, "")

/-- The pairs of a form, in order. Empty pieces count for nothing. -/
def pairs (bytes : List UInt8) : List (String × String) :=
  ((splitOn 0x26 bytes).filter fun piece => !piece.isEmpty).map pair

/-- The value of the first pair with the given name. -/
def value? (bytes : List UInt8) (name : String) : Option String :=
  ((pairs bytes).find? fun p => p.1 == name).map (·.2)

end LivePages.Text.Form
