import LivePages.Text.Blank
import LivePages.Text.Hex

/-!
# Script escaping

Text inside a quoted JavaScript string. What could end the string, the script or the line, or start
markup, is written as an escape.

## Main definitions

* `Escape.js` — the text inside the quotes.
-/

namespace LivePages.Escape

/-- The escape of a character by its code. -/
def codeEscape (c : Char) : List Char :=
  ['\\', 'u'] ++ Text.upperHex4 c.toNat

/-- How a character is written. -/
def jsPiece (c : Char) : List Char :=
  if c = '\\' ∨ c = '\'' ∨ c = '"' then ['\\', c]
  else if c = '<' ∨ c = '>' ∨ c = '&' ∨ c = '=' then codeEscape c
  else if c.toNat < 0x20 then codeEscape c
  else if c.toNat < 0x80 then [c]
  else if Text.isControl c || Text.isBlank c then codeEscape c
  else [c]

/-- The text inside the quotes of a string. -/
def js (text : String) : String :=
  String.ofList (text.toList.flatMap jsPiece)

end LivePages.Escape
