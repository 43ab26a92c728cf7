import LivePages.Text.Percent

/-!
# Query escaping

Text as one component of a query string: a space becomes a plus sign, and every byte but those of
ASCII letters, digits and four marks is percent coded.

## Main definitions

* `Escape.query`, `Escape.unquery` — to a component and back.
-/

namespace LivePages.Escape

/-- The characters that stand for themselves in a query component. -/
def isQuerySafe (c : Char) : Bool :=
  Text.Percent.isAlphanumeric c || c = '-' || c = '_' || c = '.' || c = '~'

/-- How a character is written in a query component. -/
def queryPiece (c : Char) : List Char :=
  if c = ' ' then ['+'] else Text.Percent.encode isQuerySafe [c]

/-- The text as a query component. -/
def query (text : String) : String :=
  String.ofList (text.toList.flatMap queryPiece)

/-- The text of a query component. A percent sign without two digits after it stays. -/
def unquery (text : String) : String :=
  String.ofList (Text.Percent.decodeText (text.toList.map fun c => if c = '+' then ' ' else c))

end LivePages.Escape
