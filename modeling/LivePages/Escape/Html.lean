/-!
# HTML escaping

Text for element content and for attribute values.

## Main definitions

* `Escape.html` — element content: runs of spaces and line breaks stay visible.
* `Escape.value` — attribute values: blanks stay as they are.
-/

namespace LivePages.Escape

/-- The entities of the characters with a meaning in HTML. -/
def entity? (c : Char) : Option String :=
  if c = '"' then some "&#34;"
  else if c = '\'' then some "&#39;"
  else if c = '&' then some "&amp;"
  else if c = '<' then some "&lt;"
  else if c = '>' then some "&gt;"
  else none

/-- A space after this character would be dropped or joined with it. -/
def swallowsSpace (last : Char) : Bool :=
  last ≤ ' ' || last = '>'

/-- How a character is written in element content after the last character written. A space that
would be swallowed becomes a fixed one. -/
def htmlPiece (last c : Char) : List Char :=
  match entity? c with
  | some entity => entity.toList
  | none =>
    if c = '\n' then "<br/>".toList
    else if c = ' ' && swallowsSpace last then "&nbsp;".toList
    else [c]

/-- Element content after the last character written. -/
def htmlFrom (last : Char) : List Char → List Char
  | [] => []
  | c :: r =>
    let piece := htmlPiece last c
    piece ++ htmlFrom (piece.getLastD last) r

/-- The text as element content. -/
def html (text : String) : String :=
  String.ofList (htmlFrom '\x00' text.toList)

/-- How a character is written in an attribute value. -/
def quotedPiece (c : Char) : List Char :=
  match entity? c with
  | some entity => entity.toList
  | none => if c = '\x00' then ['\uFFFD'] else [c]

/-- The text as an attribute value. -/
def value (text : String) : String :=
  String.ofList (text.toList.flatMap quotedPiece)

end LivePages.Escape
