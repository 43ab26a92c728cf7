import LivePages.Markdown.Document
import LivePages.Markdown.Span
import LivePages.Text.Utf8

/-!
# Marked-up text as HTML

Blocks become elements, each on lines of its own. HTML in the text is shown as it is written, and an
address that could do more than lead somewhere is left out.

## Main definitions

* `renderInline` — a part of a text.
* `Sheet` — what has been written; `Sheet.putNode` writes a block.
* `toHtml` — a whole text.
-/

namespace LivePages.Markdown

/-- A character of a text in HTML, which has no NUL characters. -/
def htmlChar (c : Char) : List Char :=
  match c with
  | '&' => "&amp;".toList
  | '<' => "&lt;".toList
  | '>' => "&gt;".toList
  | '"' => "&quot;".toList
  | '\x00' => ['\uFFFD']
  | c => [c]

/-- Text in HTML. -/
def htmlText (s : List Char) : List Char :=
  s.flatMap htmlChar

/-! ### Addresses -/

/-- The characters that stand in an address as they are. -/
def isAddressChar (c : Char) : Bool :=
  c.isAlphanum || "!#$&'()*+,-./:;=?@_~".toList.contains c

/-- The bytes of a character as they stand in an address. -/
def percentBytes (c : Char) : List Char :=
  (String.utf8EncodeChar c).flatMap fun b =>
    ['%', Text.hexDigitUpper (b.toNat / 16), Text.hexDigitUpper (b.toNat % 16)]

/-- An address with other characters replaced by their bytes. -/
def encodedAddress : List Char → List Char
  | [] => []
  | '%' :: a :: b :: r =>
    if a.isAlphanum && b.isAlphanum then '%' :: a :: b :: encodedAddress r
    else percentBytes '%' ++ encodedAddress (a :: b :: r)
  | c :: r => (if isAddressChar c then [c] else percentBytes c) ++ encodedAddress r

/-- The kinds of address that a link may have. -/
def linkSchemes : List String :=
  ["http", "https", "irc", "ircs", "mailto", "xmpp"]

/-- The kinds of address that an image may have. -/
def imageSchemes : List String :=
  ["http", "https"]

/-- An address as it stands in an element. One that names a kind other than those given is left
out. -/
def safeAddress (schemes : List String) (address : List Char) : List Char :=
  let address := encodedAddress address
  let start := address.takeWhile fun c => !":/?#".toList.contains c
  let named := address[start.length]? == some ':'
  let scheme := String.ofList (start.map Char.toLower)
  if named && !schemes.contains scheme then [] else htmlText address

/-! ### Text -/

/-- An attribute, unless it is empty. -/
def optionalAttribute (name : String) (value : List Char) : List Char :=
  if value.isEmpty then [] else s!" {name}=\"".toList ++ htmlText value ++ ['"']

mutual

/-- The text without its elements. -/
def altText : Inline → List Char
  | .text s | .code s => htmlText s
  | .lineBreak => []
  | .emphasis content | .strong content | .link _ content | .image _ content => altTexts content

/-- The texts without their elements. -/
def altTexts : List Inline → List Char
  | [] => []
  | i :: r => altText i ++ altTexts r

end

mutual

/-- A part of a text as HTML. -/
def renderInline : Inline → List Char
  | .text s => htmlText s
  | .lineBreak => "<br />".toList
  | .code s => "<code>".toList ++ htmlText s ++ "</code>".toList
  | .emphasis content => "<em>".toList ++ renderInlines content ++ "</em>".toList
  | .strong content => "<strong>".toList ++ renderInlines content ++ "</strong>".toList
  | .link target content =>
    "<a href=\"".toList ++ safeAddress linkSchemes target.address ++ ['"'] ++
      optionalAttribute "title" target.title ++ ['>'] ++ renderInlines content ++ "</a>".toList
  | .image target content =>
    "<img src=\"".toList ++ safeAddress imageSchemes target.address ++ "\" alt=\"".toList ++
      altTexts content ++ ['"'] ++ optionalAttribute "title" target.title ++ " />".toList

/-- The parts of a text as HTML. -/
def renderInlines : List Inline → List Char
  | [] => []
  | i :: r => renderInline i ++ renderInlines r

end

/-! ### Sheets -/

/-- What has been written. -/
structure Sheet where
  /-- The characters, last one first. -/
  written : List Char := []
  /-- The next line end is left out. -/
  skipsEnd : Bool := false
  deriving DecidableEq, Repr

namespace Sheet

/-- The sheet with some characters more. -/
def put (sheet : Sheet) (s : List Char) : Sheet :=
  { sheet with written := s.reverse ++ sheet.written }

/-- The sheet with the end of a line, unless it is left out. -/
def putEnd (sheet : Sheet) (lineEnd : List Char) : Sheet :=
  if sheet.skipsEnd then { sheet with skipsEnd := false } else sheet.put lineEnd

/-- The sheet at the start of a line. -/
def atLineStart (sheet : Sheet) (lineEnd : List Char) : Sheet :=
  if sheet.written.head?.all isLineEnd then sheet else sheet.put lineEnd

/-- The sheet where the next line end is left out or is not. -/
def skipEnd (sheet : Sheet) (skips : Bool) : Sheet :=
  { sheet with skipsEnd := skips }

/-- The sheet with a piece of text that is shown as it is written. -/
def putPiece (sheet : Sheet) : Piece → Sheet
  | .lineEnd s => sheet.putEnd s
  | .chunk s => sheet.put (htmlText s)

end Sheet

/-! ### Blocks -/

/-- What all blocks of a text have in common. -/
structure Style where
  /-- The end of the lines that elements stand on. -/
  lineEnd : List Char
  /-- The targets under labels. -/
  definitions : List Definition

/-- What a block stands in. -/
structure Place where
  /-- A quotation or list. -/
  isInside : Bool
  /-- A list without blank lines. -/
  isTight : Bool

/-- Program text between fences. What the last fence leaves open ends with a line of its own. -/
def Sheet.putFenced (sheet : Sheet) (style : Style) (place : Place) (language : List Char)
    (closed : Bool) (pieces : List Piece) : Sheet :=
  let name := if language.isEmpty then [] else "language-".toList ++ language
  let opening := "<pre><code".toList ++ optionalAttribute "class" name ++ ['>']
  let sheet := ((sheet.atLineStart style.lineEnd).put opening).skipEnd true
  let inner := pieces.foldl Sheet.putPiece sheet
  let inner :=
    if !closed && place.isInside && !pieces.isEmpty then inner.put style.lineEnd else inner
  let hasChunk := pieces.any fun p => match p with | .chunk _ => true | .lineEnd _ => false
  let inner := if hasChunk then inner.atLineStart style.lineEnd else inner
  let sheet := inner.put "</code></pre>".toList
  (if closed then sheet else sheet.atLineStart style.lineEnd).skipEnd false

/-- Program text that is indented. -/
def Sheet.putIndented (sheet : Sheet) (style : Style) (pieces : List Piece) : Sheet :=
  let sheet := (sheet.atLineStart style.lineEnd).put "<pre><code>".toList
  let inner := pieces.foldl Sheet.putPiece sheet
  ((inner.atLineStart style.lineEnd).put "</code></pre>".toList).skipEnd false

/-- Text in an element of its own. -/
def Sheet.putText (sheet : Sheet) (style : Style) (name : String) (passage : Passage) : Sheet :=
  let inner := renderInlines (readInline style.definitions passage)
  ((sheet.atLineStart style.lineEnd).put s!"<{name}>".toList |>.put inner).put
    s!"</{name}>".toList

/-- The node shows nothing at the end of an item. -/
def isHidden : Node → Bool
  | .definition _ => true
  | n => n.isBetween

/-- The item ends on a line of its own: it is not empty, and its last block is not the bare text of
a tight list. -/
def endsOnLine (tight : Bool) (content : List Node) : Bool :=
  match content.reverse.dropWhile isHidden with
  | [] => false
  | .paragraph _ :: _ => !tight
  | _ => true

/-- The opening tag of a list. -/
def listTag (number : Option Nat) : String :=
  match number with
  | none => "<ul>"
  | some 1 => "<ol>"
  | some n => s!"<ol start=\"{n}\">"

mutual

/-- Writes a node. -/
def Sheet.putNode (sheet : Sheet) (style : Style) (place : Place) : Node → Sheet
  | .space | .quoteMark | .definition _ | .blankEnd _ => sheet
  | .lineEnd s => sheet.putEnd s
  | .lines passage | .underline _ passage | .paragraph passage =>
    if place.isTight then
      (sheet.put (renderInlines (readInline style.definitions passage))).skipEnd true
    else sheet.putText style "p" passage
  | .heading level passage => sheet.putText style s!"h{level}" passage
  | .rule => (sheet.atLineStart style.lineEnd).put "<hr />".toList
  | .fenced language closed pieces => sheet.putFenced style place language closed pieces
  | .indented pieces => sheet.putIndented style pieces
  | .html pieces => pieces.foldl Sheet.putPiece (sheet.atLineStart style.lineEnd)
  | .quote content =>
    let sheet := (sheet.atLineStart style.lineEnd).put "<blockquote>".toList
    let inner := sheet.putNodes style ⟨true, false⟩ content
    (inner.atLineStart style.lineEnd).put "</blockquote>".toList
  | .item _ content =>
    let sheet := (sheet.atLineStart style.lineEnd).put "<li>".toList
    let inner := (sheet.putNodes style place content).skipEnd false
    let inner :=
      if endsOnLine place.isTight content then inner.atLineStart style.lineEnd else inner
    inner.put "</li>".toList
  | .list marker content =>
    let sheet := (sheet.atLineStart style.lineEnd).put (listTag marker.number).toList
    let inner := sheet.putNodes style ⟨true, !isLoose none content⟩ content
    (inner.put style.lineEnd).put (if marker.number.isSome then "</ol>" else "</ul>").toList

/-- Writes nodes. The end of the line behind a definition is left out. -/
def Sheet.putNodes (sheet : Sheet) (style : Style) (place : Place) : List Node → Sheet
  | [] => sheet
  | .definition _ :: .lineEnd _ :: r => (sheet.skipEnd false).putNodes style place r
  | n :: r => (sheet.putNode style place n).putNodes style place r

end

/-! ### Whole texts -/

/-- A whole text as HTML, with lines that end as the first one does. If it ends in a blank line, so
does the last line. -/
def toHtml (text : String) : String :=
  let lines := sourceLines text.toList
  let first := (lines.head?.map (·.ending)).getD []
  let lineEnd := if first.isEmpty then ['\n'] else first
  let nodes := readNodes lines
  let sheet := Sheet.putNodes {} ⟨lineEnd, definitionsOf nodes⟩ ⟨false, false⟩ nodes
  let sheet := match nodes.getLast? with
    | some (.blankEnd _) => sheet.atLineStart lineEnd
    | _ => sheet
  String.ofList sheet.written.reverse

end LivePages.Markdown
