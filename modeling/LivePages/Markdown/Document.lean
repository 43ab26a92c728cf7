import LivePages.Markdown.Markup
import LivePages.Markdown.Node

/-!
# Documents

A whole text is read line by line. At any time some blocks are open: quotations and items one inside
the other, and in the innermost of them perhaps program text or HTML. A line first goes on with
those that it can go on with, may then begin others, and gives the rest of its text to the
innermost. The end of a line finds its place only with the next line, which tells what is still
open.

## Main definitions

* `SourceLine`, `sourceLines` — the lines of a text.
* `Frame`, `Leaf`, `Reader` — the open blocks.
* `Reader.addLine` — the reader after a line.
* `readNodes` — a whole text.
-/

namespace LivePages.Markdown

/-- A line as it is written. -/
structure SourceLine where
  /-- Its characters. -/
  text : List Char
  /-- The characters that end it; the last line may have none. -/
  ending : List Char
  deriving DecidableEq, Repr

/-- The lines of a text. An empty last one does not count. -/
def sourceLines : List Char → List SourceLine
  | [] => []
  | '\r' :: '\n' :: r => ⟨[], ['\r', '\n']⟩ :: sourceLines r
  | c :: r =>
    if isLineEnd c then ⟨[], [c]⟩ :: sourceLines r
    else match sourceLines r with
      | [] => [⟨[c], []⟩]
      | l :: lines => { l with text := c :: l.text } :: lines

/-- All characters of a line. -/
def SourceLine.whole (source : SourceLine) : List Char :=
  source.text ++ source.ending

/-- The lines of a text make up the text. -/
theorem flatMap_whole_sourceLines (s : List Char) :
    (sourceLines s).flatMap SourceLine.whole = s := by
  fun_induction sourceLines s with
  | case1 => rfl
  | case2 r ih => simp [SourceLine.whole, ih]
  | case3 c r _ h ih => simp [SourceLine.whole, ih]
  | case4 c r _ h e ih => simp_all [SourceLine.whole]
  | case5 c r _ h l lines e ih => simp_all [SourceLine.whole]

/-- The mark that a text in Unicode may start with. -/
def byteOrderMark : Char := '\uFEFF'

/-- A line as it is read. The mark that it may start with counts as its three bytes. -/
def SourceLine.start (source : SourceLine) (isFirst : Bool) : Line :=
  match source.text with
  | [] => { text := [] }
  | c :: r =>
    if isFirst && c == byteOrderMark then { column := 3, text := r } else { text := c :: r }

/-- The node that the end of a line becomes. -/
def SourceLine.endNode? (source : SourceLine) (isBlank : Bool) : Option Node :=
  if source.ending.isEmpty then none
  else if isBlank then some (.blankEnd source.ending)
  else some (.lineEnd source.ending)

/-- The rest of a line as a passage. -/
def SourceLine.passage (source : SourceLine) (line : Line) : Passage :=
  Passage.ofLine (source.text.take (source.text.length - line.bare.length)) line.bare

/-- The piece that the rest of a line becomes, unless nothing is left. -/
def chunks (text : List Char) : List Piece :=
  if text.isEmpty then [] else [.chunk text]

/-! ### Open blocks -/

/-- What kind of block holds others. -/
inductive Holder where
  | quote
  /-- An item whose blocks are indented so far, and whether nothing but its mark has been read. -/
  | item (marker : Marker) (indent : Nat) (isEmpty : Bool)
  deriving DecidableEq, Repr

/-- An open block that holds others. -/
structure Frame where
  /-- Its kind. -/
  holder : Holder
  /-- What has been read of it, last one first. -/
  nodes : List Node

/-- The node that an open block becomes. -/
def Frame.complete (f : Frame) : Node :=
  let content := arranged f.nodes.reverse
  match f.holder with
  | .quote => .quote content
  | .item marker _ _ => .item marker content

/-- An open block whose lines are shown as they are written. Its pieces come last one first. -/
inductive Leaf where
  | none
  /-- Program text between fences. -/
  | fenced (fence : Fence) (pieces : List Piece)
  /-- Program text that is indented, and the blank lines behind it, last one first. -/
  | indented (pieces : List Piece) (blanks : List Node)
  | html (kind : HtmlKind) (pieces : List Piece)

/-- No other block begins inside the open one. -/
def Leaf.isClosedToBlocks : Leaf → Bool
  | .fenced _ _ | .html _ _ => true
  | _ => false

/-- What has been read. -/
structure Reader where
  /-- The open blocks that hold others, innermost first. -/
  frames : List Frame := []
  /-- What has been read outside of them, last one first. -/
  nodes : List Node := []
  /-- The open block that is shown as it is written. -/
  leaf : Leaf := .none
  /-- The end of the line read last. -/
  ending : Option Node := none
  /-- The next line is in the middle of a paragraph. -/
  inParagraph : Bool := false
  /-- The line read last was text, or made a heading of it. -/
  followsText : Bool := false
  /-- The line read last did not go on with all open blocks. -/
  isLazy : Bool := false

namespace Reader

/-- Adds a node to the innermost open block. -/
def place (s : Reader) (node : Node) : Reader :=
  match s.frames with
  | [] => { s with nodes := node :: s.nodes }
  | f :: r => { s with frames := { f with nodes := node :: f.nodes } :: r }

/-- Adds nodes to the innermost open block. -/
def placeAll (s : Reader) (nodes : List Node) : Reader :=
  nodes.foldl place s

/-- Adds the end of the line read last to the innermost open block. -/
def placeEnding (s : Reader) : Reader :=
  { s with ending := none }.placeAll s.ending.toList

/-- Some pieces, last one first, with the end of the line read last. -/
def withEnding (s : Reader) (pieces : List Piece) : List Piece :=
  (s.ending.map fun e => Piece.lineEnd e.endText).toList ++ pieces

/-- Completes the block that is shown as it is written. The end of the line read last may belong to
it. -/
def endLeaf (s : Reader) (takesEnding : Bool) : Reader :=
  let t := { s with leaf := .none }
  match s.leaf with
  | .none => s
  | .fenced fence pieces =>
    if takesEnding then
      { t with ending := none }.place (.fenced fence.language false (s.withEnding pieces).reverse)
    else t.place (.fenced fence.language false pieces.reverse)
  | .indented pieces blanks => (t.place (.indented pieces.reverse)).placeAll blanks.reverse
  | .html kind pieces =>
    if takesEnding && !kind.endsAtBlank then
      { t with ending := none }.place (.html (s.withEnding pieces).reverse)
    else t.place (.html pieces.reverse)

/-- Completes the block that is shown as it is written at the end of the text, or before a block
that is not inside it. -/
def flush (s : Reader) : Reader :=
  s.endLeaf !s.isLazy

/-- Completes the innermost open block that holds others. -/
def closeFrame (s : Reader) : Reader :=
  match s.frames with
  | [] => s
  | f :: r => { s with frames := r }.place f.complete

/-- Completes open blocks until so many that hold others are left. -/
def closeTo (s : Reader) (kept : Nat) : Reader :=
  let t := (List.range (s.frames.length - kept)).foldl (fun s _ => s.closeFrame) s
  { t with inParagraph := false }

end Reader

/-! ### Going on -/

/-- A node for spaces, if there are any. -/
def spaceNodes (isSpaced : Bool) : List Node :=
  if isSpaced then [.space] else []

/-- The mark of a quotation at the start of a line: the nodes it is made of, and the rest. -/
def quoteMark? (line : Line) : Option (List Node × Line) :=
  if line.indent < codeIndent && line.content.head? == some '>' then
    some (spaceNodes (0 < line.indent) ++ [.quoteMark], (line.skip 1).drop 1)
  else none

/-- The block has been followed by a line. -/
def Holder.seen (holder : Holder) (line : Line) : Holder :=
  match holder with
  | .quote => .quote
  | .item marker indent isEmpty => .item marker indent (isEmpty && line.isBlank)

/-- What a line that goes on with a block has in front, and the rest of it. -/
def Holder.continue? (holder : Holder) (line : Line) : Option (List Node × Line) :=
  match holder with
  | .quote => quoteMark? line
  | .item _ indent isEmpty =>
    let goesOn := if line.isBlank then !isEmpty else decide (indent ≤ line.indent)
    let rest := line.drop indent
    if goesOn then some (spaceNodes (rest.column != line.column), rest) else none

/-- A line after what it goes on with. -/
structure Continued where
  /-- The open blocks, outermost first. -/
  frames : List Frame
  /-- How many of them the line goes on with. -/
  kept : Nat
  /-- What stands in front of the rest. -/
  margin : List Node
  /-- The rest of the line. -/
  line : Line

/-- Goes on with open blocks, which are given outermost first. -/
def continueFrames : List Frame → Line → Continued
  | [], line => ⟨[], 0, [], line⟩
  | f :: inner, line =>
    let f := { f with holder := f.holder.seen line }
    match f.holder.continue? line with
    | none => ⟨f :: inner, 0, [], line⟩
    | some (margin, rest) =>
      let c := continueFrames inner rest
      ⟨f :: c.frames, c.kept + 1, margin ++ c.margin, c.line⟩

/-! ### Beginning blocks that hold others -/

/-- A reader in the middle of a line. -/
structure Cursor where
  /-- The line as it is written. -/
  source : SourceLine
  /-- The reader. -/
  reader : Reader
  /-- How many open blocks the line goes on with. -/
  kept : Nat
  /-- What stands in front of the rest and has not been placed. -/
  margin : List Node
  /-- The rest of the line. -/
  line : Line
  /-- A block has begun on the line. -/
  isPierced : Bool := false

/-- An item at the start of a line: the block, and the rest of the line. -/
def openItem? (inParagraph : Bool) (line : Line) : Option (Holder × Line) :=
  if codeIndent ≤ line.indent then none
  else do
    let marker ← marker? inParagraph line.content
    let behind := line.skip marker.width
    if behind.isBlank then
      return (.item marker (line.sizeBefore behind + 1) true, behind)
    else
      let rest := behind.drop (if behind.indent ≤ codeIndent then behind.indent else 1)
      return (.item marker (line.sizeBefore rest) false, rest)

/-- A block that holds others at the start of a line, what it starts with, and the rest of the
line. -/
def openBlock? (inParagraph : Bool) (line : Line) : Option (Frame × Line) :=
  match quoteMark? line with
  | some (mark, rest) => some (⟨.quote, mark.reverse⟩, rest)
  | none => (openItem? inParagraph line).map fun p => (⟨p.1, []⟩, p.2)

namespace Cursor

/-- The line goes on with all open blocks. -/
def isWhole (c : Cursor) : Bool :=
  c.kept == c.reader.frames.length

/-- The reader with what comes before the rest of the line. -/
def placed (c : Cursor) : Reader :=
  c.reader.placeEnding.placeAll c.margin

/-- Opens a block that holds others. -/
def enter (c : Cursor) (frame : Frame) (line : Line) : Cursor :=
  let reader :=
    if c.isWhole then c.reader.endLeaf false else c.reader.flush.closeTo c.kept
  let t := { c with reader }.placed
  { source := c.source, reader := { t with frames := frame :: t.frames }
    kept := t.frames.length + 1, margin := [], line, isPierced := true }

/-- Opens the blocks that hold others at the rest of a line. The bound is the number of
characters. -/
def enterAll : Nat → Cursor → Cursor
  | 0, c => c
  | fuel + 1, c =>
    if c.isWhole && c.reader.leaf.isClosedToBlocks then c
    else
      match openBlock? (c.isWhole && c.reader.inParagraph) c.line with
      | some (frame, line) => enterAll fuel (c.enter frame line)
      | none => c

/-! ### Beginning other blocks -/

/-- What the rest of a line begins. -/
inductive Begun where
  | blank
  /-- A block of one line. -/
  | single (node : Node)
  | text (passage : Passage)
  /-- A line that makes a heading of the text above it. -/
  | underline (level : Nat) (passage : Passage)
  /-- A block that is shown as it is written. -/
  | leaf (leaf : Leaf)

/-- HTML that begins at the rest of a line. -/
def beginHtml (kind : HtmlKind) (line : Line) : Begun :=
  let pieces := chunks line.bare
  if kind.isEndedBy line.bare then .single (.html pieces) else .leaf (.html kind pieces)

/-- What the rest of a line begins. -/
def begun (c : Cursor) : Begun :=
  let line := c.line
  let text := line.content
  let s := c.reader
  let isLazy := !c.isWhole
  let passage := c.source.passage line
  if line.isBlank then .blank
  else if codeIndent ≤ line.indent then
    if s.inParagraph then .text passage
    else
      let pieces := chunks (line.drop codeIndent).shown
      if isLazy || c.isPierced then .single (.indented pieces) else .leaf (.indented pieces [])
  else
    match fence? (line.sizeBefore line.start) text, htmlSign (s.inParagraph && !isLazy) text,
      heading? text, underline? text with
    | some fence, _, _, _ => .leaf (.fenced fence [])
    | none, .block kind, _, _ => beginHtml kind line
    | none, _, some (level, lead, title), _ =>
      let margin := c.source.text.take (c.source.text.length - text.length) ++ lead
      .single (.heading level (Passage.ofLine margin title))
    | none, _, none, some level =>
      if !isLazy && !c.isPierced && s.followsText then .underline level passage
      else if isRule text then .single .rule
      else .text passage
    | none, _, none, none => if isRule text then .single .rule else .text passage

/-- It is certain that the rest of a line begins no other block than text. What a line begins whose
end has not been reached may depend on more characters. -/
def isCertainText (c : Cursor) : Bool :=
  let text := c.line.content
  let mayChange := isPartOfFence text || isMarksOnly text || htmlSign false text == .unknown
  !c.source.ending.isEmpty || codeIndent ≤ c.line.indent || !mayChange

/-- The reader after a line that goes on with no block that is shown as it is written. Text goes on
with a paragraph even if the line does not go on with its quotation or item. -/
def finish (c : Cursor) : Reader :=
  let begun := c.begun
  let isText := match begun with | .text _ => true | _ => false
  let isAccepted := c.isWhole || isText && c.reader.followsText && c.isCertainText
  let s := if isAccepted then c.reader else c.reader.closeTo c.kept
  let t := { c with reader := { s with inParagraph := false, followsText := false } }.placed
  let u := { t with ending := c.source.endNode? false }
  match begun with
  | .blank =>
    { t with ending := c.source.endNode? true }.placeAll (spaceNodes !c.line.text.isEmpty)
  | .single node => u.place node
  | .text passage =>
    { u with inParagraph := isAccepted, followsText := true }.place (.lines passage)
  | .underline level passage => { u with followsText := true }.place (.underline level passage)
  | .leaf leaf => { u with leaf }

/-! ### Going on with a block that is shown as it is written -/

/-- The reader after a line of HTML. -/
def continueHtml (c : Cursor) (kind : HtmlKind) (pieces : List Piece) : Reader :=
  let pieces := chunks c.line.bare ++ c.reader.withEnding pieces
  let t := { c.reader with ending := c.source.endNode? false }
  if kind.isEndedBy c.line.bare then { t with leaf := .none }.place (.html pieces.reverse)
  else { t with leaf := .html kind pieces }

/-- The reader after a line of program text between fences. -/
def continueFenced (c : Cursor) (fence : Fence) (pieces : List Piece) : Reader :=
  let pieces := c.reader.withEnding pieces
  let t := { c.reader with ending := c.source.endNode? false }
  if c.line.indent < codeIndent && fence.isClosedBy c.line.content then
    { t with leaf := .none }.place (.fenced fence.language true pieces.reverse)
  else
    { t with leaf := .fenced fence (chunks (c.line.drop fence.indent).shown ++ pieces) }

/-- The reader after a line of program text that is indented, or after a blank line behind it. -/
def continueIndented? (c : Cursor) (pieces : List Piece) (blanks : List Node) : Option Reader :=
  if codeIndent ≤ c.line.indent then
    let ends := blanks.filterMap fun n =>
      if n.endText.isEmpty then none else some (Piece.lineEnd n.endText)
    let pieces := c.reader.withEnding (ends ++ pieces)
    some { c.reader with
      ending := c.source.endNode? false
      leaf := .indented (chunks (c.line.drop codeIndent).shown ++ pieces) [] }
  else if c.line.isBlank && !c.source.ending.isEmpty then
    let here := c.reader.ending.toList ++ c.margin ++ spaceNodes !c.line.text.isEmpty
    some { c.reader with
      ending := c.source.endNode? true
      leaf := .indented pieces (here.reverse ++ blanks) }
  else none

/-- The reader after a line that goes on with the block that is shown as it is written. -/
def continueLeaf? (c : Cursor) : Option Reader :=
  if !c.isWhole then none
  else
    match c.reader.leaf with
    | .none => none
    | .fenced fence pieces => some (c.continueFenced fence pieces)
    | .indented pieces blanks => c.continueIndented? pieces blanks
    | .html kind pieces =>
      if kind.endsAtBlank && c.line.isBlank then none else some (c.continueHtml kind pieces)

end Cursor

/-! ### Whole texts -/

namespace Reader

/-- The reader after a line. -/
def addLine (s : Reader) (source : SourceLine) (isFirst : Bool) : Reader :=
  let continued := continueFrames s.frames.reverse (source.start isFirst)
  let s := { s with frames := continued.frames.reverse }
  let c : Cursor :=
    { source, reader := s, kept := continued.kept, margin := continued.margin
      line := continued.line }
  let c := c.enterAll (source.text.length + 1)
  let after := c.continueLeaf?.getD ({ c with reader := c.reader.endLeaf false }.finish)
  { after with isLazy := !c.isWhole }

/-- The reader after some lines. -/
def addLines (s : Reader) (isFirst : Bool) : List SourceLine → Reader
  | [] => s
  | source :: r => (s.addLine source isFirst).addLines false r

/-- What has been read once the text ends. -/
def complete (s : Reader) : List Node :=
  arranged (s.flush.closeTo 0).placeEnding.nodes.reverse

end Reader

/-- Reads a whole text. -/
def readNodes (lines : List SourceLine) : List Node :=
  (({} : Reader).addLines true lines).complete

end LivePages.Markdown
