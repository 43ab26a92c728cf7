import LivePages.Markdown.Link
import LivePages.Markdown.Sign

/-!
# Nodes

The parts of a whole text. Line ends, spaces and the marks of quotations are parts of it as well:
they tell whether a list is loose, and where lines of output end.

## Main definitions

* `Node` — a part of a whole text.
* `arranged` — the parts of one block in their final form.
* `isLoose` — blank lines stand between the items of a list or in one of them.
-/

namespace LivePages.Markdown

/-- A part of a block that is shown as it is written. -/
inductive Piece where
  | lineEnd (text : List Char)
  | chunk (text : List Char)
  deriving DecidableEq, Repr

/-- A part of a whole text. -/
inductive Node where
  /-- Spaces that separate nothing. -/
  | space
  /-- The mark of a quotation at the start of a line. -/
  | quoteMark
  | lineEnd (text : List Char)
  /-- The end of a blank line. -/
  | blankEnd (text : List Char)
  /-- Lines of text that have not been arranged. -/
  | lines (passage : Passage)
  /-- A line that makes a heading of the text above it, if there is any. -/
  | underline (level : Nat) (passage : Passage)
  | paragraph (passage : Passage)
  /-- A heading, the highest of level one. -/
  | heading (level : Nat) (passage : Passage)
  | definition (definition : Definition)
  /-- A line across. -/
  | rule
  /-- Program text between fences. What the last fence leaves open is not `closed`. -/
  | fenced (language : List Char) (closed : Bool) (pieces : List Piece)
  /-- Program text that is indented. -/
  | indented (pieces : List Piece)
  | html (pieces : List Piece)
  | quote (content : List Node)
  | item (marker : Marker) (content : List Node)
  /-- A list with the mark of its first item. -/
  | list (marker : Marker) (content : List Node)

namespace Node

/-- The node is what stands in front of a line. -/
def isMargin : Node → Bool
  | .space | .quoteMark => true
  | _ => false

/-- The node is the end of a line, or stands in front of one. -/
def isBetween : Node → Bool
  | .space | .quoteMark | .lineEnd _ | .blankEnd _ => true
  | _ => false

/-- The characters of a line end. -/
def endText : Node → List Char
  | .lineEnd s | .blankEnd s => s
  | _ => []

end Node

/-! ### Arranging -/

/-- Lines of text that follow one another become one passage. -/
def joinLines : List Node → List Node
  | [] => []
  | .lines p :: r =>
    match joinLines r with
    | .lineEnd e :: rest =>
      match rest.dropWhile Node.isMargin with
      | .lines q :: behind => .lines (p.append e q) :: behind
      | _ => .lines p :: .lineEnd e :: rest
    | rest => .lines p :: rest
  | n :: r => n :: joinLines r

/-- Text as the definitions at its start and a paragraph. -/
def Node.withDefinitions : Node → List Node
  | .lines p =>
    let (found, rest) := takeDefinitions p
    let definitions := found.flatMap fun d =>
      .definition d.1 :: if d.2.isEmpty then [] else [.lineEnd d.2]
    definitions ++ if rest.text.isEmpty then [] else [.paragraph rest]
  | n => [n]

/-- Lines below paragraphs make headings of them. Any other such line is text itself, and belongs
to the paragraph on the next line. The nodes arranged so far are given last one first. -/
def underlined (before : List Node) : List Node → List Node
  | [] => before.reverse
  | .underline level p :: r =>
    let isNear (n : Node) : Bool :=
      match n with
      | .space | .lineEnd _ | .quoteMark => true
      | _ => false
    match before.dropWhile isNear with
    | .paragraph text :: further => underlined (.heading level text :: further) r
    | _ =>
      match r with
      | .lineEnd e :: .paragraph q :: behind =>
        underlined (.paragraph (p.append e q) :: before) behind
      | r => underlined (.paragraph p :: before) r
  | n :: r => underlined (n :: before) r

/-- Items with the same sign that only blank lines separate make up a list. -/
def grouped : List Node → List Node
  | [] => []
  | .item m content :: r =>
    let rest := grouped r
    let between := rest.takeWhile Node.isBetween
    match rest.drop between.length with
    | .list n items :: behind =>
      if m.sign == n.sign then .list m (.item m content :: between ++ items) :: behind
      else .list m [.item m content] :: rest
    | _ => .list m [.item m content] :: rest
  | n :: r => n :: grouped r

/-- The nodes of one block in their final form. -/
def arranged (nodes : List Node) : List Node :=
  grouped (underlined [] ((joinLines nodes).flatMap Node.withDefinitions))

/-! ### Loose lists -/

/-- A blank line behind these nodes of an item, which are given last one first, does not make it
loose: nothing stands in front of it but the marks of items and quotations. -/
def isOnlyMarks (before : List Node) : Bool :=
  match before.dropWhile fun n => match n with | .space => true | _ => false with
  | [] => true
  | .quote content :: _ => match content.getLast? with | some .quoteMark => true | _ => false
  | _ => false

/-- Blank lines stand between the nodes of an item. Those before are given last one first. -/
def isLooseItem (before : List Node) : List Node → Bool
  | [] => false
  | .blankEnd e :: r => !isOnlyMarks before || isLooseItem (.blankEnd e :: before) r
  | n :: r => isLooseItem (n :: before) r

/-- Blank lines stand between the items of a list or in one of them. The node before is given. -/
def isLoose (before : Option Node) : List Node → Bool
  | [] => false
  | n :: r =>
    let here := match n, before with
      | .blankEnd _, some (.item _ content) => !isOnlyMarks content.reverse
      | .blankEnd _, _ => true
      | .item _ content, _ => isLooseItem [] content
      | _, _ => false
    here || isLoose (some n) r

/-! ### Definitions -/

mutual

/-- The definitions in a node. -/
def Node.definitions : Node → List Definition
  | .definition d => [d]
  | .quote content | .item _ content | .list _ content => definitionsOf content
  | _ => []

/-- The definitions in nodes, in their order. -/
def definitionsOf : List Node → List Definition
  | [] => []
  | n :: r => n.definitions ++ definitionsOf r

end

end LivePages.Markdown
