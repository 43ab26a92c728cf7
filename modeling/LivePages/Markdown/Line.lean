import LivePages.Markdown.Text

/-!
# Lines

A line of marked-up text while it is read from its start. What counts at the start is how far the
text is indented, and a tab reaches to the next of the stops that stand every four columns.

## Main definitions

* `Line` — the rest of a line and the column that it starts at.
* `Line.indent`, `Line.drop` — how far the rest is indented, and the rest behind some columns.
* `Line.bare`, `Line.shown` — the rest without a tab that is partly used up, and with it.
* `Line.sizeBefore` — how much stands between two places of a line.
-/

namespace LivePages.Markdown

/-- The distance between two stops. -/
def tabStop : Nat := 4

/-- An indentation that makes program text. -/
def codeIndent : Nat := 4

/-- The rest of a line. -/
structure Line where
  /-- The column that it starts at. -/
  column : Nat := 0
  /-- How many columns of the tab that it starts with are used up. -/
  spent : Nat := 0
  /-- Its characters. -/
  text : List Char
  deriving DecidableEq, Repr

/-- The columns that a tab at a column takes. -/
def tabWidth (column : Nat) : Nat :=
  tabStop - column % tabStop

/-- How many columns spaces take at the start of some text. -/
def indentFrom : Nat → List Char → Nat
  | _, [] => 0
  | column, c :: r =>
    if c == ' ' then 1 + indentFrom (column + 1) r
    else if c == '\t' then tabWidth column + indentFrom (column + tabWidth column) r
    else 0

namespace Line

/-- How far the rest is indented. -/
def indent (line : Line) : Nat :=
  indentFrom line.column line.text

/-- The rest behind its spaces. -/
def content (line : Line) : List Char :=
  line.text.dropWhile isSpace

/-- Nothing but spaces is left. -/
def isBlank (line : Line) : Bool :=
  line.content.isEmpty

/-- The rest behind one column of spaces, if it starts with one. -/
def dropOne? (line : Line) : Option Line :=
  match line.text with
  | ' ' :: r => some ⟨line.column + 1, 0, r⟩
  | '\t' :: r =>
    if tabWidth line.column == 1 then some ⟨line.column + 1, 0, r⟩
    else some ⟨line.column + 1, line.spent + 1, line.text⟩
  | _ => none

/-- The rest behind at most so many columns of spaces. -/
def drop : Nat → Line → Line
  | 0, line => line
  | n + 1, line =>
    match line.dropOne? with
    | some rest => drop n rest
    | none => line

/-- The rest behind so many characters that are no spaces, and behind the spaces before them. -/
def skip (line : Line) (characters : Nat) : Line :=
  { column := line.column + line.indent + characters, text := line.content.drop characters }

/-- The rest behind its spaces as the rest of a line. -/
def start (line : Line) : Line :=
  line.skip 0

/-- The characters of the rest. A tab that is partly used up does not count. -/
def bare (line : Line) : List Char :=
  if line.spent == 0 then line.text else line.text.drop 1

/-- The characters of the rest as program text: a tab that is partly used up counts as the spaces
that a whole one has more than were used up. -/
def shown (line : Line) : List Char :=
  List.replicate (if line.spent == 0 then 0 else tabStop - line.spent) ' ' ++ line.bare

/-- How much stands between the start of the line and a later place of it: its characters, where a
tab that is partly used up counts as much as its used part behind the first column, and as much as
a whole one has more than were used up at the start. -/
def sizeBefore (line stop : Line) : Nat :=
  let used := (if stop.spent == 0 then 0 else stop.spent - 1)
  let left := if line.spent == 0 then 0 else tabStop - line.spent
  (line.bare.length - stop.bare.length) + left + used

end Line

end LivePages.Markdown
