import LivePages.Markdown.Line

/-!
# Signs of blocks

The signs at the start of a line that begin a block.

## Main definitions

* `heading?`, `underline?`, `isRule` — blocks of one line.
* `Fence`, `fence?` — program text.
* `Marker`, `marker?` — items of lists.
-/

namespace LivePages.Markdown

/-! ### Headings -/

/-- Text up to the last word that is more than marks of a heading. -/
def withoutMarks (s : List Char) : List Char :=
  let runs := s.splitBy fun a b => isSpace a == isSpace b
  let isIdle (run : List Char) : Bool := run.all isSpace || run.all (· == '#')
  ((runs.reverse.dropWhile isIdle).reverse).flatten

/-- A heading: its level, what stands in front of its text, and its text. Marks in front of the text
and words of marks behind it do not count. -/
def heading? (s : List Char) : Option (Nat × List Char × List Char) :=
  let level := (s.takeWhile (· == '#')).length
  let r := s.drop level
  if 1 ≤ level && level ≤ 6 && r.head?.all isSpace then
    let text := r.dropWhile fun c => isSpace c || c == '#'
    some (level, s.take (s.length - text.length), withoutMarks text)
  else none

/-- The level of the heading that a line below a paragraph makes of it. -/
def underline? (s : List Char) : Option Nat :=
  let s := trimmedEnd s
  if s.isEmpty then none
  else if s.all (· == '=') then some 1
  else if s.all (· == '-') then some 2
  else none

/-! ### Lines across -/

/-- The characters of a line across. -/
def ruleMarks : List Char :=
  ['*', '-', '_']

/-- Nothing stands on the line but spaces and marks of one kind. -/
def isMarksOnly (s : List Char) : Bool :=
  let marks := s.filter fun c => !isSpace c
  marks.head?.any fun c => ruleMarks.contains c && marks.all (· == c)

/-- A line across: at least three stars, dashes or underscores, and spaces. -/
def isRule (s : List Char) : Bool :=
  isMarksOnly s && 3 ≤ (s.filter fun c => !isSpace c).length

/-! ### Fences -/

/-- A fence around program text. -/
structure Fence where
  /-- The character it is made of. -/
  mark : Char
  /-- Their number. -/
  count : Nat
  /-- How far it is indented. -/
  indent : Nat
  /-- The words behind it. -/
  info : List Char
  deriving DecidableEq, Repr

/-- The fewest characters of a fence. -/
def fenceSize : Nat := 3

/-- A fence that begins program text. -/
def fence? (indent : Nat) (s : List Char) : Option Fence :=
  match s with
  | c :: _ =>
    let count := (s.takeWhile (· == c)).length
    let info := trimmedEnd ((s.drop count).dropWhile isSpace)
    if count < fenceSize then none
    else if c == '~' || c == '\x60' && !info.contains '\x60' then some ⟨c, count, indent, info⟩
    else none
  | [] => none

/-- More characters could make a fence of the line. -/
def isPartOfFence (s : List Char) : Bool :=
  s.length < fenceSize && (s.all (· == '~') || s.all (· == '\x60'))

/-- A line ends the program text that a fence began. -/
def Fence.isClosedBy (fence : Fence) (s : List Char) : Bool :=
  let count := (s.takeWhile (· == fence.mark)).length
  fence.count ≤ count && (s.drop count).all isSpace

/-- The language that the words behind a fence name, if there are any. -/
def Fence.language (fence : Fence) : List Char :=
  plain (fence.info.takeWhile fun c => !isSpace c)

/-! ### Items -/

/-- The mark in front of an item. -/
structure Marker where
  /-- The character of a bullet, or the one behind a number. -/
  sign : Char
  /-- The number. -/
  number : Option Nat
  /-- Its characters. -/
  width : Nat
  deriving DecidableEq, Repr

/-- The most digits of the number of an item. -/
def numberLimit : Nat := 9

/-- The mark at the start of some text. -/
def bareMarker? (s : List Char) : Option Marker :=
  let digits := s.takeWhile Char.isDigit
  match s, s.drop digits.length with
  | c :: _, sign :: _ =>
    if "*+-".toList.contains c then some ⟨c, none, 1⟩
    else if 1 ≤ digits.length && digits.length ≤ numberLimit && (sign == '.' || sign == ')') then
      let number := digits.foldl (fun n c => 10 * n + (c.toNat - '0'.toNat)) 0
      some ⟨sign, some number, digits.length + 1⟩
    else none
  | _, _ => none

/-- The mark of an item at the start of some text. In the middle of a paragraph, only an item with
text begins a list, and only the number `1` a numbered one. -/
def marker? (inParagraph : Bool) (s : List Char) : Option Marker := do
  let m ← bareMarker? s
  let behind := s.drop m.width
  let fits := m.number.isNone || m.number == some 1 && m.width == 2
  let interrupts := !behind.all isSpace && fits
  if m.number.isNone && isRule s then none
  else if behind.head?.all isSpace && (!inParagraph || interrupts) then some m
  else none

end LivePages.Markdown
