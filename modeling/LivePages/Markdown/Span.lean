import LivePages.Markdown.Link
import LivePages.Markdown.Tag
import LivePages.Text.Blank

/-!
# Reading text within a block

Text is read from left to right. What may turn out to be a mark, a run of stars or an opening
bracket, is kept on a stack until the mark that belongs to it is found; what finds none stands for
itself.

## Main definitions

* `Entry` — what is kept on the stack.
* `pairUp` — pairs the runs of stars and underscores.
* `readInline` — reads the text of a block.
-/

namespace LivePages.Markdown

/-- A run of stars or underscores. -/
structure Run where
  /-- The character. -/
  mark : Char
  /-- How many there are. -/
  count : Nat
  /-- It can stand in front of what is stressed. -/
  opens : Bool
  /-- It can stand behind what is stressed. -/
  closes : Bool
  deriving DecidableEq, Repr

/-- What has been read and may still become a part of something else. -/
inductive Entry where
  /-- Characters that stand for themselves. -/
  | plain (text : List Char)
  /-- Something complete. -/
  | part (part : Inline)
  /-- A run of stars or underscores. -/
  | run (run : Run)
  /-- An opening bracket, what stands behind it, and whether it may still open a link. -/
  | bracket (image active : Bool) (rest : List Char)

/-! ### Stress -/

/-- The run as it is written. -/
def Run.text (run : Run) : Inline :=
  .text (List.replicate run.count run.mark)

/-- An entry that has become a part of nothing else. -/
def Entry.alone : Entry → Inline
  | .plain s => .text s
  | .part p => p
  | .run r => r.text
  | .bracket image _ _ => .text (if image then ['!', '['] else ['['])

/-- Two runs belong together. Runs that could each be both are kept apart unless their sizes fit,
without the characters that have found theirs already. -/
def Run.fits (opener closer : Run) : Bool :=
  opener.mark == closer.mark && opener.opens &&
    !((closer.opens || opener.closes) && closer.count % 3 != 0 &&
      (opener.count + closer.count) % 3 == 0)

/-- The run that a closing run belongs to on a stack: what lies above it, the run, and what lies
below. -/
def opener? (closer : Run) : List Entry → Option (List Entry × Run × List Entry)
  | [] => none
  | .run run :: below =>
    if run.fits closer then some ([], run, below)
    else (opener? closer below).map fun p => (.run run :: p.1, p.2)
  | e :: below => (opener? closer below).map fun p => (e :: p.1, p.2)

/-- A run with some of its characters taken off, unless none are left. -/
def Run.shorten (run : Run) (n : Nat) : List Entry :=
  if run.count ≤ n then [] else [.run { run with count := run.count - n }]

/-- Puts a run on a stack, and pairs it with those below as long as it can close. The bound is the
size of the run. -/
def closeRun : Nat → Run → List Entry → List Entry
  | 0, _, stack => stack
  | fuel + 1, run, stack =>
    match if run.closes then opener? run stack else none with
    | none => if run.opens then .run run :: stack else .part run.text :: stack
    | some (inner, opener, below) =>
      let content := inner.reverse.map Entry.alone
      let width := if opener.count ≥ 2 && run.count ≥ 2 then 2 else 1
      let stressed := if width == 2 then Inline.strong content else .emphasis content
      let stack := .part stressed :: (opener.shorten width ++ below)
      if run.count ≤ width then stack
      else closeRun fuel { run with count := run.count - width } stack

/-- Pairs the runs among entries, which are given in their order. -/
def pairUp (entries : List Entry) : List Inline :=
  let stack := entries.foldl (fun stack e =>
    match e with
    | .run run => closeRun (run.count + 1) run stack
    | e => e :: stack) []
  stack.reverse.map Entry.alone

/-- What a run of stars or underscores stands next to. -/
inductive Neighbour where
  /-- A space, or the end of the text. -/
  | blank
  /-- Punctuation or a symbol. -/
  | symbol
  /-- A letter or anything else. -/
  | word
  deriving DecidableEq, Repr

/-- What a character is to a run next to it. -/
def Neighbour.of : Option Char → Neighbour
  | none => .blank
  | some c => if Text.isBlank c then .blank else if Text.isSymbol c then .symbol else .word

/-- A run can open on the side where something stands closer to it than on the other, and next to a
run of the other mark. -/
def opensBetween (before behind : Option Char) : Bool :=
  Neighbour.of behind == .word ||
    Neighbour.of behind == .symbol && Neighbour.of before != .word ||
    behind == some '*' || behind == some '_'

/-- How a run stands between the characters before and behind it. Underscores open and close
nothing in the middle of a word. -/
def runBetween (mark : Char) (count : Nat) (before behind : Option Char) : Run :=
  let opens := opensBetween before behind
  let closes := opensBetween behind before
  if mark == '_' then
    { mark, count
      opens := opens && (Neighbour.of before != .word || !closes)
      closes := closes && (Neighbour.of behind != .word || !opens) }
  else { mark, count, opens, closes }

/-! ### Links and images -/

/-- No bracket further down opens a link, since no link stands in a link. -/
def deactivate (stack : List Entry) : List Entry :=
  stack.map fun
    | .bracket false _ rest => .bracket false false rest
    | e => e

/-- The last opening bracket on a stack: what lies above it, the bracket, and what lies below. -/
def bracket? : List Entry → Option (List Entry × (Bool × Bool × List Char) × List Entry)
  | [] => none
  | .bracket image active rest :: below => some ([], (image, active, rest), below)
  | e :: below => (bracket? below).map fun p => (e :: p.1, p.2)

/-- What the meaning of a text depends on: the passage that it is the text of, and the targets
under labels. -/
structure Scope where
  /-- The targets under labels. -/
  definitions : List Definition
  /-- The passage. -/
  passage : Passage

/-- The target under a label that stands between two places, each given by the rest behind it. -/
def Scope.lookUp (scope : Scope) (start stop : List Char) : Option Target :=
  if scope.definitions.isEmpty then none
  else Markdown.lookUp scope.definitions (labelKey (scope.passage.source start stop))

/-- Finds the target that belongs to a text in brackets: beside it, under the label beside it, or
under the text itself, whose target is given. -/
def Scope.targetOf? (scope : Scope) (own : Option Target) (r : List Char) :
    Option (Target × List Char) :=
  match r with
  | '(' :: _ => target? r <|> own.map (·, r)
  | '[' :: inner =>
    let full : Option (Target × List Char) := do
      let (label, rest) ← label? r
      return (← scope.lookUp inner (inner.drop label.length), rest)
    match full, inner with
    | some found, _ => some found
    | none, ']' :: rest => own.map (·, rest)
    | none, _ => none
  | r => own.map (·, r)

/-- Puts a link or image on a stack in place of a bracket and what follows it. -/
def linked (image : Bool) (target : Target) (inner below : List Entry) : List Entry :=
  let content := pairUp inner.reverse
  if image then .part (.image target content) :: below
  else .part (.link target content) :: deactivate below

/-- Reads a closing bracket: the stack and the rest afterwards. -/
def Scope.closeBracket (scope : Scope) (stack : List Entry) (r : List Char) :
    List Entry × List Char :=
  match bracket? stack with
  | none => (.part (.text [']']) :: stack, r)
  | some (inner, (image, active, start), below) =>
    let own := scope.lookUp start (']' :: r)
    match if active then scope.targetOf? own r else none with
    | some (target, r) => (linked image target inner below, r)
    | none =>
      let opening := Entry.part (Entry.bracket image active start).alone
      (.part (.text [']']) :: inner ++ opening :: below, r)

/-! ### Single characters -/

/-- The run of a character at the start of some text. -/
def runLength (mark : Char) (s : List Char) : Nat :=
  (s.takeWhile (· == mark)).length

/-- The text up to a run of so many backquotes, and the rest behind it. The bound is the number of
characters. -/
def codeUpTo? (count : Nat) : Nat → List Char → Option (List Char × List Char)
  | 0, _ | _, [] => none
  | fuel + 1, '\x60' :: r =>
    let n := runLength '\x60' ('\x60' :: r)
    if n == count then some ([], r.drop (n - 1))
    else
      (codeUpTo? count fuel (r.drop (n - 1))).map fun p =>
        (List.replicate n '\x60' ++ p.1, p.2)
  | fuel + 1, c :: r => (codeUpTo? count fuel r).map fun p => (c :: p.1, p.2)

/-- Text in which every line end is a space. -/
def onOneLine : List Char → List Char
  | [] => []
  | '\r' :: '\n' :: r => ' ' :: onOneLine r
  | c :: r => (if isLineEnd c then ' ' else c) :: onOneLine r

/-- Program text as it is shown: line ends become spaces, and one space on both sides is left out,
unless there is nothing else. -/
def shownCode (s : List Char) : List Char :=
  let s := onOneLine s
  match s with
  | ' ' :: r =>
    if r.getLast? == some ' ' && r.any (· != ' ') then r.dropLast else s
  | _ => s

/-- An address that starts with a scheme, of two to thirty-two characters, and a colon. -/
def hasScheme (address : List Char) : Bool :=
  let scheme := address.takeWhile fun c => c.isAlphanum || "+.-".toList.contains c
  2 ≤ scheme.length && scheme.length ≤ 32 && scheme.head?.any Char.isAlpha &&
    (address.drop scheme.length).head? == some ':'

/-- An address for mail. -/
def isMail (address : List Char) : Bool :=
  let isName (c : Char) : Bool :=
    c.isAlphanum || ".#$%&'*+/=?^_\x60\x7b|\x7d~-".toList.contains c
  let isLabel (l : List Char) : Bool :=
    !l.isEmpty && l.length ≤ 63 && l.all isTagChar && l.head? != some '-' && l.getLast? != some '-'
  match Text.splitFirst? '@' address with
  | some (name, host) =>
    !name.isEmpty && name.all isName && (Text.splitOn '.' host).all isLabel
  | none => false

/-- Reads an address between `<` and `>`, behind the first of them. -/
def autolink? (s : List Char) : Option (Inline × List Char) :=
  let inner := s.takeWhile fun c => c != '>' && c != '<' && c.toNat > 0x20 && c != '\x7F'
  match s.drop inner.length with
  | '>' :: r =>
    if hasScheme inner then some (.link ⟨inner, []⟩ [.text inner], r)
    else if isMail inner then some (.link ⟨"mailto:".toList ++ inner, []⟩ [.text inner], r)
    else none
  | _ => none

/-- Characters that stand for themselves, put on a stack. -/
def pushPlain (s : List Char) (stack : List Entry) : List Entry :=
  match stack with
  | .plain t :: below => .plain (t ++ s) :: below
  | stack => .plain s :: stack

/-- A stack without the spaces at its end, and these. -/
def trimStack (stack : List Entry) : List Entry × List Char :=
  match stack with
  | .plain t :: below =>
    let kept := trimmedEnd t
    (if kept.isEmpty then below else .plain kept :: below, t.drop kept.length)
  | stack => (stack, [])

/-- Puts a line end on a stack. Two spaces before it show it, and no spaces are kept. -/
def endLine (lineEnd : List Char) (stack : List Entry) : List Entry :=
  let (stack, spaces) := trimStack stack
  let isShown := 2 ≤ spaces.length && spaces.all (· == ' ')
  .part (.text lineEnd) :: if isShown then .part .lineBreak :: stack else stack

/-- The characters that may not stand for themselves. -/
def isSpecial (c : Char) : Bool :=
  isLineEnd c || "!&*<[\\]_\x60".toList.contains c

/-- The character in front of the first one of a line that is not a space. -/
def beforeLine (lineEnd margin text : List Char) : Option Char :=
  if text.head?.any isSpace then some ' ' else margin.getLast? <|> lineEnd.getLast?

/-- Reads on, with the character read last. The bound is the number of characters. -/
def Scope.readFrom (scope : Scope) :
    Nat → Option Char → List Entry → List Char → List Entry
  | 0, _, stack, _ | _, _, stack, [] => stack
  | fuel + 1, before, stack, c :: r =>
    let goOn (last : Char) (stack : List Entry) (r : List Char) : List Entry :=
      scope.readFrom fuel (some last) stack r
    match lineEnd? (c :: r) with
    | some (lineEnd, r) =>
      let before := beforeLine lineEnd (scope.passage.marginBefore r) r
      scope.readFrom fuel before (endLine lineEnd stack) (r.dropWhile isSpace)
    | none =>
    match c, r with
    | '\\', d :: r =>
      if isLineEnd d then goOn '\\' (.part .lineBreak :: stack) (d :: r)
      else if Text.isAsciiSymbol d then goOn d (.part (.text [d]) :: stack) r
      else goOn '\\' (pushPlain ['\\'] stack) (d :: r)
    | '\x60', r =>
      let n := runLength '\x60' (c :: r)
      match codeUpTo? n r.length (r.drop (n - 1)) with
      | some (code, r) => goOn '\x60' (.part (.code (shownCode code)) :: stack) r
      | none => goOn '\x60' (pushPlain (List.replicate n '\x60') stack) (r.drop (n - 1))
    | '&', r =>
      match reference? r with
      | some (s, r) => goOn ';' (.part (.text s) :: stack) r
      | none => goOn '&' (pushPlain ['&'] stack) r
    | '<', r =>
      match autolink? r with
      | some (link, r) => goOn '>' (.part link :: stack) r
      | none =>
        match html? r with
        | some rest =>
          let html := unindented ('<' :: r.take (r.length - rest.length))
          goOn '>' (.part (.text html) :: stack) rest
        | none => goOn '<' (pushPlain ['<'] stack) r
    | '!', '[' :: r => goOn '[' (.bracket true true r :: stack) r
    | '[', r => goOn '[' (.bracket false true r :: stack) r
    | ']', r =>
      let (stack, r) := scope.closeBracket stack r
      goOn ']' stack r
    | c, r =>
      if c == '*' || c == '_' then
        let n := runLength c (c :: r)
        let rest := r.drop (n - 1)
        goOn c (.run (runBetween c n before rest.head?) :: stack) rest
      else
        let word := c :: r.takeWhile fun d => !isSpecial d
        goOn (word.getLast?.getD c) (pushPlain word stack) (r.drop (word.length - 1))

/-- Reads the text of a block. -/
def readInline (definitions : List Definition) (passage : Passage) : List Inline :=
  let text := passage.text
  let before := beforeLine [] (passage.marginBefore text) text
  let scope : Scope := { definitions, passage }
  let stack := scope.readFrom text.length before [] (text.dropWhile isSpace)
  pairUp (trimStack stack).1.reverse

end LivePages.Markdown
