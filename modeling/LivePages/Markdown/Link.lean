import LivePages.Markdown.Inline
import LivePages.Markdown.Passage
import LivePages.Text.Case
import LivePages.Text.Utf8

/-!
# Links

The targets of links: written beside the text of a link, or once for a whole text under a label.

## Main definitions

* `target?` — a target in brackets.
* `label?` — a label in brackets.
* `labelKey` — the form in which labels are compared.
* `Definition`, `takeDefinitions` — targets under labels.
-/

namespace LivePages.Markdown

/-- Drops spaces with at most one line end among them. -/
def dropGap (s : List Char) : List Char :=
  let r := s.dropWhile isSpace
  match lineEnd? r with
  | some (_, r) => r.dropWhile isSpace
  | none => r

/-! ### Addresses -/

/-- Reads an address that stands between `<` and `>`, behind the first of them. -/
def angled? : List Char → Option (List Char × List Char)
  | [] => none
  | '>' :: r => some ([], r)
  | '\\' :: c :: r =>
    if c == '<' || c == '>' || c == '\\' then
      (angled? r).map fun p => ('\\' :: c :: p.1, p.2)
    else (angled? (c :: r)).map fun p => ('\\' :: p.1, p.2)
  | c :: r =>
    if c == '<' || isLineEnd c then none else (angled? r).map fun p => (c :: p.1, p.2)

/-- The control codes that no address holds. -/
def isAddressControl (c : Char) : Bool :=
  c != '\x00' && c.toNat < 0x20 || c == '\x7F'

/-- Reads an address up to the first space or closing bracket; brackets in it stand in pairs, which
may lie in one another as deep as a bound allows. -/
def bare? (bound : Option Nat) : Nat → List Char → Option (List Char × List Char)
  | depth, [] => if depth == 0 then some ([], []) else none
  | depth, '\\' :: c :: r =>
    if c == '(' || c == ')' || c == '\\' then
      (bare? bound depth r).map fun p => ('\\' :: c :: p.1, p.2)
    else (bare? bound depth (c :: r)).map fun p => ('\\' :: p.1, p.2)
  | depth, c :: r =>
    if depth == 0 && (isSpaceOrEnd c || c == ')') then some ([], c :: r)
    else if c == ' ' || isAddressControl c then none
    else if c == '(' then
      if bound.all (depth < ·) then (bare? bound (depth + 1) r).map fun p => (c :: p.1, p.2)
      else none
    else if c == ')' then (bare? bound (depth - 1) r).map fun p => (c :: p.1, p.2)
    else (bare? bound depth r).map fun p => (c :: p.1, p.2)
termination_by _ s => s.length

/-- Reads an address. -/
def address? (bound : Option Nat) : List Char → Option (List Char × List Char)
  | [] => none
  | '<' :: r => (angled? r).map fun p => (plain p.1, p.2)
  | c :: r =>
    if c == ' ' || c == ')' || isAddressControl c then none
    else (bare? bound 0 (c :: r)).map fun p => (plain p.1, p.2)

/-! ### Titles -/

/-- Reads up to the mark that closes a title. -/
def titleUpTo? (close : Char) : List Char → Option (List Char × List Char)
  | [] => none
  | '\\' :: c :: r => (titleUpTo? close r).map fun p => ('\\' :: c :: p.1, p.2)
  | c :: r =>
    if c == close then some ([], r) else (titleUpTo? close r).map fun p => (c :: p.1, p.2)

/-- Reads a title with its marks. -/
def title? : List Char → Option (List Char × List Char)
  | c :: r => do
    let close ← [('"', '"'), ('\'', '\''), ('(', ')')].lookup c
    let (s, r) ← titleUpTo? close r
    return (plain (trimmedLines s), r)
  | [] => none

/-! ### Targets -/

/-- How deep brackets may lie in one another in the address of a target beside its text. -/
def bracketDepth : Nat := 32

/-- The rest behind a closing bracket. -/
def closed? : List Char → Option (List Char)
  | ')' :: r => some r
  | _ => none

/-- Reads a target in round brackets. -/
def target? : List Char → Option (Target × List Char)
  | '(' :: r =>
    match dropGap r with
    | ')' :: r => some (⟨[], []⟩, r)
    | r => do
      let (address, r) ← address? (some bracketDepth) r
      let gap := dropGap r
      if gap.length < r.length then
        match title? gap with
        | some (title, r) => return (⟨address, title⟩, ← closed? (dropGap r))
        | none => return (⟨address, []⟩, ← closed? gap)
      else return (⟨address, []⟩, ← closed? r)
  | _ => none

/-! ### Labels -/

/-- Reads up to the bracket that closes a label. -/
def labelUpTo? : List Char → Option (List Char × List Char)
  | [] => none
  | ']' :: r => some ([], r)
  | '\\' :: c :: r =>
    if c == '[' || c == ']' || c == '\\' then
      (labelUpTo? r).map fun p => ('\\' :: c :: p.1, p.2)
    else (labelUpTo? (c :: r)).map fun p => ('\\' :: p.1, p.2)
  | c :: r => if c == '[' then none else (labelUpTo? r).map fun p => (c :: p.1, p.2)

/-- The most bytes in a label. -/
def labelLimit : Nat := 999

/-- The bytes of a label; line ends and the spaces behind them do not count. -/
def labelSize (s : List Char) : Nat :=
  ((unindented s).filter fun c => !isLineEnd c).foldl (fun n c => n + c.utf8Size) 0

/-- Reads a label in square brackets. -/
def label? : List Char → Option (List Char × List Char)
  | '[' :: r => do
    let (s, r) ← labelUpTo? r
    if labelSize s > labelLimit || s.all isSpaceOrEnd then none else return (s, r)
  | _ => none

/-- The form in which labels are compared: case does not count, and runs of spaces count as one, but
the one behind a word that the label starts with counts as none. -/
def labelKey (s : List Char) : List Char :=
  let words := (s.splitBy fun a b => isSpaceOrEnd a == isSpaceOrEnd b).filter fun run =>
    !run.all isSpaceOrEnd
  let words :=
    match words with
    | first :: second :: r => if s.head?.any isSpaceOrEnd then words else (first ++ second) :: r
    | words => words
  Text.foldCase ([' '].intercalate words)

/-! ### Definitions -/

/-- A target under a label. -/
structure Definition where
  /-- The label as it is compared. -/
  key : List Char
  /-- The target. -/
  target : Target
  deriving DecidableEq, Repr

/-- The target under a label, which is given as it is compared. The first definition counts. -/
def lookUp (definitions : List Definition) (key : List Char) : Option Target :=
  (definitions.find? fun d => d.key == key).map (·.target)

/-- Reads the end of a line on which nothing more stands: it, which is empty at the end of the text,
and the rest. -/
def endOfLine? (s : List Char) : Option (List Char × List Char) :=
  match s.dropWhile isSpace with
  | [] => some ([], [])
  | r => lineEnd? r

/-- Reads a definition at a place of a passage: it, the end of its last line, and the rest. -/
def definition? (p : Passage) (s : List Char) : Option (Definition × List Char × List Char) := do
  let start := s.dropWhile isSpace
  let (label, r) ← label? start
  let key := labelKey (p.source (start.drop 1) (start.drop (1 + label.length)))
  match r with
  | ':' :: r =>
    let (address, r) ← address? none (dropGap r)
    let gap := dropGap r
    let titled : Option (Definition × List Char × List Char) := do
      if gap.length == r.length then none
      let (title, r) ← title? gap
      let (lineEnd, r) ← endOfLine? r
      return (⟨key, ⟨address, title⟩⟩, lineEnd, r)
    match titled with
    | some found => return found
    | none =>
      let (lineEnd, r) ← endOfLine? r
      return (⟨key, ⟨address, []⟩⟩, lineEnd, r)
  | _ => none

/-- The definitions at a place of a passage, each with the end of its last line, and the rest. The
bound is the number of characters. -/
def definitionsFrom (p : Passage) : Nat → List Char → List (Definition × List Char) × List Char
  | 0, s => ([], s)
  | fuel + 1, s =>
    match definition? p s with
    | some (d, lineEnd, r) =>
      let (more, r) := definitionsFrom p fuel r
      ((d, lineEnd) :: more, r)
    | none => ([], s)

/-- The definitions at the start of a passage, each with the end of its last line, and the rest of
the passage. -/
def takeDefinitions (p : Passage) : List (Definition × List Char) × Passage :=
  let (found, rest) := definitionsFrom p p.text.length p.text
  (found, p.startingAt rest)

end LivePages.Markdown
