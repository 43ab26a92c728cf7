import LivePages.Shell.Script

/-!
# Tokens of shell scripts

A script as a sequence of words, redirections and the signs between them.

## Main definitions

* `Token` — a token.
* `tokens?` — the tokens of a script, unless a quotation or a bracket in it is left open.
-/

namespace LivePages.Shell

/-- A token of a script. -/
inductive Token where
  /-- A word, and the line that it starts on. -/
  | word (line : Nat) (word : Word)
  /-- One of `;`, `&`, `|`, `(`, `)`, `&&` and `||`. The end of a line counts as `;`. -/
  | sign (text : String)
  /-- The start of a redirection, in front of its target. -/
  | redirect (stream : Nat) (mode : Mode)
  deriving DecidableEq, Repr

/-- The characters that end a word. -/
def isBreak (c : Char) : Bool :=
  " \t\n;&|()<>".toList.contains c

/-- The characters that names are made of. -/
def isNameChar (c : Char) : Bool :=
  c.isAlphanum || c == '_'

/-- The character stands for itself in a bare word. -/
def isOrdinary (c : Char) : Bool :=
  !isBreak c && !"'\"\\$`".toList.contains c

/-- What stands before the bracket that closes one already open, and what stands behind it. -/
def enclosed? : Nat → List Char → Option (List Char × List Char)
  | _, [] => none
  | 0, ')' :: r => some ([], r)
  | depth, c :: r =>
    let depth := if c == '(' then depth + 1 else if c == ')' then depth - 1 else depth
    (enclosed? depth r).map fun p => (c :: p.1, p.2)

/-- What stands before and behind the first of a character. -/
def until? (stop : Char) (s : List Char) : Option (List Char × List Char) :=
  match s.dropWhile (· != stop) with
  | [] => none
  | _ :: r => some (s.takeWhile (· != stop), r)

/-- What stands in braces behind a dollar sign. -/
def braced (quoted : Bool) (inner : List Char) : Piece :=
  let name := String.ofList (inner.takeWhile isNameChar)
  match inner.dropWhile isNameChar with
  | ':' :: '-' :: text => .fallback name (String.ofList text) true quoted
  | '-' :: text => .fallback name (String.ofList text) false quoted
  | _ => .value (String.ofList inner) quoted

/-- Reads what follows a dollar sign. -/
def dollar? (quoted : Bool) : List Char → Option (Piece × List Char)
  | '(' :: '(' :: r => do
    let (inner, r) ← enclosed? 1 r
    return (.calculation (String.ofList inner.dropLast) quoted, r)
  | '(' :: r => do
    let (inner, r) ← enclosed? 0 r
    return (.output (String.ofList inner) quoted, r)
  | '\x7b' :: r => do
    let (inner, r) ← until? '\x7d' r
    return (braced quoted inner, r)
  | c :: r =>
    if "@*#?$!".toList.contains c || c.isDigit then
      some (.value (String.singleton c) quoted, r)
    else
      match (c :: r).takeWhile isNameChar with
      | [] => some (.text "$" quoted, c :: r)
      | name => some (.value (String.ofList name) quoted, (c :: r).dropWhile isNameChar)
  | [] => some (.text "$" quoted, [])

/-- Reads a piece that a script inside backquotes stands for. -/
def backquoted? (quoted : Bool) (s : List Char) : Option (Piece × List Char) := do
  let (inner, r) ← until? '\x60' s
  return (.output (String.ofList inner) quoted, r)

/-- Reads up to the double quote that closes one already open. The bound is the number of
characters. -/
def doubleQuoted? : Nat → List Char → Option (Word × List Char)
  | 0, _ | _, [] => none
  | fuel + 1, c :: r =>
    let also (p : Piece × List Char) : Option (Word × List Char) := do
      let (word, r) ← doubleQuoted? fuel p.2
      return (p.1 :: word, r)
    match c, r with
    | '"', r => some ([], r)
    | '$', r => (dollar? true r).bind also
    | '\x60', r => (backquoted? true r).bind also
    | '\\', d :: r =>
      if d == '\n' then doubleQuoted? fuel r
      else if "$`\"\\".toList.contains d then also (.text (String.singleton d) true, r)
      else also (.text (String.ofList ['\\', d]) true, r)
    | c, r => also (.text (String.singleton c) true, r)

/-- Reads a word. The bound is the number of characters. -/
def word? : Nat → List Char → Option (Word × List Char)
  | 0, s => some ([], s)
  | _, [] => some ([], [])
  | fuel + 1, c :: r =>
    let also (p : Piece × List Char) : Option (Word × List Char) := do
      let (word, r) ← word? fuel p.2
      return (p.1 :: word, r)
    if isBreak c then some ([], c :: r)
    else if isOrdinary c then
      also (.text (String.ofList ((c :: r).takeWhile isOrdinary)) false,
        (c :: r).dropWhile isOrdinary)
    else
      match c, r with
      | '\'', r =>
        (until? '\'' r).bind fun p => also (.text (String.ofList p.1) true, p.2)
      | '"', r => do
        let (inner, r) ← doubleQuoted? (fuel + 1) r
        let (word, r) ← word? fuel r
        return (.text "" true :: inner ++ word, r)
      | '$', r => (dollar? false r).bind also
      | '\x60', r => (backquoted? false r).bind also
      | '\\', '\n' :: r => word? fuel r
      | '\\', d :: r => also (.text (String.singleton d) true, r)
      | _, r => also (.text "\\" true, r)

/-- Reads the sign of a redirection. -/
def redirect? : List Char → Option (Mode × List Char)
  | '>' :: '>' :: r => some (.append, r)
  | '>' :: '&' :: r => some (.duplicate, r)
  | '>' :: '|' :: r => some (.write, r)
  | '>' :: r => some (.write, r)
  | '<' :: r => some (.read, r)
  | _ => none

/-- Reads a redirection with the number of its stream. -/
def numbered? : List Char → Option (Token × List Char)
  | c :: r =>
    match if c.isDigit then redirect? r else none with
    | some (mode, r) => some (.redirect (c.toNat - '0'.toNat) mode, r)
    | none => do
      let (mode, r) ← redirect? (c :: r)
      return (.redirect (if mode == .read then 0 else 1) mode, r)
  | [] => none

/-- The ends of lines in a text. -/
def lineEnds (s : List Char) : Nat :=
  s.count '\n'

/-- The tokens of a script that starts on a line. The bound is the number of characters. -/
def tokensFrom? : Nat → Nat → List Char → Option (List Token)
  | 0, _, _ | _, _, [] => some []
  | fuel + 1, line, c :: r =>
    let also (token : Token) (r : List Char) : Option (List Token) :=
      (tokensFrom? fuel line r).map (token :: ·)
    match c, r with
    | '\\', '\n' :: r => tokensFrom? fuel (line + 1) r
    | '#', r => tokensFrom? fuel line (r.dropWhile (· != '\n'))
    | '\n', r => (tokensFrom? fuel (line + 1) r).map (.sign ";" :: ·)
    | '&', '&' :: r => also (.sign "&&") r
    | '|', '|' :: r => also (.sign "||") r
    | c, r =>
      if c == ' ' || c == '\t' then tokensFrom? fuel line r
      else
        match numbered? (c :: r) with
        | some (token, r) => also token r
        | none =>
          if isBreak c then also (.sign (String.singleton c)) r
          else do
            let (word, rest) ← word? (fuel + 1) (c :: r)
            let tokens ← tokensFrom? fuel (line + lineEnds (c :: r) - lineEnds rest) rest
            return .word line word :: tokens

/-- The tokens of a script, unless a quotation or a bracket in it is left open. -/
def tokens? (script : List Char) : Option (List Token) :=
  tokensFrom? script.length 1 script

end LivePages.Shell
