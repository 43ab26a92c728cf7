import LivePages.Text.Hex
import LivePages.Text.Visible

/-!
# Quoted text

The spelling of a text as a double-quoted literal on one line, and the reader for the quoted
arguments of page directives.

## Main definitions

* `Quoted.spell`, `Quoted.write` — a character that would not show is written as an escape, all
  others stand for themselves.
* `Quoted.read` — the text of a double-quoted literal with escapes, or of a back-quoted one
  without.
* `Quoted.Error` — why an argument cannot be read, with its `message`.
-/

namespace LivePages.Text.Quoted

/-- How a character is spelled between double quotes. -/
def spell (c : Char) : List Char :=
  if c = '\x00' then ['\\', '0']
  else if c = '\t' then ['\\', 't']
  else if c = '\r' then ['\\', 'r']
  else if c = '\n' then ['\\', 'n']
  else if c = '"' then ['\\', '"']
  else if c = '\\' then ['\\', '\\']
  else if showsAlone c then [c]
  else ['\\', 'u', '{'] ++ toHex c.toNat ++ ['}']

/-- The text as a double-quoted literal. -/
def write (s : List Char) : List Char :=
  '"' :: (s.flatMap spell ++ ['"'])

/-- `write` on strings. -/
def quote (s : String) : String :=
  String.ofList (write s.toList)

/-- Why a directive's argument is not a quoted text. -/
inductive Error where
  /-- The argument is not enclosed in a pair of quotes. -/
  | notQuoted (argument : String)
  /-- A backslash is not followed by a known escape. -/
  | invalidEscape (escape : String)
  /-- The enclosing quote occurs inside. -/
  | strayQuote
  deriving DecidableEq, Repr

/-- The wording of an error. -/
def Error.message : Error → String
  | .notQuoted argument => "not a quoted string: " ++ argument
  | .invalidEscape escape => "invalid escape sequence: \\" ++ escape
  | .strayQuote => "unescaped quote inside string"

/-- Where the reader of a double-quoted text stands. -/
inductive Mode where
  /-- Between characters. -/
  | plain
  /-- After a backslash. -/
  | escape
  /-- After `\x`. -/
  | byteFirst
  /-- After `\x` and one digit. -/
  | byteSecond (first : Char)
  /-- After `\u`. -/
  | brace
  /-- After `\u{` and some digits, the last one first. -/
  | code (digits : List Char)

/-- The character that a one-letter escape stands for. -/
def simpleEscape? : Char → Option Char
  | '\\' => some '\\'
  | '"' => some '"'
  | '\'' => some '\''
  | 'n' => some '\n'
  | 'r' => some '\r'
  | 't' => some '\t'
  | '0' => some '\x00'
  | _ => none

/-- The character written `\xNN`: an ASCII code in two digits. -/
def byteEscape (first second : Char) : Except Error Char :=
  match (readHex? [first, second]).filter (· < 0x80) >>= scalar? with
  | some c => .ok c
  | none => .error (.invalidEscape (String.ofList ['x', first, second]))

/-- The character written `\u{...}`, its digits given last one first. -/
def codeEscape (digits : List Char) : Except Error Char :=
  match readHex? digits.reverse >>= scalar? with
  | some c => .ok c
  | none => .error (.invalidEscape (String.ofList (['u', '{'] ++ digits.reverse ++ ['}'])))

/-- Reads the inside of a double-quoted text. The brace of the last `\u{...}` may be missing. -/
def readFrom : Mode → List Char → Except Error (List Char)
  | .plain, [] => .ok []
  | .plain, c :: r =>
    if c = '"' then .error .strayQuote
    else if c = '\\' then readFrom .escape r
    else (readFrom .plain r).map (c :: ·)
  | .escape, [] => .error (.invalidEscape "")
  | .escape, c :: r =>
    if c = 'x' then readFrom .byteFirst r
    else if c = 'u' then readFrom .brace r
    else match simpleEscape? c with
      | some d => (readFrom .plain r).map (d :: ·)
      | none => .error (.invalidEscape (String.singleton c))
  | .byteFirst, [] => .error (.invalidEscape "x")
  | .byteFirst, c :: r => readFrom (.byteSecond c) r
  | .byteSecond a, [] => .error (.invalidEscape (String.ofList ['x', a]))
  | .byteSecond a, b :: r => do
    let c ← byteEscape a b
    (readFrom .plain r).map (c :: ·)
  | .brace, [] => .error (.invalidEscape "u")
  | .brace, c :: r => if c = '{' then readFrom (.code []) r else .error (.invalidEscape "u")
  | .code digits, [] => (codeEscape digits).map ([·])
  | .code digits, c :: r =>
    if c = '}' then do
      let d ← codeEscape digits
      (readFrom .plain r).map (d :: ·)
    else readFrom (.code (c :: digits)) r

/-- The inside of a text that starts and ends with the quote `q`. -/
def inside? (q : Char) : List Char → Option (List Char)
  | [] => none
  | c :: r => if c = q ∧ r.getLast? = some q then some r.dropLast else none

/-- Reads a quoted argument. -/
def read (s : List Char) : Except Error (List Char) :=
  match inside? '`' s with
  | some body => if body.contains '`' then .error .strayQuote else .ok body
  | none =>
    match inside? '"' s with
    | some body => readFrom .plain body
    | none => .error (.notQuoted (String.ofList s))

/-- `read` on strings. -/
def unquote (s : String) : Except Error String :=
  (read s.toList).map String.ofList

end LivePages.Text.Quoted
