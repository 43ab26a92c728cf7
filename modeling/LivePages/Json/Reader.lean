import LivePages.Text.Quoted
import LivePages.Text.Decimal

/-!
# Reading JSON

Readers of JSON text, byte by byte. A reader takes the bytes that are left and returns a value and
the bytes after it, or fails at a place. A place is given by the number of bytes left, and turned
into a line and a column once the whole text is known.

## Main definitions

* `Cause`, `Cause.message` — why a text cannot be read.
* `Reader` — the readers, with the elementary ones.
* `Failure.locate` — the line and column of a failure.
-/

namespace LivePages.Json

/-- What stands in a text in place of what was expected. -/
inductive Unexpected where
  | null
  | bool (value : Bool)
  | natural (value : Nat)
  /-- The negative of a positive number. -/
  | negative (value : Nat)
  | float (value : Float)
  | text (value : String)
  | sequence
  | map

/-- The number with its sign, in positional notation while its first digit stands between the
fifth place after the point and the sixteenth before it, and with a signed exponent otherwise. -/
def floatText (x : Float) : String :=
  let size := x.toBits.toNat % 0x8000000000000000
  if size = 0 ∨ !x.isFinite then Text.Decimal.ofFloatWithPoint x
  else
    let digits := Text.Decimal.shortest (.ofBits (UInt64.ofNat size))
    let ds := (toString digits.number).toList
    let lead := digits.exponent + ds.length - 1
    if -6 < lead ∧ lead < 16 then Text.Decimal.ofFloatWithPoint x
    else
      let sign := if x < 0 then ['-'] else []
      let ds := (ds.reverse.dropWhile (· == '0')).reverse
      let fraction := match ds.drop 1 with
        | [] => []
        | r => '.' :: r
      let power := (toString lead.natAbs).toList
      String.ofList (sign ++ ds.take 1 ++ fraction ++ ['e', if lead < 0 then '-' else '+'] ++ power)

/-- The wording of what was found. -/
def Unexpected.message : Unexpected → String
  | .null => "null"
  | .bool value => s!"boolean `{value}`"
  | .natural value => s!"integer `{value}`"
  | .negative value => s!"integer `-{value}`"
  | .float value => s!"floating point `{floatText value}`"
  | .text value => s!"string {Text.Quoted.quote value}"
  | .sequence => "sequence"
  | .map => "map"

/-- Why a text cannot be read. -/
inductive Cause where
  | endInList
  | endInObject
  | endInText
  | endInValue
  | expectedColon
  | expectedListCommaOrEnd
  | expectedObjectCommaOrEnd
  | expectedWord
  | expectedValue
  | invalidEscape
  | invalidNumber
  | numberOutOfRange
  | controlCharacter
  | keyMustBeText
  | loneSurrogate
  | unexpectedEndOfEscape
  | trailingComma
  | trailingCharacters
  | recursionLimit
  /-- A value of one type stands where another is expected. -/
  | invalidType (found : Unexpected) (expected : String)
  /-- A value of the expected type is out of its range. -/
  | invalidValue (found : Unexpected) (expected : String)
  /-- A field occurs twice. -/
  | duplicateField (name : String)

/-- The wording of a cause. -/
def Cause.message : Cause → String
  | .endInList => "EOF while parsing a list"
  | .endInObject => "EOF while parsing an object"
  | .endInText => "EOF while parsing a string"
  | .endInValue => "EOF while parsing a value"
  | .expectedColon => "expected `:`"
  | .expectedListCommaOrEnd => "expected `,` or `]`"
  | .expectedObjectCommaOrEnd => "expected `,` or `\x7d`"
  | .expectedWord => "expected ident"
  | .expectedValue => "expected value"
  | .invalidEscape => "invalid escape"
  | .invalidNumber => "invalid number"
  | .numberOutOfRange => "number out of range"
  | .controlCharacter => "control character (\\u0000-\\u001F) found while parsing a string"
  | .keyMustBeText => "key must be a string"
  | .loneSurrogate => "lone leading surrogate in hex escape"
  | .unexpectedEndOfEscape => "unexpected end of hex escape"
  | .trailingComma => "trailing comma"
  | .trailingCharacters => "trailing characters"
  | .recursionLimit => "recursion limit exceeded"
  | .invalidType found expected => s!"invalid type: {found.message}, expected {expected}"
  | .invalidValue found expected => s!"invalid value: {found.message}, expected {expected}"
  | .duplicateField name => s!"duplicate field `{name}`"

/-- A failure, and how many bytes were left where it was noticed. -/
structure Failure where
  /-- The cause. -/
  cause : Cause
  /-- The bytes left. -/
  left : Nat

/-- A failure with its place in the text. -/
structure Error where
  /-- The cause. -/
  cause : Cause
  /-- The line, from one. -/
  line : Nat
  /-- The number of bytes of that line up to the place. -/
  column : Nat

/-- The wording of an error. -/
def Error.message (e : Error) : String :=
  s!"{e.cause.message} at line {e.line} column {e.column}"

/-- The line and column after the given bytes. -/
def position (bytes : List UInt8) : Nat × Nat :=
  bytes.foldl (fun p b => if b = 0x0A then (p.1 + 1, 0) else (p.1, p.2 + 1)) (1, 0)

/-- The place of a failure in its text. -/
def Failure.locate (text : List UInt8) (f : Failure) : Error :=
  let (line, column) := position (text.take (text.length - f.left))
  ⟨f.cause, line, column⟩

/-- Reads a value off the front of the bytes left. -/
abbrev Reader (α : Type) : Type := StateT (List UInt8) (Except Failure) α

namespace Reader

/-- Fails where the reader stands. -/
def fail {α : Type} (cause : Cause) : Reader α :=
  fun s => .error ⟨cause, s.length⟩

/-- Fails at the byte that comes next: the place is after it. -/
def failNext {α : Type} (cause : Cause) : Reader α :=
  fun s => .error ⟨cause, s.length - 1⟩

/-- The byte that comes next. -/
def peek : Reader (Option UInt8) :=
  fun s => .ok (s.head?, s)

/-- Goes past the byte that comes next. -/
def skip : Reader Unit :=
  fun s => .ok ((), s.tail)

/-- The byte that comes next, going past it. -/
def next : Reader (Option UInt8) :=
  fun s => .ok (s.head?, s.tail)

/-- The bytes that separate tokens. -/
def isBlank (b : UInt8) : Bool :=
  b = 0x20 || b = 0x0A || b = 0x09 || b = 0x0D

/-- Goes past blanks and looks at what comes next. -/
def peekToken : Reader (Option UInt8) :=
  fun s => let s := s.dropWhile isBlank; .ok (s.head?, s)

/-- Goes past the rest of a word. -/
def word : List Char → Reader Unit
  | [] => pure ()
  | c :: r => do
    match ← next with
    | none => fail .endInValue
    | some b => if b.toNat = c.toNat then word r else fail .expectedWord

/-- Runs a reader on a whole text, with nothing but blanks after it. -/
def run {α : Type} (reader : Reader α) (text : List UInt8) : Except Error α :=
  let whole : Reader α := do
    let value ← reader
    match ← peekToken with
    | none => pure value
    | some _ => failNext .trailingCharacters
  match whole text with
  | .ok (value, _) => .ok value
  | .error f => .error (f.locate text)

end Reader

end LivePages.Json
