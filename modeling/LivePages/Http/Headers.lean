import LivePages.Text.Utf8

/-!
# Headers

The header fields of requests and responses. Names are compared without regard to case and kept in
lower case; values are bytes.

## Main definitions

* `isTokenChar` — the characters of methods and of header names.
* `headerName?`, `isHeaderValue` — the legal names and values.
* `Headers` — the fields of a message, with `first?`, `add` and `replace`.
-/

namespace LivePages.Http

/-- The characters that a method or a header name is made of. -/
def isTokenChar (c : Char) : Bool :=
  c.isAlphanum || "!#$%&'*+-.^_\x60|~".toList.contains c

/-- The most characters in a header name. -/
def headerNameLimit : Nat := 65535

/-- The name in lower case, if it is a legal one. -/
def headerName? (text : String) : Option String :=
  let chars := text.toList
  if chars ≠ [] ∧ chars.length ≤ headerNameLimit ∧ chars.all isTokenChar then
    some (String.ofList (chars.map Char.toLower))
  else none

/-- The byte may stand in a header value: all but the controls, among which only the tab may. -/
def isHeaderByte (b : UInt8) : Bool :=
  (0x20 ≤ b && b ≠ 0x7F) || b == 0x09

/-- The bytes are a legal header value. -/
def isHeaderValue (bytes : List UInt8) : Bool :=
  bytes.all isHeaderByte

/-- A header field. -/
structure Field where
  /-- The name, in lower case. -/
  name : String
  /-- The value. -/
  value : List UInt8
  deriving DecidableEq, Repr

/-- The header fields of a message, in order. -/
abbrev Headers : Type := List Field

namespace Headers

/-- The first value of a name, which may be written in any case. -/
def first? (headers : Headers) (name : String) : Option (List UInt8) := do
  let name ← headerName? name
  let field ← headers.find? fun f => f.name == name
  return field.value

/-- Adds a field at the end. -/
def add (headers : Headers) (name : String) (value : List UInt8) : Headers :=
  headers ++ [⟨name, value⟩]

/-- Gives a name one value in place of all that it has. -/
def replace (headers : Headers) (name : String) (value : List UInt8) : Headers :=
  if headers.any fun f => f.name == name then
    match headers with
    | [] => []
    | f :: r =>
      if f.name == name then ⟨name, value⟩ :: r.filter (fun g => !(g.name == name))
      else f :: replace r name value
  else headers.add name value

end Headers

/-- A value of visible ASCII characters, spaces and tabs as text. -/
def headerText? (value : List UInt8) : Option String :=
  if value.all fun b => (0x20 ≤ b && b < 0x7F) || b == 0x09 then
    some (String.ofList (value.map fun b => Char.ofNat b.toNat))
  else none

end LivePages.Http
