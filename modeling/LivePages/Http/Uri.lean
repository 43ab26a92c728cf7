import LivePages.Text.Percent
import LivePages.Text.Split

/-!
# Request targets

The target of a request: a path with a query, an absolute address, a bare authority, or `*`.

## Main definitions

* `Uri` — a target taken apart.
* `Uri.parse` — reads one.
* `Uri.path`, `Uri.render` — its path, and its text.
-/

namespace LivePages.Http

/-- Why a text is not a request target. -/
inductive UriError where
  | empty
  | tooLong
  | invalidCharacter
  | invalidAuthority
  /-- A text with neither a scheme nor a leading slash has more than an authority. -/
  | invalidFormat
  | schemeTooLong
  deriving DecidableEq, Repr

/-- The wording of an error. -/
def UriError.message : UriError → String
  | .empty => "empty string"
  | .tooLong => "uri too long"
  | .invalidCharacter => "invalid uri character"
  | .invalidAuthority => "invalid authority"
  | .invalidFormat => "invalid format"
  | .schemeTooLong => "scheme too long"

/-- A request target. -/
structure Uri where
  /-- The scheme; `none` unless the target is an absolute address. -/
  scheme : Option String := none
  /-- The authority, or nothing. -/
  authority : String := ""
  /-- The path as it is written. -/
  writtenPath : String := ""
  /-- What stands after the first question mark. -/
  query : Option String := none
  deriving DecidableEq, Repr

namespace Uri

/-- The most bytes in a target. -/
def limit : Nat := 65534

/-- The most characters in a scheme. -/
def schemeLimit : Nat := 64

/-! ### The authority -/

/-- The characters of an authority, apart from the percent sign. -/
def isAuthorityChar (c : Char) : Bool :=
  c.isAlphanum || "!$&'()*+,-.:;=@[]_~".toList.contains c

/-- What ends an authority. -/
def endsAuthority (c : Char) : Bool :=
  c == '/' || c == '?' || c == '#'

/-- What is known about the part of an authority read so far. Colons and percent signs are
forgotten after an at sign, since they belonged to a user name, and after a closing bracket. -/
structure AuthorityState where
  /-- The number of colons. -/
  colons : Nat := 0
  /-- A bracket was opened. -/
  opened : Bool := false
  /-- A bracket was closed. -/
  closed : Bool := false
  /-- There was a percent sign. -/
  percent : Bool := false

/-- The most colons read in a row, those of an address of eight groups and of its port. -/
def colonLimit : Nat := 8

/-- Reads one character of an authority. -/
def AuthorityState.read (s : AuthorityState) (c : Char) : Except UriError AuthorityState :=
  if c = ':' then
    if s.colons ≥ colonLimit then .error .invalidAuthority
    else .ok { s with colons := s.colons + 1 }
  else if c = '[' then
    if s.percent || s.opened then .error .invalidAuthority else .ok { s with opened := true }
  else if c = ']' then
    if !s.opened || s.closed then .error .invalidAuthority
    else .ok { s with closed := true, colons := 0, percent := false }
  else if c = '@' then .ok { s with colons := 0, percent := false }
  else if c = '%' then .ok { s with percent := true }
  else if isAuthorityChar c then .ok s
  else .error .invalidCharacter

/-- Splits an authority from the text that begins with it. -/
def splitAuthority (text : List Char) : Except UriError (List Char × List Char) := do
  if text.isEmpty then throw .empty
  let authority := text.takeWhile fun c => !endsAuthority c
  let s ← authority.foldlM AuthorityState.read {}
  if s.opened != s.closed || s.colons > 1 || authority.getLast? = some '@' || s.percent then
    throw .invalidAuthority
  return (authority, text.drop authority.length)

/-! ### The path and the query -/

/-- The characters of a path. Any beyond ASCII is let through, and so are quotes and braces. -/
def isPathChar (c : Char) : Bool :=
  0x80 ≤ c.toNat || c.isAlphanum || "!\"$%&'()*+,-./:;=@[\\]^_\x7b|\x7d~".toList.contains c

/-- The characters of a query: all visible ones but quotes and angle brackets. -/
def isQueryChar (c : Char) : Bool :=
  0x21 ≤ c.toNat && c.toNat ≠ 0x7F && !"\"#<>".toList.contains c

/-- Reads a path and a query. A fragment is dropped. -/
def parsePath (text : List Char) : Except UriError (List Char × Option (List Char)) :=
  let path := text.takeWhile fun c => c ≠ '?' ∧ c ≠ '#'
  if !path.all isPathChar then .error .invalidCharacter
  else
    match text.drop path.length with
    | '?' :: rest =>
      let query := rest.takeWhile (· ≠ '#')
      if query.all isQueryChar then .ok (path, some query) else .error .invalidCharacter
    | _ => .ok (path, none)

/-- A target of a path and a query below a scheme and an authority. -/
def ofPath (scheme : Option String) (authority : List Char) (text : List Char) :
    Except UriError Uri := do
  let (path, query) ← parsePath text
  return ⟨scheme, String.ofList authority, String.ofList path, query.map String.ofList⟩

/-! ### The scheme -/

/-- The characters of a scheme. -/
def isSchemeChar (c : Char) : Bool :=
  c.isAlphanum || "+-.~".toList.contains c

/-- Splits a scheme and the `://` after it from a text, if the text begins with one. -/
def splitScheme (text : List Char) : Except UriError (Option (String × List Char)) :=
  let scheme := text.takeWhile isSchemeChar
  match text.drop scheme.length with
  | ':' :: '/' :: '/' :: rest =>
    let lower := String.ofList (scheme.map Char.toLower)
    if lower = "http" || lower = "https" then .ok (some (lower, rest))
    else if text.length ≤ 3 then .ok none
    else if scheme.length > schemeLimit then .error .schemeTooLong
    else .ok (some (String.ofList scheme, rest))
  | _ => .ok none

/-- Reads a target that does not begin with a slash. -/
def parseFull (text : List Char) : Except UriError Uri := do
  match ← splitScheme text with
  | none =>
    let (authority, rest) ← splitAuthority text
    if rest.isEmpty then return { authority := String.ofList authority }
    else throw .invalidFormat
  | some (scheme, rest) =>
    let (authority, rest) ← splitAuthority rest
    if authority.isEmpty then throw .invalidFormat else ofPath (some scheme) authority rest

/-- Reads a target of one character that is neither a slash nor a star. -/
def parseSingle (c : Char) : Except UriError Uri := do
  let (_, rest) ← splitAuthority [c]
  if rest.isEmpty then return { authority := String.singleton c } else throw .invalidCharacter

/-- Reads a target. -/
def parse (text : String) : Except UriError Uri :=
  if text.utf8ByteSize > limit then .error .tooLong
  else
    match text.toList with
    | [] => .error .empty
    | ['*'] => .ok { writtenPath := "*" }
    | '/' :: rest => ofPath none [] ('/' :: rest)
    | [c] => parseSingle c
    | text => parseFull text

/-! ### Views -/

/-- The path. An empty one below a scheme or in front of a query stands for the root. -/
def path (uri : Uri) : String :=
  if uri.writtenPath = "" && (uri.scheme.isSome || uri.query.isSome) then "/"
  else uri.writtenPath

/-- The path with percent codes decoded. -/
def decodedPath (uri : Uri) : String :=
  String.ofList (Text.Percent.decodeText uri.path.toList)

/-- The text of a target. -/
def render (uri : Uri) : String :=
  let scheme := match uri.scheme with
    | some s => s ++ "://"
    | none => ""
  let query := match uri.query with
    | some q => "?" ++ q
    | none => ""
  scheme ++ uri.authority ++ uri.path ++ query

end Uri

end LivePages.Http
