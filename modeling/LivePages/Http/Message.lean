import LivePages.Http.Headers
import LivePages.Http.Uri

/-!
# Requests and responses

The messages of HTTP, with their bodies read completely.

## Main definitions

* `Request`, `Request.build` — a request, put together from parts that are checked.
* `Response`, `Response.plain` — a response, and one of plain text.
-/

namespace LivePages.Http

/-- Why parts do not make a request. -/
inductive RequestError where
  | invalidMethod
  | invalidUri (error : UriError)
  | invalidHeaderName
  | invalidHeaderValue
  deriving DecidableEq, Repr

/-- The wording of an error. -/
def RequestError.message : RequestError → String
  | .invalidMethod => "invalid HTTP method"
  | .invalidUri error => error.message
  | .invalidHeaderName => "invalid HTTP header name"
  | .invalidHeaderValue => "failed to parse header value"

/-- A request. -/
structure Request where
  /-- The method, whose case matters. -/
  method : String
  /-- The target. -/
  uri : Uri
  /-- The header fields. -/
  headers : Headers := []
  /-- The body. -/
  body : List UInt8 := []
  deriving DecidableEq, Repr

/-- The text is a legal method. -/
def isMethod (text : String) : Bool :=
  text ≠ "" && text.toList.all isTokenChar

namespace Request

/-- Adds a header field, name and value checked. -/
def addHeader (headers : Headers) (field : String × List UInt8) : Except RequestError Headers :=
  match headerName? field.1 with
  | none => .error .invalidHeaderName
  | some name =>
    if isHeaderValue field.2 then .ok (headers.add name field.2) else .error .invalidHeaderValue

/-- Puts a request together. The first part that is not legal is the one reported. -/
def build (method target : String) (fields : List (String × List UInt8)) (body : List UInt8) :
    Except RequestError Request := do
  if !isMethod method then throw .invalidMethod
  let uri ← (Uri.parse target).mapError .invalidUri
  let headers ← fields.foldlM addHeader []
  return { method, uri, headers, body }

end Request

/-- A response. -/
structure Response where
  /-- The status code. -/
  status : Nat := 200
  /-- The header fields. -/
  headers : Headers := []
  /-- The body. -/
  body : List UInt8 := []
  deriving DecidableEq, Repr

namespace Response

/-- A response of a content type. -/
def ofType (status : Nat) (type : String) (body : List UInt8) : Response :=
  ⟨status, [⟨"content-type", Text.Utf8.ofString type⟩], body⟩

/-- A response of plain text. -/
def plain (status : Nat) (text : String) : Response :=
  ofType status "text/plain; charset=utf-8" (Text.Utf8.ofString text)

end Response

end LivePages.Http
