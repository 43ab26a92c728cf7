import LivePages.Http.Message
import LivePages.Text.Form

/-!
# What a page sees of a request

## Main definitions

* `Request.path`, `Request.query?`, `Request.queryParam?` — the target, decoded.
* `Request.formValue?` — a parameter of the query or of a posted form.
* `Request.header?`, `Request.bodyText` — a header and the body as text.
-/

namespace LivePages.Http.Request

/-- The path, decoded: the form that pages are registered under. -/
def path (request : Request) : String :=
  request.uri.decodedPath

/-- The query as it is written. -/
def query? (request : Request) : Option String :=
  request.uri.query

/-- The first value of a parameter of the query, decoded. -/
def queryParam? (request : Request) (name : String) : Option String := do
  Text.Form.value? (Text.Utf8.ofString (← request.query?)) name

/-- The value of a header, if it is plain text. -/
def header? (request : Request) (name : String) : Option String := do
  headerText? (← request.headers.first? name)

/-- The content type of a posted form. -/
def formType : String := "application/x-www-form-urlencoded"

/-- The body is a posted form. Parameters of the content type may follow its name. -/
def isForm (request : Request) : Bool :=
  match request.header? "content-type" with
  | some type => formType.toList.isPrefixOf type.toList
  | none => false

/-- The value of a parameter of the query or, if it has none of that name, of a posted form. -/
def formValue? (request : Request) (name : String) : Option String :=
  match request.queryParam? name with
  | some value => some value
  | none => if request.isForm then Text.Form.value? request.body name else none

/-- The body as text. Bytes that are not text are replaced. -/
def bodyText (request : Request) : String :=
  Text.Utf8.toStringLossy request.body

end LivePages.Http.Request
