import LivePages.Files.Tree
import LivePages.Front.Route
import LivePages.Json.Value
import LivePages.Net.Network

/-!
# The front end

The only endpoint that visitors see. A page is asked for at the backend that is live at that
moment, other files are served from the web root.

## Main definitions

* `FrontEnd` — what the front end answers from.
* `forwarded` — the request that asks a backend for a page.
* `FrontEnd.answer` — the answer to a request.
-/

namespace LivePages.Front

/-- What the front end answers from. -/
structure FrontEnd where
  /-- The files. -/
  tree : Files.Tree
  /-- The web root. -/
  webRoot : String
  /-- The address of the live backend. -/
  live : Option String := none
  /-- The status shown, if it is more than the live address. -/
  status : Option Json.Value := none
  /-- The way to the backends. -/
  network : Net.Network

/-! ### Pages -/

/-- Why a page cannot be had from the backend. -/
inductive ForwardError where
  /-- The address and the path make no target. -/
  | badTarget (error : Http.UriError)
  /-- The address is no header value. -/
  | badHost
  /-- The backend cannot be reached. -/
  | noConnection
  deriving DecidableEq, Repr

/-- The wording of an error. -/
def ForwardError.message : ForwardError → String
  | .badTarget error => error.message
  | .badHost => Http.RequestError.invalidHeaderValue.message
  | .noConnection => "client error (Connect)"

/-- The characters of a path that are not written as percent codes. -/
def isPathSafe (c : Char) : Bool :=
  Text.Percent.isAlphanumeric c || "/-_.~".toList.contains c

/-- The text of the target of a page at a backend. -/
def targetText (addr url : String) (query : Option String) : String :=
  let path := String.ofList (Text.Percent.encode isPathSafe url.toList)
  match query with
  | some query => s!"http://{addr}{path}?{query}"
  | none => s!"http://{addr}{path}"

/-- The request that asks the backend at an address for a page. All but the target and the host is
as the visitor sent it. -/
def forwarded (addr url : String) (request : Http.Request) :
    Except ForwardError Http.Request := do
  let uri ← (Http.Uri.parse (targetText addr url request.uri.query)).mapError .badTarget
  let host := Text.Utf8.ofString addr
  if !Http.isHeaderValue host then throw .badHost
  return { request with uri, headers := request.headers.replace "host" host }

/-- The answer of the backend at an address to a request for a page. -/
def exchange (network : Net.Network) (addr url : String) (request : Http.Request) :
    Except ForwardError (Http.Response × List Log.Line) := do
  let outgoing ← forwarded addr url request
  match network.peer outgoing.uri.authority with
  | .ok peer => return peer outgoing
  | .error _ => throw .noConnection

/-- The answer to a request for a page. -/
def FrontEnd.page (front : FrontEnd) (url : String) (request : Http.Request) :
    Http.Response × List Log.Line :=
  match front.live with
  | none => (.plain 503 "No backend is running yet", [])
  | some addr =>
    match exchange front.network addr url request with
    | .ok answer => answer
    | .error e =>
      (.plain 500 s!"Internal error accessing {url}: {e.message}",
        [Log.warn s!"Error accessing {url}: {e.message}"])

/-! ### Files -/

/-- The answer to a request for what there is not. -/
def notFound : Http.Response :=
  .plain 404 "Not found"

/-- The answer to a request for a file below the web root. -/
def FrontEnd.file (front : FrontEnd) (path : String) : Http.Response × List Log.Line :=
  match front.tree.read (Files.Path.join front.webRoot path) with
  | .ok bytes => (.ofType 200 (contentType path) bytes, [])
  | .error .notFound => (notFound, [])
  | .error e =>
    (.plain 500 "Internal error", [Log.warn s!"Reading {path} failed: {e.message}"])

/-! ### The answer -/

/-- The path that tells whether the front end is there. -/
def healthPath : String := "/__health"

/-- The path that shows the status. -/
def statusPath : String := "/__status"

/-- The status as a document. -/
def FrontEnd.statusValue (front : FrontEnd) : Json.Value :=
  front.status.getD (.object [("live", .ofOption .text front.live)])

/-- Lets only those methods through that ask for a document, and sends only its head to those who
ask for no more. -/
def documentOnly (request : Http.Request) (response : Http.Response) : Http.Response :=
  if request.method = "GET" then response
  else if request.method = "HEAD" then { response with body := [] }
  else ⟨405, [⟨"allow", Text.Utf8.ofString "GET,HEAD"⟩], []⟩

/-- The answer to a request, and the log. -/
def FrontEnd.answer (front : FrontEnd) (request : Http.Request) :
    Http.Response × List Log.Line :=
  if request.uri.path = healthPath then (documentOnly request (.plain 200 "OK"), [])
  else if request.uri.path = statusPath then
    let document := Text.Utf8.ofString front.statusValue.render
    (documentOnly request (.ofType 200 "application/json" document), [])
  else
    match classify request.uri.decodedPath with
    | .page url => front.page url request
    | .file path => front.file path
    | .notFound => (notFound, [])

end LivePages.Front
