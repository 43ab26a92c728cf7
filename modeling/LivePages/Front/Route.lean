import LivePages.Site.WebRoot

/-!
# Routes

Where the front end takes the answer to a request from, decided by the path alone.

## Main definitions

* `Route`, `classify` — the routes, and the route of a decoded path.
* `contentType` — the type of a file by its extension.
-/

namespace LivePages.Front

/-- Where the answer to a request comes from. -/
inductive Route where
  /-- The live backend, asked for a page by its address. -/
  | page (url : String)
  /-- A file below the web root. -/
  | file (path : String)
  | notFound
  deriving DecidableEq, Repr

/-- The page of a directory. -/
def indexPage : String := "index.rsp"

/-- The extensions of the files served as they are, and their types. -/
def fileTypes : List (String × String) :=
  [("jpg", "image/jpeg"), ("jpeg", "image/jpeg"), ("jpe", "image/jpeg"), ("png", "image/png"),
    ("gif", "image/gif"), ("webp", "image/webp"), ("zip", "application/zip"),
    ("js", "text/javascript; charset=utf-8"), ("css", "text/css; charset=utf-8")]

/-- What stands after the last dot of the last segment, in lower case, unless nothing stands before
that dot. -/
def extension? (path : List Char) : Option String := do
  let name := (Text.splitOn '/' path).getLastD []
  let (stem, extension) ← Text.splitLast? '.' name
  if stem.isEmpty then none else some (String.ofList (Site.asciiLower extension))

/-- Some segment of the path leads upwards or holds a backslash. -/
def isUnsafe (path : List Char) : Bool :=
  (Text.splitOn '/' path).any fun segment => segment == ['.', '.'] || segment.contains '\\'

/-- The route of a decoded path. -/
def classify (path : String) : Route :=
  let whole := if path.toList.getLast? = some '/' then path ++ indexPage else path
  match extension? whole.toList with
  | none => .notFound
  | some extension =>
    if extension = Site.pageExtension then .page whole
    else if !(fileTypes.map (·.1)).contains extension then .notFound
    else if isUnsafe whole.toList then .notFound
    else .file (String.ofList (whole.toList.dropWhile (· = '/')))

/-- The type of a file by its extension. -/
def contentType (path : String) : String :=
  match (extension? path.toList).bind fun e => fileTypes.find? fun t => t.1 == e with
  | some (_, type) => type
  | none => "application/octet-stream"

end LivePages.Front
