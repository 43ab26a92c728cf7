import LivePages.Files.Path

/-!
# Symbols of pages

A page's source is written to a file named after the page: its path with every separator replaced.
Two paths can come out the same; then the path of higher rank keeps the symbol, and the other one
tries again with an underscore added.

The symbols are handed out one request after the other. Who gets which does not depend on the order
of the requests: it is as if the paths chose in the order of their ranks.

## Main definitions

* `baseSymbol`, `pageUrl` — a path as a symbol, and as an address.
* `outranks` — which of two paths keeps a symbol.
* `assign` — hands out symbols to a queue of requests.
* `allocate` — the symbols of a list of paths.
-/

namespace LivePages.Site

/-- The path with every separator replaced by an underscore. -/
def baseSymbol (path : String) : String :=
  String.ofList (path.toList.map fun c => if c = '/' ∨ c = '\\' then '_' else c)

/-- The address of a page: its path with slashes only, from the root. -/
def pageUrl (path : String) : String :=
  let slashed := path.toList.map fun c => if c = '\\' then '/' else c
  String.ofList ('/' :: slashed.dropWhile (· = '/'))

/-- The longer path, or the greater one of two of the same length, keeps a symbol. -/
def outranks (a b : String) : Bool :=
  b.utf8ByteSize < a.utf8ByteSize || (a.utf8ByteSize == b.utf8ByteSize && b < a)

/-- A path that asks for a symbol. -/
structure Request where
  /-- The path. -/
  path : String
  /-- The symbol it asks for. -/
  symbol : String
  deriving DecidableEq, Repr

/-- The request that follows one that was turned down. -/
def Request.next (r : Request) : Request :=
  ⟨r.path, r.symbol ++ "_"⟩

/-- The first request of a path. -/
def Request.first (path : String) : Request :=
  ⟨path, baseSymbol path⟩

/-- Answers one request: the granted requests afterwards, and the request that was turned down, if
one was. -/
def answer (granted : List Request) (r : Request) : List Request × Option Request :=
  match granted.find? fun g => g.symbol == r.symbol with
  | none => (r :: granted, none)
  | some g =>
    if outranks r.path g.path then (r :: granted.erase g, some g.next) else (granted, some r.next)

/-- Answers the requests of a queue, and those that follow from them at its end. The bound is on
the number of answers. -/
def assign : Nat → List Request → List Request → Option (List Request)
  | _, granted, [] => some granted
  | 0, _, _ :: _ => none
  | fuel + 1, granted, r :: queue =>
    match answer granted r with
    | (granted, none) => assign fuel granted queue
    | (granted, some again) => assign fuel granted (queue ++ [again])

/-- Puts a path into a list sorted by components, in place of one with the same components. -/
def insertPath (path : String) : List String → List String
  | [] => [path]
  | p :: r =>
    match Files.Path.compare path p with
    | .lt => path :: p :: r
    | .eq => path :: r
    | .gt => p :: insertPath path r

/-- The paths that differ in their components, sorted; of equal ones the last is kept. -/
def distinctPaths (paths : List String) : List String :=
  paths.foldl (fun sorted path => insertPath path sorted) []

/-- Puts a granted request into a list sorted by symbols. -/
def insertGranted (g : Request) : List Request → List Request
  | [] => [g]
  | h :: r => if g.symbol ≤ h.symbol then g :: h :: r else h :: insertGranted g r

/-- The symbols of the distinct paths of a list, sorted. Every answer but the last one to a path is
a refusal, and a path is refused at most once for every other path, which bounds the answers. -/
def allocate (paths : List String) : List Request :=
  let distinct := distinctPaths paths
  let granted := (assign (distinct.length * distinct.length) [] (distinct.map .first)).getD []
  granted.foldl (fun sorted g => insertGranted g sorted) []

end LivePages.Site
