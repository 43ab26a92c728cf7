import LivePages.Backend.Reply
import LivePages.Backend.Request

/-!
# The page table of a backend

Which page answers which path. A path is looked up as it is: neither its case nor a slash at its
end is changed.

## Main definitions

* `Handler`, `Outcome` — a compiled page, and how it ends.
* `Registry` — the table; `Registry.register`, `Registry.ofPages`, `Registry.lookup?`.
* `dispatch` — the answer to a request.
-/

namespace LivePages.Backend

/-- How the run of a page ends. -/
inductive Outcome where
  /-- The page is complete. -/
  | finished (reply : Reply)
  /-- The page broke off after it had written so much. -/
  | crashed (reply : Reply)

/-- A compiled page. -/
abbrev Handler : Type := Http.Request → Reply → Outcome

/-- A page table, each path listed once. -/
structure Registry where
  /-- The paths and their pages. -/
  pages : List (String × Handler) := []
  /-- What was reported about registrations. -/
  log : List Log.Line := []

namespace Registry

/-- The page of a path. -/
def lookup? (registry : Registry) (path : String) : Option Handler :=
  (registry.pages.find? fun p => p.1 == path).map (·.2)

/-- Enters a page, in place of one that the path had before. -/
def register (registry : Registry) (path : String) (handler : Handler) : Registry :=
  let entered := Log.info s!"Register path: {path}"
  match registry.lookup? path with
  | none => ⟨registry.pages ++ [(path, handler)], registry.log ++ [entered]⟩
  | some _ =>
    let twice := Log.warn s!"Path {path} registered twice, keeping the last handler"
    ⟨registry.pages.map fun p => if p.1 == path then (path, handler) else p,
      registry.log ++ [entered, twice]⟩

/-- The table of a list of pages. -/
def ofPages (pages : List (String × Handler)) : Registry :=
  pages.foldl (fun registry p => registry.register p.1 p.2) {}

/-- The number of paths. -/
def size (registry : Registry) : Nat :=
  registry.pages.length

/-- The paths, sorted. -/
def paths (registry : Registry) : List String :=
  (registry.pages.map (·.1)).mergeSort fun a b => a ≤ b

end Registry

/-- The answer to a request, and the log. -/
def dispatch (registry : Registry) (request : Http.Request) : Http.Response × List Log.Line :=
  let path := request.path
  match registry.lookup? path with
  | none => (.plain 404 s!"Not found: {path}", [])
  | some handler =>
    match handler request {} with
    | .finished reply => (reply.toResponse, reply.log)
    | .crashed reply =>
      (.plain 500 s!"Internal error rendering {path}",
        reply.log ++ [Log.error s!"Page {path} panicked"])

end LivePages.Backend
