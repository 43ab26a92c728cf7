import LivePages.Files.Tree

/-!
# Walking a tree

All files below a directory, links followed. A link that leads back to a directory on the way to it
is not entered, so the walk ends: it is never nested more deeply than there are places.

## Main definitions

* `Visit`, `Tree.walk` — what the walk comes by; in every directory, what was made last comes
  first.
-/

namespace LivePages.Files

/-- What a walk comes by. -/
inductive Visit where
  /-- A file, under the path it was reached by, and when it was written. -/
  | file (path : String) (modified : Time)
  /-- A link that leads nowhere. -/
  | unreadable (path : String) (error : Error)
  /-- A link to a directory on the way to it. -/
  | loop (path ancestor : String)
  deriving DecidableEq, Repr

namespace Tree

/-- Where the link at a place leads. -/
def linkGoal (tree : Tree) (place : Place) : Except Error Place := do
  match ← tree.follow true linkLimit place.dropLast (place.getLast?.toList) with
  | .found place => .ok place
  | .missing _ => .error .notFound

/-- Visits everything in a directory that was reached by a path. The directories on the way are
given with the paths they were reached by, the nearest first. -/
def walkFrom (tree : Tree) : Nat → List (Place × String) → Place → String → List Visit
  | 0, _, _, _ => []
  | fuel + 1, way, place, path =>
    let way := (place, path) :: way
    (tree.names place).reverse.flatMap fun name =>
      let here := place ++ [name]
      let herePath := Path.join path name
      match tree.get? here with
      | none => []
      | some (.file _ modified _) => [.file herePath modified]
      | some (.directory _) => walkFrom tree fuel way here herePath
      | some (.link _) =>
        match tree.linkGoal here with
        | .error e => [.unreadable herePath e]
        | .ok goal =>
          match tree.get? goal with
          | some (.directory _) =>
            match way.find? fun p => p.1 == goal with
            | some p => [.loop herePath p.2]
            | none => walkFrom tree fuel way goal herePath
          | some node => [.file herePath node.modified]
          | none => []

/-- Visits everything below the directory that a path leads to. -/
def walk (tree : Tree) (path : String) : List Visit :=
  match tree.place path with
  | .ok place => tree.walkFrom (tree.nodes.length + 2) [] place path
  | .error _ => []

end Tree

end LivePages.Files
