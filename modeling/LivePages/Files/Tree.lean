import LivePages.Files.Error
import LivePages.Files.Path
import LivePages.Text.Utf8

/-!
# File trees

A tree of files, directories and symbolic links in memory. Every place but the root is the list of
the names that lead to it.

## Main definitions

* `Node`, `Tree` — what stands at a place, and all places.
* `Tree.place` — where a path leads, links followed.
* `Tree.read`, `Tree.readText`, `Tree.write`, `Tree.copy`, `Tree.removeFile`, `Tree.makeDirs`,
  `Tree.list` — the operations on files and directories.
-/

namespace LivePages.Files

/-- A moment, in nanoseconds. -/
abbrev Time : Type := Nat

/-- What stands at a place. -/
inductive Node where
  /-- A file: its bytes, when it was written, and whether it may be run. -/
  | file (content : List UInt8) (modified : Time) (runnable : Bool)
  /-- A directory, and when it was made. -/
  | directory (modified : Time)
  /-- A symbolic link to a path. -/
  | link (target : String)
  deriving DecidableEq, Repr

/-- The time of a node; a link has none of its own. -/
def Node.modified : Node → Time
  | .file _ modified _ => modified
  | .directory modified => modified
  | .link _ => 0

/-- The node is a directory. -/
def Node.isDirectory : Node → Bool
  | .directory _ => true
  | _ => false

/-- The node is a file. -/
def Node.isFile : Node → Bool
  | .file .. => true
  | _ => false

/-- A place: the names that lead to it from the root. -/
abbrev Place : Type := List String

/-- All places below the root, each listed once. -/
structure Tree where
  /-- The places and what stands there. -/
  nodes : List (Place × Node) := []
  /-- The place that relative paths start from. -/
  here : Place := []
  deriving DecidableEq, Repr

namespace Tree

/-- What stands at a place. The root is a directory. -/
def get? (tree : Tree) (place : Place) : Option Node :=
  if place.isEmpty then some (.directory 0)
  else (tree.nodes.find? fun p => p.1 == place).map (·.2)

/-- Puts a node at a place. -/
def set (tree : Tree) (place : Place) (node : Node) : Tree :=
  let nodes :=
    if tree.nodes.any fun p => p.1 == place then
      tree.nodes.map fun p => if p.1 == place then (place, node) else p
    else tree.nodes ++ [(place, node)]
  { tree with nodes }

/-- Takes a place and everything below it out of the tree. -/
def erase (tree : Tree) (place : Place) : Tree :=
  { tree with nodes := tree.nodes.filter fun p => !place.isPrefixOf p.1 }

/-- The names directly below a place. -/
def names (tree : Tree) (place : Place) : List String :=
  tree.nodes.filterMap fun p =>
    match p.1.reverse with
    | [] => none
    | name :: above => if above.reverse = place then some name else none

/-! ### Following paths -/

/-- The most bytes in a name. -/
def nameLimit : Nat := 255

/-- The most bytes in a path. -/
def pathLimit : Nat := 4095

/-- The most links followed on one path. -/
def linkLimit : Nat := 40

/-- Where a path leads. -/
inductive Goal where
  /-- To a place where something stands. -/
  | found (place : Place)
  /-- To a name that is missing in an existing directory. -/
  | missing (place : Place)
  deriving DecidableEq, Repr

/-- The segments to follow for a path; one that ends in a slash has to be a directory. -/
def steps (path : String) : List String :=
  let named := (Path.segments path).filter (· ≠ "")
  if path.toList.getLast? = some '/' then named ++ ["."] else named

/-- Follows segments from a place. The last segment is followed if it is a link only when `last`
holds; a link is followed by `onward`, from a place with the segments that stand for it. -/
def followWith (tree : Tree) (last : Bool) (onward : Place → List String → Except Error Goal) :
    Place → List String → Except Error Goal
  | place, [] => .ok (.found place)
  | place, s :: rest =>
    match tree.get? place with
    | none => .error .notFound
    | some (.file ..) | some (.link _) => .error .notADirectory
    | some (.directory _) =>
      if s = "." then followWith tree last onward place rest
      else if s = ".." then followWith tree last onward place.dropLast rest
      else if s.utf8ByteSize > nameLimit then .error .nameTooLong
      else
        match tree.get? (place ++ [s]) with
        | none => if rest.isEmpty then .ok (.missing (place ++ [s])) else .error .notFound
        | some (.link target) =>
          if rest.isEmpty && !last then .ok (.found (place ++ [s]))
          else onward (if Path.isAbsolute target then [] else place) (steps target ++ rest)
        | some _ => followWith tree last onward (place ++ [s]) rest

/-- Follows segments from a place. The number counts the links that may still be followed. -/
def follow (tree : Tree) (last : Bool) : Nat → Place → List String → Except Error Goal
  | 0 => followWith tree last fun _ _ => .error .tooManyLinks
  | links + 1 => followWith tree last (follow tree last links)

/-- The place that a path starts from. -/
def start (tree : Tree) (path : String) : Place :=
  if Path.isAbsolute path then [] else tree.here

/-- Where a path leads. -/
def goal (tree : Tree) (last : Bool) (path : String) : Except Error Goal :=
  if path.toList.contains '\x00' then .error .nulInPath
  else if path = "" then .error .notFound
  else if path.utf8ByteSize > pathLimit then .error .nameTooLong
  else follow tree last linkLimit (tree.start path) (steps path)

/-- The place that a path leads to. -/
def place (tree : Tree) (path : String) : Except Error Place := do
  match ← goal tree true path with
  | .found place => .ok place
  | .missing _ => .error .notFound

/-- What stands where a path leads. -/
def stat (tree : Tree) (path : String) : Except Error Node := do
  match tree.get? (← tree.place path) with
  | some node => .ok node
  | none => .error .notFound

/-- The path leads to a directory. -/
def isDirectory (tree : Tree) (path : String) : Bool :=
  match tree.stat path with
  | .ok node => node.isDirectory
  | .error _ => false

/-- The path leads to a file. -/
def isFile (tree : Tree) (path : String) : Bool :=
  match tree.stat path with
  | .ok node => node.isFile
  | .error _ => false

/-- The absolute path of the place that a path leads to, without links and dots. -/
def resolved (tree : Tree) (path : String) : Except Error String := do
  return "/" ++ "/".intercalate (← tree.place path)

/-! ### Files -/

/-- The bytes of a file. -/
def read (tree : Tree) (path : String) : Except Error (List UInt8) := do
  match ← tree.stat path with
  | .file content _ _ => .ok content
  | _ => .error .isADirectory

/-- The text of a file. -/
def readText (tree : Tree) (path : String) : Except Error String := do
  match Text.Utf8.toString? (← tree.read path) with
  | some text => .ok text
  | none => .error .invalidText

/-- The texts of all files that hold text. -/
def texts (tree : Tree) : List String :=
  tree.nodes.filterMap fun p =>
    match p.2 with
    | .file content _ _ => Text.Utf8.toString? content
    | _ => none

/-- Writes a file at a time, in place of what it held before. -/
def write (tree : Tree) (path : String) (content : List UInt8) (now : Time) :
    Except Error Tree := do
  match ← goal tree true path with
  | .missing place => .ok (tree.set place (.file content now false))
  | .found place =>
    match tree.get? place with
    | some (.file _ _ runnable) => .ok (tree.set place (.file content now runnable))
    | _ => .error .isADirectory

/-- Copies a file with its permission. -/
def copy (tree : Tree) (source target : String) (now : Time) : Except Error Tree := do
  match ← tree.stat source with
  | .file content _ runnable =>
    match ← goal tree true target with
    | .missing place => .ok (tree.set place (.file content now runnable))
    | .found place =>
      match tree.get? place with
      | some (.file ..) => .ok (tree.set place (.file content now runnable))
      | _ => .error .isADirectory
  | _ => .error .invalidArgument

/-- Changes the time of what a path leads to. -/
def touch (tree : Tree) (path : String) (time : Time) : Except Error Tree := do
  let place ← tree.place path
  match tree.get? place with
  | some (.file content _ runnable) => .ok (tree.set place (.file content time runnable))
  | some (.directory _) => .ok (tree.set place (.directory time))
  | _ => .ok tree

/-- Gives or takes the permission to run a file. -/
def permit (tree : Tree) (path : String) (runnable : Bool) : Except Error Tree := do
  let place ← tree.place path
  match tree.get? place with
  | some (.file content modified _) => .ok (tree.set place (.file content modified runnable))
  | _ => .ok tree

/-- Removes a file or link. -/
def removeFile (tree : Tree) (path : String) : Except Error Tree := do
  match ← goal tree false path with
  | .missing _ => .error .notFound
  | .found place =>
    match tree.get? place with
    | some (.directory _) => .error .isADirectory
    | _ => .ok (tree.erase place)

/-- Makes a link. -/
def makeLink (tree : Tree) (path target : String) : Except Error Tree := do
  match ← goal tree false path with
  | .missing place => .ok (tree.set place (.link target))
  | .found _ => .error .alreadyExists

/-! ### Directories -/

/-- Makes one directory. -/
def makeDir (tree : Tree) (path : String) (now : Time) : Except Error Tree := do
  let bare := String.ofList (path.toList.reverse.dropWhile (· == '/')).reverse
  match ← goal tree false (if bare = "" then path else bare) with
  | .missing place => .ok (tree.set place (.directory now))
  | .found _ => .error .alreadyExists

/-- The directory that a path would be made in is missing. -/
def isOrphan (tree : Tree) (path : String) (now : Time) : Bool :=
  match tree.makeDir path now with
  | .error .notFound => true
  | _ => false

/-- Makes one directory, unless there is one already. -/
def ensureDir (tree : Tree) (path : String) (now : Time) : Except Error Tree :=
  match tree.makeDir path now with
  | .ok tree => .ok tree
  | .error e => if tree.isDirectory path then .ok tree else .error e

/-- Makes a directory and those above it that are missing; `above` are the paths of those, nearest
first. -/
def makeDirsBelow (tree : Tree) (now : Time) : String → List String → Except Error Tree
  | path, [] => if tree.isOrphan path now then .error .notFound else tree.ensureDir path now
  | path, p :: above =>
    if tree.isOrphan path now then do
      let tree ← makeDirsBelow tree now p above
      tree.ensureDir path now
    else tree.ensureDir path now

/-- The paths above a path, nearest first; the bound is the number of components. -/
def ancestors : Nat → String → List String
  | 0, _ => []
  | fuel + 1, path =>
    match Path.parent? path with
    | none => []
    | some p => p :: ancestors fuel p

/-- Makes a directory and those above it that are missing. -/
def makeDirs (tree : Tree) (path : String) (now : Time) : Except Error Tree :=
  if path = "" then .ok tree
  else tree.makeDirsBelow now path (ancestors (Path.components path).length path)

/-- The names in a directory, sorted. -/
def list (tree : Tree) (path : String) : Except Error (List String) := do
  let place ← tree.place path
  match tree.get? place with
  | some (.directory _) => .ok ((tree.names place).mergeSort fun a b => a ≤ b)
  | _ => .error .notADirectory

/-- Removes a directory and everything in it. -/
def removeDirs (tree : Tree) (path : String) : Except Error Tree := do
  match ← goal tree false path with
  | .missing _ => .error .notFound
  | .found place => .ok (tree.erase place)

/-! ### Lemmas -/

/-- What stands at a place other than the root is listed. -/
theorem mem_nodes_of_get? {tree : Tree} {place : Place} {node : Node}
    (h : tree.get? place = some node) (hp : place ≠ []) : (place, node) ∈ tree.nodes := by
  unfold get? at h
  rw [if_neg (by simpa using hp)] at h
  obtain ⟨p, hfind, rfl⟩ := Option.map_eq_some_iff.1 h
  have heq : p.1 = place := by simpa using List.find?_some hfind
  exact heq ▸ List.mem_of_find?_eq_some hfind

/-- A text that can be read is one of the texts of the tree. -/
theorem mem_texts_of_readText {tree : Tree} {path text : String}
    (h : tree.readText path = .ok text) : text ∈ tree.texts := by
  unfold readText read stat at h
  cases hplace : tree.place path with
  | error e => simp [hplace, bind, Except.bind] at h
  | ok place =>
    simp only [hplace, bind, Except.bind] at h
    cases hget : tree.get? place with
    | none => simp [hget] at h
    | some node =>
      simp only [hget] at h
      cases node with
      | directory m => simp at h
      | link t => simp at h
      | file content m r =>
        simp only at h
        have hp : place ≠ [] := by
          rintro rfl
          simp [get?] at hget
        have hmem := mem_nodes_of_get? hget hp
        cases htext : Text.Utf8.toString? content with
        | none => simp [htext] at h
        | some t =>
          simp only [htext, Except.ok.injEq] at h
          subst h
          exact List.mem_filterMap.2 ⟨_, hmem, htext⟩

end Tree

end LivePages.Files
