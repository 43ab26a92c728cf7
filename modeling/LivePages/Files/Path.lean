import LivePages.Text.Split

/-!
# Paths

A path is a text whose segments are separated by slashes. Two paths name the same place when they
have the same components: repeated and trailing slashes do not count, nor does a segment `.` other
than one at the very start.

## Main definitions

* `Path.segments`, `Path.components` — what a path is made of.
* `Path.compare` — the order of paths by components.
* `Path.join`, `Path.parent?`, `Path.fileName?`, `Path.extension?` — paths from paths.
-/

namespace LivePages.Files.Path

/-- The pieces between slashes, empty ones included. -/
def segments (path : String) : List String :=
  (Text.splitOn '/' path.toList).map String.ofList

/-- The path starts at the root. -/
def isAbsolute (path : String) : Bool :=
  path.toList.head? == some '/'

/-- A component of a path, in increasing order. -/
inductive Component where
  /-- The root, at the start of an absolute path. -/
  | root
  /-- A dot at the start of a path. -/
  | here
  /-- Two dots. -/
  | up
  /-- A name. -/
  | name (text : String)
  deriving DecidableEq, Repr

/-- The component of a segment after the first one. -/
def component? (segment : String) : Option Component :=
  if segment = "" ∨ segment = "." then none
  else if segment = ".." then some .up
  else some (.name segment)

/-- The components of a path. -/
def components (path : String) : List Component :=
  let rest := (segments path).filterMap component?
  if isAbsolute path then .root :: rest
  else if (segments path).head? = some "." then .here :: rest
  else rest

/-- The order of components. -/
def Component.compare : Component → Component → Ordering
  | .root, .root => .eq
  | .root, _ => .lt
  | _, .root => .gt
  | .here, .here => .eq
  | .here, _ => .lt
  | _, .here => .gt
  | .up, .up => .eq
  | .up, _ => .lt
  | _, .up => .gt
  | .name a, .name b => Ord.compare a b

/-- The order of component lists: the first difference decides, and a list comes before those that
continue it. -/
def compareComponents : List Component → List Component → Ordering
  | [], [] => .eq
  | [], _ :: _ => .lt
  | _ :: _, [] => .gt
  | a :: r, b :: s => (a.compare b).then (compareComponents r s)

/-- The order of paths by components. -/
def compare (a b : String) : Ordering :=
  compareComponents (components a) (components b)

/-- The paths have the same components. -/
def same (a b : String) : Bool :=
  components a == components b

/-- The path that `path` is when it is looked at from `base`. -/
def join (base path : String) : String :=
  if isAbsolute path then path
  else if base = "" ∨ base.toList.getLast? = some '/' then base ++ path
  else base ++ "/" ++ path

/-- The text of components. -/
def ofComponents : List Component → String
  | .root :: rest => "/" ++ Text.joined "/" (rest.map text)
  | rest => Text.joined "/" (rest.map text)
where
  /-- The text of a component. -/
  text : Component → String
    | .root => "/"
    | .here => "."
    | .up => ".."
    | .name s => s

/-- The path without its last component; the root and the empty path have none. -/
def parent? (path : String) : Option String :=
  match (components path).reverse with
  | [] | [.root] => none
  | _ :: rest => some (ofComponents rest.reverse)

/-- The name at the end of a path. -/
def fileName? (path : String) : Option String :=
  match (components path).getLast? with
  | some (.name s) => some s
  | _ => none

/-- What stands after the last dot of the name, unless nothing stands before that dot. -/
def extension? (path : String) : Option String := do
  let name ← fileName? path
  let (stem, extension) ← Text.splitLast? '.' name.toList
  if stem.isEmpty then none else some (String.ofList extension)

/-- The path below a directory, by components. -/
def below? (directory path : String) : Option String :=
  (Text.withoutPrefix? (components directory) (components path)).map ofComponents

end LivePages.Files.Path
