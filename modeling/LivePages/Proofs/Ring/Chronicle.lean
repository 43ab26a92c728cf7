import Mathlib.Data.Nat.Notation
import Mathlib.Logic.Function.Basic
import LivePages.Build.Page
import LivePages.Ring.Machine

/-!
# The Chronicle of Builds

A ring does not remember what its executables were built from. The chronicle of a run does: it
notes when a rotation scans the pages, when the build reads each of them and what it reads, when
the executable is put to its place, and which backend is started from it.

Whether an executable is out of date is decided by times. So that this can be relied on, a run is
*punctual* when every page that is written and every executable that is installed is stamped with
the time at which this happens, which is a different one for every move.

## Main definitions

* `Version`, `Machine.versions`: the pages as they stand at some moment.
* `Reading`, `Draft`, `Edition`: what a build reads, and when.
* `Books`, `Machine.books`: the chronicle of a run.
* `Machine.Timely`, `Machine.punctual`: the times of pages and executables are right.
-/

namespace LivePages.Ring

/-! ### Pages and executables -/

/-- A page as it stands at some moment. -/
structure Version where
  /-- The path below the web root. -/
  path : String
  /-- When it was written. -/
  modified : Files.Time
  /-- What it says, if it can be read. -/
  text : Option String
  deriving DecidableEq

/-- A page that a scan has found, with its text. -/
def Machine.version (s : Machine) (page : Site.PageFile) : Version :=
  ⟨page.path, page.modified,
    (s.tree.readText (Files.Path.join s.config.webRoot page.path)).toOption⟩

@[simp] theorem Machine.path_version (s : Machine) (page : Site.PageFile) :
    (s.version page).path = page.path := rfl
@[simp] theorem Machine.text_version (s : Machine) (page : Site.PageFile) :
    (s.version page).text =
      (s.tree.readText (Files.Path.join s.config.webRoot page.path)).toOption := by
  rw [version]

/-- All pages that a scan finds at a moment. -/
def Machine.versions (s : Machine) : List Version :=
  match Site.scan s.tree s.config.webRoot with
  | .ok found => found.pages.map s.version
  | .error _ => []

/-- When the executable of a slot was written, if there is one. -/
def Machine.exeTime (s : Machine) (i : ℕ) : Option Files.Time := do
  let slot ← s.slots[i]?
  let node ← (s.tree.stat slot.exePath).toOption
  return node.modified

/-! ### What builds read -/

/-- A page is read for a build. -/
structure Reading where
  /-- The path of the page. -/
  path : String
  /-- When it is read. -/
  time : Files.Time
  /-- The version that stands there. -/
  version : Option Version
  /-- What the build takes for its text, if it finds one. -/
  text : Option String

/-- A build on its way. -/
structure Draft where
  /-- When the pages were scanned. -/
  scanned : Files.Time := 0
  /-- The pages that were found. -/
  found : List Version := []
  /-- The pages that have been read. -/
  readings : List Reading := []

/-- What an executable was built from. -/
structure Edition extends Draft where
  /-- When it was put to its place. -/
  installed : Files.Time

/-- The reading of the page of a path. -/
def Machine.reading (s : Machine) (path : String) : Reading where
  path := path
  time := s.clock
  version := s.versions.find? fun v => v.path == path
  text :=
    ((Site.loader s.tree s.config.webRoot).load (Build.loadName (Site.pageUrl path))).toOption

@[simp] theorem Machine.path_reading (s : Machine) (path : String) :
    (s.reading path).path = path := rfl
@[simp] theorem Machine.time_reading (s : Machine) (path : String) :
    (s.reading path).time = s.clock := rfl
@[simp] theorem Machine.version_reading (s : Machine) (path : String) :
    (s.reading path).version = s.versions.find? fun v => v.path == path := rfl

/-- What a build takes for the text of a page is what the compiler of pages loads. -/
theorem Machine.text_reading (s : Machine) (path : String) :
    (s.reading path).text =
      ((Site.loader s.tree s.config.webRoot).load
        (Build.loadName (Site.pageUrl path))).toOption := by
  rw [reading]

/-! ### The books -/

/-- The chronicle of builds. -/
structure Books where
  /-- The build of the present rotation, or of the last one. -/
  draft : Draft := {}
  /-- What was put last into each slot. -/
  editions : ℕ → Option Edition := fun _ => none
  /-- What each backend was started from. -/
  launched : ℕ → Option Edition := fun _ => none

/-- The statement has put an executable to its place. -/
def Statement.installs : Statement → Option Statement → Bool
  | .install _ _, some .enterLaunching => true
  | _, _ => false

/-- The books after a statement of the task that has the ring, which goes on to another one. -/
def Books.after (b : Books) (s : Machine) : Statement → Option Statement → Books
  | .scan, some (.check _) => { b with draft := { scanned := s.clock, found := s.versions } }
  | .generate (r :: _) _, some (.generate _ _) =>
    { b with draft.readings := b.draft.readings ++ [s.reading r.path] }
  | .install _ _, some .enterLaunching =>
    let edition : Edition := { b.draft with installed := s.clock }
    { b with editions := Function.update b.editions s.position.current (some edition) }
  | .start, some (.examine backend) =>
    { b with launched := Function.update b.launched backend (b.editions s.position.current) }
  | _, _ => b

/-- The books after a move. -/
def Books.note (b : Books) (s t : Machine) : Move → Books
  | .proceed _ =>
    match s.task with
    | some st => b.after s st t.task
    | none => b
  | _ => b

/-- The books after a sequence of moves. -/
def Machine.books (s : Machine) (b : Books) : List Move → Books
  | [] => b
  | m :: r =>
    match s.apply m with
    | some t => t.books (b.note s t m) r
    | none => b

/-! ### Punctual runs -/

/-- The move from one state to another has put an executable to its place. -/
def Machine.installs (s t : Machine) : Bool :=
  match s.task with
  | some st => st.installs t.task
  | none => false

/-- When the executable of a slot has to be written after a move: it is stamped with the time of
the move if it has been installed, and stays as it was otherwise. -/
def Machine.dueTime (s t : Machine) (i : ℕ) : Option Files.Time :=
  if s.installs t ∧ i = s.position.current then some s.clock else s.exeTime i

/-- What a move writes is stamped with the time of the move. Pages may be written and deleted by
anybody at any time; executables are installed by rotations only, and may be deleted. -/
structure Machine.Timely (s t : Machine) : Prop where
  /-- A page stands as before, or it was written by the move. -/
  pages : ∀ v ∈ t.versions, v ∈ s.versions ∨ v.modified = s.clock
  /-- An executable stands as before, or it was installed by the move. -/
  executables : ∀ i < t.slots.length, t.exeTime i = none ∨ t.exeTime i = s.dueTime t i

instance (s t : Machine) : Decidable (s.Timely t) :=
  decidable_of_iff
    ((∀ v ∈ t.versions, v ∈ s.versions ∨ v.modified = s.clock) ∧
      ∀ i < t.slots.length, t.exeTime i = none ∨ t.exeTime i = s.dueTime t i)
    ⟨fun h => ⟨h.1, h.2⟩, fun h => ⟨h.pages, h.executables⟩⟩

/-- All moves of a run stamp what they write. -/
def Machine.punctual (s : Machine) : List Move → Bool
  | [] => true
  | m :: r =>
    match s.apply m with
    | some t => decide (s.Timely t) && t.punctual r
    | none => true

end LivePages.Ring
