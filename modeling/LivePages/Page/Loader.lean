import LivePages.Files.Error
import LivePages.Text.Quoted

/-!
# Loaders

Where the files named by a page come from. A loader has finitely many texts to give, whatever the
number of names they answer to; that bounds how deeply pages can be merged into each other.

## Main definitions

* `LoadError` — why a name does not load.
* `Loader` — names to texts.
* `Loader.ofPairs` — the texts in a list.
-/

namespace LivePages.Page

/-- Why a name does not load. -/
inductive LoadError where
  /-- There is no text of that name. -/
  | unknown (path : String)
  /-- The name leads out of the directory that files are loaded from. -/
  | outside (path : String)
  /-- The file cannot be read. -/
  | file (error : Files.Error)
  deriving DecidableEq, Repr

/-- The wording of an error. -/
def LoadError.message : LoadError → String
  | .unknown path => s!"Not found: {path}"
  | .outside path => s!"{Text.Quoted.quote path} is not a path inside the web root"
  | .file error => error.message

/-- The name of the class of an error. -/
def LoadError.kind : LoadError → String
  | .unknown _ => "NotFound"
  | .outside _ => "InvalidInput"
  | .file error => error.kind

/-- A source of files. -/
structure Loader where
  /-- The text of a name. -/
  load : String → Except LoadError String
  /-- Every text that a name can have. -/
  texts : List String
  /-- There is no other. -/
  mem_texts : ∀ {path text}, load path = .ok text → text ∈ texts

/-- The loader of the texts in a list of names and texts. -/
def Loader.ofPairs (pairs : List (String × String)) : Loader where
  load path :=
    match pairs.find? fun p => p.1 == path with
    | some p => .ok p.2
    | none => .error (.unknown path)
  texts := pairs.map (·.2)
  mem_texts := by
    intro path text h
    split at h
    · rename_i p hp
      cases h
      exact List.mem_map_of_mem (List.mem_of_find?_eq_some hp)
    · cases h

/-- Only the names in the list load. -/
theorem Loader.mem_of_load_ofPairs {pairs : List (String × String)} {path text : String}
    (h : (Loader.ofPairs pairs).load path = .ok text) : path ∈ pairs.map (·.1) := by
  simp only [ofPairs] at h
  split at h
  · rename_i p hp
    have hname : p.1 = path := by simpa using List.find?_some hp
    exact hname ▸ List.mem_map_of_mem (List.mem_of_find?_eq_some hp)
  · cases h

end LivePages.Page
