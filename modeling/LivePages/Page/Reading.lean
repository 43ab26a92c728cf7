import LivePages.Page.Notice
import LivePages.Page.Parts
import LivePages.Page.Scan

/-!
# Reading a page

A page is read in one pass, character by character. The characters of a run of text, or of the
body of a tag, are kept back until the run or the tag comes to its end; then they take effect on
the parts collected so far. What takes effect, and in which order, is what `scan` finds.

## Main definitions

* `Progress` — the parts collected so far, and what was reported.
* `Reading`, `Reading.take` — a page on its way, and what a character does to it.
* `read` — the effect of a page, if that of a closed tag is known.
-/

namespace LivePages.Page

/-- The parts collected so far, and the notices, in order. -/
structure Progress where
  /-- The parts. -/
  parts : Parts := {}
  /-- The notices. -/
  notices : List Notice := []
  deriving DecidableEq, Repr

namespace Progress

/-- Reports a notice. -/
def report (p : Progress) (notice : Notice) : Progress :=
  { p with notices := p.notices ++ [notice] }

/-- Changes the parts. -/
def update (p : Progress) (f : Parts → Parts) : Progress :=
  { p with parts := f p.parts }

/-- Takes in one item of an import list. -/
def addImport (p : Progress) (item : List Char) : Progress :=
  match Text.Quoted.read item with
  | .ok path => p.update (·.addImport (String.ofList path))
  | .error e => p.report (.badImport (String.ofList item) e)

end Progress

/-- Where the reading of a page stands. -/
inductive Stand where
  /-- In plain text. -/
  | text
  /-- In plain text, after a `<` that has no partner yet. -/
  | lessThan
  /-- After `<%`. -/
  | opened
  /-- In the body of a tag. -/
  | body
  /-- In the body of a tag, after a `%` that has no partner yet. -/
  | percent
  deriving DecidableEq, Repr

/-- A page on its way. -/
structure Reading where
  /-- Where the reading stands. -/
  stand : Stand := .text
  /-- The kind of the tag that was opened last, as far as it is known. -/
  kind : TagKind := .unmarked
  /-- The characters kept back, last one first. -/
  pending : List Char := []
  /-- What the characters before them have come to. -/
  progress : Progress
  deriving DecidableEq, Repr

/-- What a closed tag of a kind and with a body does; `none` if the work is given up. -/
abbrev TagEffect : Type := Progress → TagKind → List Char → Option Progress

/-- Reads one more character. -/
def Reading.take (effect : TagEffect) (r : Reading) (c : Char) : Option Reading :=
  match r.stand with
  | .text =>
    if c = '<' then some { r with stand := .lessThan }
    else some { r with pending := c :: r.pending }
  | .lessThan =>
    if c = '%' then some {
      stand := .opened
      progress := r.progress.update (·.pushText r.pending.reverse) }
    else some { r with stand := .text, pending := c :: '<' :: r.pending }
  | .opened =>
    match TagKind.ofMarker? c with
    | some kind => some { r with stand := .body, kind }
    | none =>
      if c = '%' then some { r with stand := .percent }
      else some { r with stand := .body, kind := .code, pending := c :: r.pending }
  | .body =>
    if c = '%' then some { r with stand := .percent }
    else some { r with pending := c :: r.pending }
  | .percent =>
    if c = '>' then
      (effect r.progress r.kind r.pending.reverse).map fun progress =>
        { r with stand := .text, pending := [], progress }
    else some { r with stand := .body, pending := c :: '%' :: r.pending }

/-- Comes to the end of the page. Text that is kept back takes effect, a tag without an end is
dropped. -/
def Reading.finish (r : Reading) : Progress :=
  match r.stand with
  | .text => r.progress.update (·.pushText r.pending.reverse)
  | .lessThan => r.progress.update (·.pushText ('<' :: r.pending).reverse)
  | .opened | .body | .percent => r.progress.report (.unclosedTag r.pending.length)

/-- The effect of a page. -/
def read (effect : TagEffect) (page : List Char) (p : Progress) : Option Progress :=
  (page.foldlM (Reading.take effect) { progress := p }).map Reading.finish

end LivePages.Page
