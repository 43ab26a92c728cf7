import LivePages.Page.Loader
import LivePages.Page.Reading

/-!
# Putting a page together

The tags of a page take effect one after the other, as they are read. A merge directive takes
effect as the whole page it names does, at a greater depth.

An include is skipped while the same file is being included; a require is skipped once the file
has been required. So every level of nesting takes a name from one of two finite stocks, and twice
the number of merge directives in all texts bounds the depth.

## Main definitions

* `expand` — the effect of a page on the parts collected so far, with a bound on the nesting.
* `parse` — the parts of a page.
* `parseFile` — the parts of the page of a name.
-/

namespace LivePages.Page

/-- The effect of a page on the progress made so far; `none` when the nesting exceeds its bound. -/
abbrev Effect : Type := List Char → Progress → Option Progress

/-- Loads a file and lets it take effect. -/
def mergeFile (loader : Loader) (nested : Effect) (kind : MergeKind) (path : String)
    (p : Progress) : Option Progress :=
  match loader.load path with
  | .ok text => nested text.toList (p.update (·.addDepend path))
  | .error e => some (p.report (.mergeFailed kind path e.message))

/-- The effect of a merge directive for a file. -/
def addMerge (loader : Loader) (nested : Effect) (p : Progress) (path : String) :
    MergeKind → Option Progress
  | .include =>
    if p.parts.including.contains path then some (p.report (.cyclicInclude path))
    else (mergeFile loader nested .include path (p.update (·.enter path))).map
      (·.update (·.leave path))
  | .require =>
    if p.parts.required.contains path then some (p.report (.alreadyRequired path))
    else mergeFile loader nested .require path (p.update (·.require path))

/-- The effect of a directive at a depth. -/
def addDirective (loader : Loader) (nested : Effect) (depth : Nat) (p : Progress) :
    Directive → Option Progress
  | .importPaths list => some ((importItems list).foldl Progress.addImport p)
  | .merge kind argument =>
    match Text.Quoted.read argument with
    | .ok path => addMerge loader nested p (String.ofList path) kind
    | .error e => some (p.report (.badArgument kind (String.ofList argument) e))
  | .includeOnly =>
    if depth = 0 then some (p.update fun parts => { parts with includeOnly := true })
    else some (p.report .nestedIncludeOnly)
  | .unknown word => some (p.report (.unknownDirective word))

/-- The effect of a closed tag at a depth. -/
def addTag (loader : Loader) (nested : Effect) (depth : Nat) : TagEffect
  | p, .code, body => some (p.update (·.pushCode body))
  | p, .eval, body => some (p.update (·.pushEval body))
  | p, .comment, _ => some p
  | p, .directive, body => addDirective loader nested depth p (.ofBody body)
  | p, .unmarked, body => addDirective loader nested depth p (.ofBody body)

/-- The effect of a page at a depth, with at most `fuel` pages nested in each other. -/
def expand (loader : Loader) : (fuel depth : Nat) → Effect
  | 0, _ => fun _ _ => none
  | fuel + 1, depth => read (addTag loader (expand loader fuel (depth + 1)) depth)

/-- The file that an item names, if it is a merge directive. -/
def Item.argument? : Item → Option String
  | .tag .directive body | .tag .unmarked body => (Directive.ofBody body).argument?
  | _ => none

/-- The files that the merge directives of a page name. -/
def arguments (page : List Char) : List String :=
  (scan page).items.filterMap Item.argument?

/-- A bound on the nesting under a page. -/
def Loader.nesting (loader : Loader) (page : List Char) : Nat :=
  2 * (arguments page ++ loader.texts.flatMap fun t => arguments t.toList).length + 1

/-- Puts a page together. -/
def parse (loader : Loader) (page : String) : Progress :=
  (expand loader (loader.nesting page.toList) 0 page.toList {}).getD {}

/-- Puts the page of a name together. -/
def parseFile (loader : Loader) (path : String) : Except LoadError Progress :=
  (loader.load path).map (parse loader)

end LivePages.Page
