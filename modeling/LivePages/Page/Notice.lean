import LivePages.Log
import LivePages.Page.Directive

/-!
# Notices about a page

What is reported while a page is put together. None of it stops the work.

## Main definitions

* `Notice`, `Notice.line` — the events, and their lines in the log.
-/

namespace LivePages.Page

/-- Something that happened while a page was put together. -/
inductive Notice where
  /-- The last tag has no end; so many characters of it are dropped. -/
  | unclosedTag (pending : Nat)
  /-- An import is not a quoted text. -/
  | badImport (item : String) (error : Text.Quoted.Error)
  /-- The file of a merge directive is not a quoted text. -/
  | badArgument (kind : MergeKind) (argument : String) (error : Text.Quoted.Error)
  /-- A file is being included already. -/
  | cyclicInclude (path : String)
  /-- A file was required before. -/
  | alreadyRequired (path : String)
  /-- A file cannot be loaded. -/
  | mergeFailed (kind : MergeKind) (path : String) (reason : String)
  /-- An included page marks itself as one that is only included. -/
  | nestedIncludeOnly
  /-- A word is no command. -/
  | unknownDirective (word : String)
  deriving DecidableEq, Repr

/-- The line of a notice in the log. -/
def Notice.line : Notice → Log.Line
  | .unclosedTag pending =>
    Log.warn s!"Unclosed tag, discarding {pending} pending characters"
  | .badImport item error => Log.warn s!"import {item} error: {error.message}"
  | .badArgument kind argument error =>
    Log.warn s!"{kind.word} {argument} error: {error.message}"
  | .cyclicInclude path => Log.debug s!"Skipping cyclic include of {path}"
  | .alreadyRequired path => Log.debug s!"{path} already required"
  | .mergeFailed kind path reason => Log.warn s!"{kind.word} {path} failed: {reason}"
  | .nestedIncludeOnly => Log.debug "Ignoring includeonly in an included page"
  | .unknownDirective word => Log.debug s!"Ignoring unknown directive {Text.Quoted.quote word}"

end LivePages.Page
