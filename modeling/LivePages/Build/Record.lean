import LivePages.Files.Tree
import LivePages.Text.Split

/-!
# The record of a build

What a compiler printed, kept in a file beside the executable.

## Main definitions

* `recordPath` — where the record of an executable is kept.
* `recordTail` — the last lines of a record.
-/

namespace LivePages.Build

/-- The file that keeps what the compiler printed for an executable. -/
def recordPath (executable : String) : String :=
  executable ++ ".log"

/-- The last lines of a text, at most so many. -/
def lastLines (count : Nat) (text : List Char) : List String :=
  let lines := Text.lines text
  (lines.drop (lines.length - count)).map String.ofList

/-- The last lines of a record, at most so many. One that cannot be read has none. -/
def recordTail (tree : Files.Tree) (path : String) (count : Nat) : List String :=
  match tree.read path with
  | .ok bytes => lastLines count (Text.Utf8.decodeLossy bytes)
  | .error _ => []

end LivePages.Build
