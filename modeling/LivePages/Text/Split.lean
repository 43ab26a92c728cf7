/-!
# Splitting

Cutting a sequence at separators, and texts into lines.

## Main definitions

* `splitOn` — all the pieces between separators, empty ones included.
* `splitFirst?` — the two sides of the first separator.
* `splitLast?` — the two sides of the last separator.
* `lines` — the lines of a text without their endings.
-/

namespace LivePages.Text

variable {α : Type} [DecidableEq α]

/-- The pieces between the separators; there is one more piece than there are separators. -/
def splitOn (separator : α) : List α → List (List α)
  | [] => [[]]
  | a :: r =>
    if a = separator then [] :: splitOn separator r
    else match splitOn separator r with
      | [] => [[a]]
      | piece :: pieces => (a :: piece) :: pieces

theorem splitOn_ne_nil (separator : α) (s : List α) : splitOn separator s ≠ [] := by
  cases s with
  | nil => simp [splitOn]
  | cons a r =>
    unfold splitOn
    split
    · simp
    · split <;> simp

/-- What stands before and after the first separator. -/
def splitFirst? (separator : α) : List α → Option (List α × List α)
  | [] => none
  | a :: r =>
    if a = separator then some ([], r)
    else (splitFirst? separator r).map fun p => (a :: p.1, p.2)

/-- What stands before and after the last separator. -/
def splitLast? (separator : α) (s : List α) : Option (List α × List α) :=
  (splitFirst? separator s.reverse).map fun p => (p.2.reverse, p.1.reverse)

/-- The text without the given start, if it has it. -/
def withoutPrefix? : List α → List α → Option (List α)
  | [], s => some s
  | _ :: _, [] => none
  | a :: p, b :: s => if a = b then withoutPrefix? p s else none

/-- The text without the given end, if it has it. -/
def withoutSuffix? (suffix s : List α) : Option (List α) :=
  (withoutPrefix? suffix.reverse s.reverse).map List.reverse

/-- The pieces after each of which a line feed stood, with the carriage return at their end taken
off, and the last piece as it is unless it is empty. -/
def lines (s : List Char) : List (List Char) :=
  let pieces := splitOn '\n' s
  let ended := pieces.dropLast.map fun l => (withoutSuffix? ['\r'] l).getD l
  match pieces.getLast? with
  | none | some [] => ended
  | some last => ended ++ [last]

/-- The texts with a separator between each two of them. -/
def joined (separator : String) (texts : List String) : String :=
  separator.intercalate texts

end LivePages.Text
