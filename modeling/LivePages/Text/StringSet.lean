/-!
# Sets of strings

A set of strings as the list of its members in increasing order of code points, each once, so that
two sets with the same members are equal.

## Main definitions

* `StringSet.insert`, `StringSet.ofList`.
-/

namespace LivePages.Text.StringSet

/-- The set with one more member. -/
def insert (s : String) : List String → List String
  | [] => [s]
  | a :: r => if s < a then s :: a :: r else if s = a then a :: r else a :: insert s r

/-- The set of the strings in a list. -/
def ofList (strings : List String) : List String :=
  strings.foldl (fun set s => insert s set) []

/-- An inserted string is a member, beside those that were members before. -/
@[simp] theorem mem_insert {s t : String} {set : List String} :
    t ∈ insert s set ↔ t = s ∨ t ∈ set := by
  induction set with
  | nil => simp [insert]
  | cons a r ih =>
    unfold insert
    split
    · simp
    · split
      · rename_i h
        subst h
        simp
      · simp only [List.mem_cons, ih]
        constructor
        · rintro (h | h | h) <;> simp [h]
        · rintro (h | h | h) <;> simp [h]

end LivePages.Text.StringSet
