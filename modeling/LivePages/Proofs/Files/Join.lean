import Mathlib.Data.String.Basic
import LivePages.Files.Path

/-!
# Components of Joined Paths

A relative path that is looked at from a directory has the components of the directory first and
its own ones after them, however many slashes stand at the seam. So a plain name, which has no
slash and is neither empty nor made of one or two dots, stands for a direct child.

## Main results

* `components_join`: the components of a path below a directory.
* `components_join_name`: a plain name is that of a direct child.
* `fileName?_join_name`, `exists_fileName?_append`: the name at the end of a path.
-/

namespace LivePages.Text

variable {α : Type} [DecidableEq α] {separator : α}

/-- A text without separators is one piece. -/
theorem splitOn_of_notMem {s : List α} (h : separator ∉ s) : splitOn separator s = [s] := by
  induction s with
  | nil => rfl
  | cons a s ih =>
      rw [List.mem_cons, not_or] at h
      rw [splitOn, if_neg (Ne.symm h.1), ih h.2]

/-- The pieces on both sides of a separator are those of the two sides. -/
theorem splitOn_append_cons (s t : List α) :
    splitOn separator (s ++ separator :: t) = splitOn separator s ++ splitOn separator t := by
  induction s with
  | nil => simp [splitOn]
  | cons a s ih =>
      rw [List.cons_append, splitOn, splitOn, ih]
      split
      · rfl
      · -- the first piece before the separator grows by one element, and there is such a piece
        cases hs : splitOn separator s with
        | nil => exact absurd hs (splitOn_ne_nil separator s)
        | cons piece pieces => rfl

/-- There is no separator in a piece. -/
theorem notMem_of_mem_splitOn {s piece : List α} (h : piece ∈ splitOn separator s) :
    separator ∉ piece := by
  induction s generalizing piece with
  | nil => simp_all [splitOn]
  | cons a s ih =>
      rw [splitOn] at h
      split at h
      · rcases List.mem_cons.mp h with rfl | h
        · exact List.not_mem_nil
        · exact ih h
      · next ha =>
        split at h
        · next hs => exact absurd hs (splitOn_ne_nil separator s)
        · next first rest hs =>
          rcases List.mem_cons.mp h with rfl | h
          · exact List.not_mem_cons_of_ne_of_not_mem (Ne.symm ha) (ih (hs ▸ List.mem_cons_self))
          · exact ih (hs ▸ List.mem_cons_of_mem first h)

/-- What comes before the first separator begins with whatever is put there that has none. -/
theorem splitOn_append_of_notMem {front s piece : List α} {pieces : List (List α)}
    (h : separator ∉ front) (hs : splitOn separator s = piece :: pieces) :
    splitOn separator (front ++ s) = (front ++ piece) :: pieces := by
  induction front with
  | nil => exact hs
  | cons a front ih =>
      rw [List.mem_cons, not_or] at h
      rw [List.cons_append, splitOn, if_neg (Ne.symm h.1), ih h.2]
      rfl

/-- What comes after the last separator ends with whatever is added that has none. -/
theorem exists_splitOn_append_of_notMem (s : List α) {t : List α} (h : separator ∉ t) :
    ∃ front piece, splitOn separator s = front ++ [piece] ∧
      splitOn separator (s ++ t) = front ++ [piece ++ t] := by
  induction s with
  | nil => exact ⟨[], [], rfl, splitOn_of_notMem h⟩
  | cons a s ih =>
      obtain ⟨front, piece, hs, hst⟩ := ih
      rw [List.cons_append, splitOn, splitOn, hs, hst]
      split
      · exact ⟨[] :: front, piece, rfl, rfl⟩
      · cases front with
        | nil => exact ⟨[], a :: piece, rfl, rfl⟩
        | cons first front => exact ⟨(a :: first) :: front, piece, rfl, rfl⟩

/-- There are only digits in a number. -/
theorem isDigit_of_mem_toString {n : ℕ} {c : Char} (h : c ∈ (toString n).toList) :
    c.isDigit = true := by
  rw [Nat.toString_eq_ofList_toDigits, String.toList_ofList] at h
  exact Nat.isDigit_of_mem_toDigits (by decide) (by decide) h

/-- Labels with different numbers are different. -/
theorem numbered_injective (label : String) :
    Function.Injective fun n : ℕ => label ++ toString n := by
  intro m n h
  have hlist := congrArg String.toList h
  simp only [String.toList_append] at hlist
  have hdigits := congrArg (fun ds => Nat.ofDigitChars 10 ds 0) (List.append_cancel_left hlist)
  simpa [Nat.toString_eq_ofList_toDigits] using hdigits

end LivePages.Text

namespace LivePages.Files.Path

variable {base path name : String}

/-- The segments on both sides of a slash are those of the two sides. -/
theorem segments_slash (base path : String) :
    segments (base ++ "/" ++ path) = segments base ++ segments path := by
  have hlist : (base ++ "/" ++ path).toList = base.toList ++ '/' :: path.toList := by simp
  rw [segments, hlist, Text.splitOn_append_cons, List.map_append]
  rfl

/-- After a slash at the end comes an empty segment. -/
theorem segments_append_slash (base : String) :
    segments (base ++ "/") = segments base ++ [""] := by
  rw [← String.append_empty (s := base ++ "/"), segments_slash]
  rfl

/-- There is a first segment, which stays the first one whatever comes after it. -/
theorem head?_segments_append (base : String) (rest : List String) :
    (segments base ++ rest).head? = (segments base).head? :=
  List.head?_append_of_ne_nil _ (mt List.map_eq_nil_iff.mp (Text.splitOn_ne_nil '/' base.toList))

/-- A path with a slash at its end, followed by another one. -/
theorem components_slash (base path : String) :
    components (base ++ "/" ++ path) =
      components (base ++ "/") ++ (segments path).filterMap component? := by
  have habsolute : isAbsolute (base ++ "/" ++ path) = isAbsolute (base ++ "/") := by
    rw [isAbsolute, isAbsolute]
    cases hbase : base.toList <;> simp [hbase]
  have hempty : [""].filterMap component? = [] := rfl
  rw [components, components, habsolute, segments_slash, segments_append_slash,
    head?_segments_append, head?_segments_append, List.filterMap_append, List.filterMap_append,
    hempty, List.append_nil]
  split
  · rfl
  · split <;> rfl

/-- A slash at the end of a path does not count. -/
theorem components_append_slash (h : base ≠ "") : components (base ++ "/") = components base := by
  have habsolute : isAbsolute (base ++ "/") = isAbsolute base := by
    rw [isAbsolute, isAbsolute]
    cases hbase : base.toList with
    | nil => exact absurd (String.toList_eq_nil_iff.mp hbase) h
    | cons c rest => simp [hbase]
  have hempty : [""].filterMap component? = [] := rfl
  rw [components, components, habsolute, segments_append_slash, head?_segments_append,
    List.filterMap_append, hempty, List.append_nil]

/-- **A path below a directory.** Its components are those of the directory, followed by those of
the segments of the path. -/
theorem components_join (hbase : base ≠ "") (hpath : isAbsolute path = false) :
    components (join base path) =
      components base ++ (segments path).filterMap component? := by
  rw [join, hpath, if_neg Bool.false_ne_true]
  by_cases hslash : base.toList.getLast? = some '/'
  · rw [if_pos (Or.inr hslash)]
    obtain ⟨front, hfront⟩ := List.getLast?_eq_some_iff.mp hslash
    obtain rfl : base = String.ofList front ++ "/" := by
      rw [← String.toList_inj, hfront]
      simp
    exact components_slash _ path
  · rw [if_neg (not_or.mpr ⟨hbase, hslash⟩), components_slash, components_append_slash hbase]

/-- The path is a plain name: one segment, and no step to another directory. -/
def isName (name : String) : Bool :=
  !name.toList.contains '/' && component? name == some (.name name)

/-- A plain name has itself as its only segment. -/
theorem segments_of_isName (h : isName name = true) : segments name = [name] := by
  rw [isName, Bool.and_eq_true, Bool.not_eq_true'] at h
  have hslash : '/' ∉ name.toList := by
    rw [← List.contains_iff_mem, h.1]
    exact Bool.false_ne_true
  rw [segments, Text.splitOn_of_notMem hslash, List.map_singleton, String.ofList_toList]

/-- **A plain name is that of a direct child.** -/
theorem components_join_name (base : String) (h : isName name = true) :
    components (join base name) = components base ++ [.name name] := by
  have hsegments := segments_of_isName h
  rw [isName, Bool.and_eq_true, Bool.not_eq_true', beq_iff_eq] at h
  obtain ⟨hslash, hname⟩ := h
  have hrelative : isAbsolute name = false := by
    rw [isAbsolute]
    cases hlist : name.toList with
    | nil => rfl
    | cons c rest =>
        rw [hlist, List.contains_cons, Bool.or_eq_false_iff] at hslash
        rw [List.head?_cons, Option.some_beq_some, BEq.comm]
        exact hslash.1
  have hfilter : (segments name).filterMap component? = [.name name] := by
    rw [hsegments, List.filterMap_cons, hname, List.filterMap_nil]
  by_cases hbase : base = ""
  · subst hbase
    have hhere : (segments name).head? ≠ some "." := by
      rw [hsegments]
      rintro heq
      obtain rfl := Option.some.inj heq
      exact absurd hname (by decide)
    rw [join, hrelative, if_neg Bool.false_ne_true, if_pos (Or.inl rfl), String.empty_append,
      components, hrelative, if_neg Bool.false_ne_true, if_neg hhere, hfilter]
    rfl
  · rw [components_join hbase hrelative, hfilter]

/-! ### Names at the end of paths -/

/-- A name without slashes that starts with anything but a dot is a plain name. -/
theorem isName_of_head? {c : Char} (hhead : name.toList.head? = some c) (hdot : c ≠ '.')
    (hslash : '/' ∉ name.toList) : isName name = true := by
  have hne : ∀ s : String, s.toList.head? ≠ some c → name ≠ s := by
    rintro _ hs rfl
    exact hs hhead
  have hname : component? name = some (.name name) := by
    rw [component?, if_neg (not_or.mpr ⟨hne _ (by simp), hne _ (by simpa using hdot.symm)⟩),
      if_neg (hne _ (by simpa using hdot.symm))]
  rw [isName, hname, beq_self_eq_true, Bool.and_true, Bool.not_eq_true', ← Bool.not_eq_true,
    List.contains_iff_mem]
  exact hslash

/-- A label with a number is a plain name. -/
theorem isName_numbered {label : String} {c : Char} (hhead : label.toList.head? = some c)
    (hdot : c ≠ '.') (hslash : '/' ∉ label.toList) (n : ℕ) :
    isName (label ++ toString n) = true := by
  refine isName_of_head? (c := c) ?_ hdot ?_
  · rw [String.toList_append, List.head?_append, hhead]
    rfl
  · rw [String.toList_append, List.mem_append]
    rintro (hmem | hmem)
    · exact hslash hmem
    · exact absurd (Text.isDigit_of_mem_toString hmem) (by decide)

/-- The name of a direct child. -/
theorem fileName?_join_name (base : String) (h : isName name = true) :
    fileName? (join base name) = some name := by
  rw [fileName?, components_join_name base h, List.getLast?_concat]

/-- What is added to the end of a path without a slash is added to the name at its end, if it makes
a name by itself. -/
theorem exists_fileName?_append (path suffix : String) (hslash : '/' ∉ suffix.toList)
    (hlong : 3 ≤ suffix.toList.length) :
    ∃ stem, fileName? (path ++ suffix) = some (stem ++ suffix) := by
  obtain ⟨front, piece, -, hsplit⟩ :=
    Text.exists_splitOn_append_of_notMem path.toList (t := suffix.toList) hslash
  refine ⟨String.ofList piece, ?_⟩
  have hsegments : segments (path ++ suffix) =
      front.map String.ofList ++ [String.ofList piece ++ suffix] := by
    rw [segments, String.toList_append, hsplit, List.map_append, List.map_singleton,
      String.ofList_append, String.ofList_toList]
  have hne : ∀ s : String, s.toList.length < 3 → String.ofList piece ++ suffix ≠ s := by
    rintro _ hs rfl
    rw [String.toList_append, List.length_append] at hs
    omega
  have hlast : ∀ rest, ((segments (path ++ suffix)).filterMap component?).getLast? = rest →
      rest = some (.name (String.ofList piece ++ suffix)) := by
    rintro _ rfl
    rw [hsegments, List.filterMap_append, List.filterMap_cons, component?,
      if_neg (not_or.mpr ⟨hne _ (by decide), hne _ (by decide)⟩), if_neg (hne _ (by decide))]
    simp
  have hcomponents : (components (path ++ suffix)).getLast? =
      some (.name (String.ofList piece ++ suffix)) := by
    rw [components]
    split
    · rw [List.getLast?_cons, hlast _ rfl]
      rfl
    · split
      · rw [List.getLast?_cons, hlast _ rfl]
        rfl
      · exact hlast _ rfl
  rw [fileName?, hcomponents]

end LivePages.Files.Path
