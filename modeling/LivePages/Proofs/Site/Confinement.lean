import LivePages.Proofs.Files.Join
import LivePages.Site.WebRoot

/-!
# Paths Confined to the Web Root

Whether a path may be loaded is decided on its components, but the file that is opened goes by a
text: the root, a slash if one is missing, and the path as it was written. The components of that
text are those of the root and then those of the segments of the path, and a segment gives a
component only if it is neither empty nor a dot. So a path of segments other than `..` that does not
start at the root of the file system adds names to the root and nothing else, whatever slashes and
dots stand between them.

Where a path lies is told by `lexical`, which takes every step to a parent back together with the
name before it. Names alone never lead up, so what is loaded lies where the root lies or below.

## Main definitions

* `Files.Path.lexical`: where a path lies, as far as its text tells.
* `LeavesRoot`: the paths that are refused.

## Main results

* `isConfined_iff`: the test by components is a test of the segments.
* `resolve_confined`: what is refused, and where everything else lies.
-/

namespace LivePages.Files.Path

/-! ### Where a path lies -/

/-- One component further; the places above are given last one first. Above the root of the file
system there is nothing, and above the place that a relative path starts from a step to a parent is
kept. -/
def climb (above : List Component) : Component → List Component
  | .up =>
    match above with
    | .name _ :: rest => rest
    | .root :: rest => .root :: rest
    | _ => .up :: above
  | .here => above
  | c => c :: above

/-- The components of a path without dots, and without the steps to a parent that can be taken. -/
def lexical (path : String) : List Component :=
  ((components path).foldl climb []).reverse

/-- Names lead down. -/
theorem foldl_climb_names (names : List String) (above : List Component) :
    (names.map Component.name).foldl climb above =
      (names.map Component.name).reverse ++ above := by
  induction names generalizing above with
  | nil => rfl
  | cons name names ih =>
      rw [List.map_cons, List.foldl_cons, ih, List.reverse_cons, List.append_assoc]
      rfl

/-- A path that adds names to another one lies below it by these names. -/
theorem lexical_eq_append {base file : String} {names : List String}
    (h : components file = components base ++ names.map .name) :
    lexical file = lexical base ++ names.map .name := by
  rw [lexical, h, List.foldl_append, foldl_climb_names, List.reverse_append, List.reverse_reverse]
  rfl

/-! ### Segments that count -/

/-- The segments of a path that are neither empty nor a dot. -/
def innerSegments (path : String) : List String :=
  (segments path).filter fun s => s ≠ "" ∧ s ≠ "."

/-- What a segment other than two dots gives. -/
theorem component?_of_ne {segment : String} (h : segment ≠ "..") :
    component? segment =
      if segment ≠ "" ∧ segment ≠ "." then some (.name segment) else none := by
  by_cases hempty : segment = "" ∨ segment = "."
  · rw [component?, if_pos hempty, if_neg (by tauto)]
  · rw [component?, if_neg hempty, if_neg h, if_pos (not_or.mp hempty)]

/-- Segments other than two dots give their names, if they count. -/
theorem filterMap_component?_segments {path : String} (h : ".." ∉ segments path) :
    (segments path).filterMap component? = (innerSegments path).map .name := by
  rw [innerSegments]
  generalize segments path = ss at h
  induction ss with
  | nil => rfl
  | cons s ss ih =>
      rw [List.mem_cons, not_or] at h
      have hs := component?_of_ne (Ne.symm h.1)
      by_cases hcounts : s ≠ "" ∧ s ≠ "."
      · rw [if_pos hcounts] at hs
        rw [List.filterMap_cons_some hs, List.filter_cons_of_pos (by simpa using hcounts),
          List.map_cons, ih h.2]
      · rw [if_neg hcounts] at hs
        rw [List.filterMap_cons_none hs, List.filter_cons_of_neg (by simpa using hcounts), ih h.2]

/-- A step to a parent comes from two dots. -/
theorem up_mem_filterMap_iff {ss : List String} :
    Component.up ∈ ss.filterMap component? ↔ ".." ∈ ss := by
  rw [List.mem_filterMap]
  constructor
  · rintro ⟨s, hs, hup⟩
    by_contra hnot
    have hne : s ≠ ".." := fun heq => hnot (heq ▸ hs)
    rw [component?_of_ne hne] at hup
    split at hup <;> exact absurd hup (by simp)
  · exact fun h => ⟨"..", h, rfl⟩

end LivePages.Files.Path

namespace LivePages.Site

open Files.Path (components segments innerSegments lexical join)

variable {root path : String}

/-- The path is empty, starts at the root of the file system, or has a step to a parent. -/
def LeavesRoot (path : String) : Prop :=
  path = "" ∨ path.toList.head? = some '/' ∨ ".." ∈ segments path

instance (path : String) : Decidable (LeavesRoot path) :=
  inferInstanceAs (Decidable (_ ∨ _ ∨ _))

theorem isAbsolute_iff : Files.Path.isAbsolute path = true ↔ path.toList.head? = some '/' :=
  beq_iff_eq

/-- **A path may be loaded unless it leaves the root.** The components tell no more than the
segments do. -/
theorem isConfined_iff : isConfined path = true ↔ ¬ LeavesRoot path := by
  rw [isConfined, LeavesRoot, Bool.and_eq_true, decide_eq_true_eq, not_or, not_or]
  refine and_congr_right fun _ => ?_
  by_cases habsolute : Files.Path.isAbsolute path = true
  · rw [components, if_pos habsolute]
    simp [isAbsolute_iff.mp habsolute]
  · have hhead : path.toList.head? ≠ some '/' := mt isAbsolute_iff.mpr habsolute
    rw [components, if_neg habsolute]
    by_cases hup : ".." ∈ segments path
    · have hmem := Files.Path.up_mem_filterMap_iff.mpr hup
      refine iff_of_false (fun hall => ?_) fun hnot => hnot.2 hup
      have hup' := List.all_eq_true.mp hall .up
      split at hup' <;> simp [hmem] at hup'
    · rw [Files.Path.filterMap_component?_segments hup]
      split <;> simp [hhead, hup]

/-- What is loaded is read from the file that the path is resolved to. -/
theorem load_eq (tree : Files.Tree) (root path : String) :
    (loader tree root).load path =
      resolve root path >>= fun file => (tree.readText file).mapError .file := by
  cases hresolve : resolve root path with
  | error e => simp [loader, hresolve, bind, Except.bind]
  | ok file =>
      cases htext : tree.readText file <;>
        simp [loader, hresolve, htext, bind, Except.bind, Except.mapError]

/-- **What is loaded lies in the root.** Below a root that is not empty, a path is refused if and
only if it is empty, starts with a slash or has a step to a parent, and then nothing is read. The
file that is read for any other path has the components of the root, followed by the segments of the
path that are neither empty nor a dot: these are names below the root. -/
theorem resolve_confined (hroot : root ≠ "") (path : String) :
    ((∃ e, resolve root path = .error e ∧ e.kind = "InvalidInput") ↔ LeavesRoot path) ∧
      (LeavesRoot path → ∀ tree : Files.Tree,
        (loader tree root).load path = .error (.outside path)) ∧
      (¬ LeavesRoot path → ∃ file, resolve root path = .ok file ∧
        components file = components root ++ (innerSegments path).map .name ∧
        lexical file = lexical root ++ (innerSegments path).map .name ∧
        ∀ tree : Files.Tree,
          (loader tree root).load path = (tree.readText file).mapError .file) := by
  by_cases hleaves : LeavesRoot path
  · have hrefused : resolve root path = .error (.outside path) :=
      if_neg fun hconfined => isConfined_iff.mp hconfined hleaves
    refine ⟨iff_of_true ⟨.outside path, hrefused, rfl⟩ hleaves, fun _ tree => ?_,
      fun hnot => absurd hleaves hnot⟩
    rw [load_eq, hrefused]
    rfl
  · have htaken : resolve root path = .ok (join root path) :=
      if_pos (isConfined_iff.mpr hleaves)
    have hrelative : Files.Path.isAbsolute path = false :=
      Bool.eq_false_iff.mpr fun h => hleaves (.inr (.inl (isAbsolute_iff.mp h)))
    have hup : ".." ∉ segments path := fun h => hleaves (.inr (.inr h))
    have hcomponents : components (join root path) =
        components root ++ (innerSegments path).map .name := by
      rw [Files.Path.components_join hroot hrelative, Files.Path.filterMap_component?_segments hup]
    refine ⟨iff_of_false ?_ hleaves, fun h => absurd h hleaves, fun _ => ⟨join root path, htaken,
      hcomponents, Files.Path.lexical_eq_append hcomponents, fun tree => ?_⟩⟩
    · rintro ⟨e, he, -⟩
      exact absurd (htaken.symm.trans he) (by simp)
    · rw [load_eq, htaken]
      rfl

/-- A root beside the place that paths start from, and a path with dots and slashes too many and
names of dots. -/
theorem resolve_confined_dots :
    "../web/." ≠ "" ∧ ¬ LeavesRoot ".//a/...//./..b/." ∧
    ∃ file, resolve "../web/." ".//a/...//./..b/." = .ok file ∧
      components file = [.up, .name "web", .name "a", .name "...", .name "..b"] ∧
      lexical file = [.up, .name "web", .name "a", .name "...", .name "..b"] := by
  have hroot : "../web/." ≠ "" := by decide
  have hstays : ¬ LeavesRoot ".//a/...//./..b/." := by decide
  obtain ⟨file, hfile, hcomponents, hlexical, -⟩ :=
    (resolve_confined hroot ".//a/...//./..b/.").2.2 hstays
  exact ⟨hroot, hstays, file, hfile, hcomponents.trans (by decide), hlexical.trans (by decide)⟩

end LivePages.Site
