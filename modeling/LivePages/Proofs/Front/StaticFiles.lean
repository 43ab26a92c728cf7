import LivePages.Front.Route
import LivePages.Proofs.Files.Join

/-!
# Files Served As They Are

The front end sends a file below the web root when the last segment of the path asked for has one of
a few extensions. The extension is read in three places: from the decoded path, to choose the route;
from the path below the root, to tell the type; and from the components of a path, to tell whether a
file is a page. The slashes that are taken off the start of a path are no part of its last segment,
and a segment with an extension that is not empty is neither empty nor made of dots. So it is the
last component, and the three readings agree.

## Main definitions

* `Files.Path.LiesBelow`: a path stays below a directory, as far as its text tells.
* `IsPublic`: a path below the web root of what may be sent to everyone.

## Main results

* `map_extension?_eq`: a path has the same extension by its segments and by its components.
* `isPublic_of_classify`: a path that is taken for that of a file is public.
-/

namespace LivePages.Text

variable {α : Type} [DecidableEq α] {separator : α}

/-- What stands in a text stands in one of its pieces, unless it is a separator. -/
theorem exists_mem_splitOn {separator a : α} {s : List α} (ha : a ≠ separator) (h : a ∈ s) :
    ∃ piece ∈ splitOn separator s, a ∈ piece := by
  induction s with
  | nil => exact absurd h List.not_mem_nil
  | cons b s ih =>
      obtain ⟨first, rest, hs⟩ := List.exists_cons_of_ne_nil (splitOn_ne_nil separator s)
      rw [splitOn, hs]
      rw [hs] at ih
      rcases List.mem_cons.mp h with rfl | h
      · rw [if_neg ha]
        exact ⟨a :: first, List.mem_cons_self, List.mem_cons_self⟩
      · obtain ⟨piece, hpiece, hmem⟩ := ih h
        split
        · exact ⟨piece, List.mem_cons_of_mem _ hpiece, hmem⟩
        · rcases List.mem_cons.mp hpiece with rfl | hpiece
          · exact ⟨b :: piece, List.mem_cons_self, List.mem_cons_of_mem _ hmem⟩
          · exact ⟨piece, List.mem_cons_of_mem _ hpiece, hmem⟩

/-- Separators at the start of a text stand after empty pieces. -/
theorem exists_splitOn_eq_replicate (separator : α) (s : List α) :
    ∃ n, splitOn separator s =
      List.replicate n [] ++ splitOn separator (s.dropWhile (· = separator)) := by
  induction s with
  | nil => exact ⟨0, rfl⟩
  | cons a s ih =>
      by_cases ha : a = separator
      · obtain ⟨n, hn⟩ := ih
        refine ⟨n + 1, ?_⟩
        rw [List.dropWhile_cons_of_pos (by simpa using ha), splitOn, if_pos ha, hn]
        rfl
      · refine ⟨0, ?_⟩
        rw [List.dropWhile_cons_of_neg (by simpa using ha)]
        rfl

/-- The last piece is the same without the separators at the start. -/
theorem getLastD_splitOn_dropWhile (separator : α) (s : List α) :
    (splitOn separator (s.dropWhile (· = separator))).getLastD [] =
      (splitOn separator s).getLastD [] := by
  obtain ⟨n, hn⟩ := exists_splitOn_eq_replicate separator s
  rw [hn, List.getLastD_eq_getLast?, List.getLastD_eq_getLast?,
    List.getLast?_append_of_ne_nil _ (splitOn_ne_nil separator _)]

/-- No piece is lost but empty ones. -/
theorem mem_splitOn_of_dropWhile {s piece : List α}
    (h : piece ∈ splitOn separator (s.dropWhile (· = separator))) :
    piece ∈ splitOn separator s := by
  obtain ⟨n, hn⟩ := exists_splitOn_eq_replicate separator s
  exact hn ▸ List.mem_append_right _ h

end LivePages.Text

namespace LivePages.Files.Path

/-! ### Paths below a directory -/

/-- The path continues that of the directory, and in what comes after it there is no step to a
parent and no root: it stays below the directory as far as its text tells. -/
def LiesBelow (directory path : String) : Prop :=
  ∃ rest, components path = components directory ++ rest ∧ rest ≠ [] ∧
    .root ∉ rest ∧ .up ∉ rest

variable {path segment : String}

/-- A segment is a step to a parent, a name, or nothing at all. -/
theorem component?_eq_some {c : Component} (h : component? segment = some c) :
    c = .up ∧ segment = ".." ∨ c = .name segment := by
  rw [component?] at h
  split at h
  · exact absurd h (by simp)
  · split at h
    · next hup => exact .inl ⟨(Option.some.inj h).symm, hup⟩
    · exact .inr (Option.some.inj h).symm

/-- The last component is that of the last segment, if it has one. -/
theorem getLast?_components {c : Component} (hlast : (segments path).getLast? = some segment)
    (hc : component? segment = some c) : (components path).getLast? = some c := by
  obtain ⟨front, hfront⟩ := List.getLast?_eq_some_iff.mp hlast
  have hrest : (segments path).filterMap component? = front.filterMap component? ++ [c] := by
    rw [hfront, List.filterMap_append, List.filterMap_cons_some hc, List.filterMap_nil]
  have hcomponents : ∃ first, components path = first ++ [c] := by
    rw [components, hrest]
    split
    · exact ⟨_ :: _, rfl⟩
    · split
      · exact ⟨_ :: _, rfl⟩
      · exact ⟨_, rfl⟩
  exact List.getLast?_eq_some_iff.mpr hcomponents

/-- **A relative path without steps to a parent stays below the directory** from which it is looked
at, if there is a segment in it that counts. -/
theorem liesBelow_join {c : Component} (hrelative : isAbsolute path = false)
    (hup : ".." ∉ segments path) (hmem : segment ∈ segments path)
    (hc : component? segment = some c) (directory : String) :
    LiesBelow directory (join directory path) := by
  have hne : (segments path).filterMap component? ≠ [] :=
    List.ne_nil_of_mem (List.mem_filterMap.mpr ⟨segment, hmem, hc⟩)
  have hname : ∀ d ∈ (segments path).filterMap component?, ∃ s, d = .name s := by
    intro d hd
    obtain ⟨s, hs, hcomponent⟩ := List.mem_filterMap.mp hd
    rcases component?_eq_some hcomponent with ⟨-, rfl⟩ | rfl
    · exact absurd hs hup
    · exact ⟨s, rfl⟩
  have hroot : .root ∉ (segments path).filterMap component? := mt (hname .root) (by simp)
  have hparent : .up ∉ (segments path).filterMap component? := mt (hname .up) (by simp)
  by_cases hdirectory : directory = ""
  · -- from the empty path a dot at the start of the path is kept as a component
    subst hdirectory
    have hjoin : join "" path = path := by
      rw [join, hrelative, if_neg Bool.false_ne_true, if_pos (.inl rfl), String.empty_append]
    have hempty : components "" = [] := rfl
    rw [hjoin, LiesBelow, hempty, components, hrelative, if_neg Bool.false_ne_true]
    split
    · exact ⟨_, rfl, List.cons_ne_nil _ _, by simpa using hroot, by simpa using hparent⟩
    · exact ⟨_, rfl, hne, hroot, hparent⟩
  · exact ⟨_, components_join hdirectory hrelative, hne, hroot, hparent⟩

end LivePages.Files.Path

namespace LivePages.Front

/-! ### Extensions -/

/-- The extension of a path is that of its last segment. -/
theorem exists_splitLast?_of_extension? {path : List Char} {extension : String}
    (h : extension? path = some extension) :
    ∃ stem ending, Text.splitLast? '.' ((Text.splitOn '/' path).getLastD []) =
        some (stem, ending) ∧ stem ≠ [] ∧ String.ofList (Site.asciiLower ending) = extension := by
  obtain ⟨⟨stem, ending⟩, hsplit, h⟩ := Option.bind_eq_some_iff.mp h
  dsimp only at h
  split at h
  · exact absurd h (by simp)
  · next hstem => exact ⟨stem, ending, hsplit, by simpa using hstem, Option.some.inj h⟩

/-- Slashes at the start of a path do not change its extension. -/
theorem extension?_dropWhile (path : List Char) :
    extension? (path.dropWhile (· = '/')) = extension? path := by
  rw [extension?, extension?, Text.getLastD_splitOn_dropWhile]

/-- A segment with an extension that is not empty is a name. -/
theorem component?_of_splitLast? {name stem ending : List Char}
    (hsplit : Text.splitLast? '.' name = some (stem, ending)) (hstem : stem ≠ [])
    (hending : ending ≠ []) :
    Files.Path.component? (String.ofList name) = some (.name (String.ofList name)) := by
  have hempty : String.ofList name ≠ "" := by
    intro h
    obtain rfl : name = [] := String.ofList_injective h
    exact Option.some_ne_none _ hsplit.symm
  have hdot : String.ofList name ≠ "." := by
    intro h
    obtain rfl : name = ['.'] := String.ofList_injective h
    obtain ⟨rfl, -⟩ := Prod.mk.inj (Option.some.inj hsplit)
    exact hstem rfl
  have hdots : String.ofList name ≠ ".." := by
    intro h
    obtain rfl : name = ['.', '.'] := String.ofList_injective h
    obtain ⟨-, rfl⟩ := Prod.mk.inj (Option.some.inj hsplit)
    exact hending rfl
  rw [Files.Path.component?, if_neg (not_or.mpr ⟨hempty, hdot⟩), if_neg hdots]

/-- The last segment of a path with an extension that is not empty is a name. -/
theorem component?_of_extension? {path : String} {extension : String}
    (h : extension? path.toList = some extension) (hne : extension ≠ "") :
    ∃ name, (Files.Path.segments path).getLast? = some name ∧
      Files.Path.component? name = some (.name name) := by
  obtain ⟨stem, ending, hsplit, hstem, rfl⟩ := exists_splitLast?_of_extension? h
  refine ⟨_, ?_, component?_of_splitLast? hsplit hstem ?_⟩
  · rw [Files.Path.segments, List.getLast?_map, List.getLastD_eq_getLast?,
      List.getLast?_eq_some_getLast (Text.splitOn_ne_nil '/' path.toList)]
    rfl
  · rintro rfl
    exact hne rfl

/-- **A path has the same extension by its segments and by its components**, but for the case of its
letters, if that extension is not empty. -/
theorem map_extension?_eq {path : String} {extension : String}
    (h : extension? path.toList = some extension) (hne : extension ≠ "") :
    (Files.Path.extension? path).map (fun e => String.ofList (Site.asciiLower e.toList)) =
      some extension := by
  obtain ⟨name, hlast, hname⟩ := component?_of_extension? h hne
  obtain ⟨stem, ending, hsplit, hstem, rfl⟩ := exists_splitLast?_of_extension? h
  have hfile : Files.Path.fileName? path = some name := by
    rw [Files.Path.fileName?, Files.Path.getLast?_components hlast hname]
  have hlist : (Text.splitOn '/' path.toList).getLastD [] = name.toList := by
    rw [Files.Path.segments, List.getLast?_map] at hlast
    obtain ⟨piece, hpiece, rfl⟩ := Option.map_eq_some_iff.mp hlast
    rw [List.getLastD_eq_getLast?, hpiece, Option.getD_some, String.toList_ofList]
  rw [hlist] at hsplit
  have hextension : Files.Path.extension? path = some (String.ofList ending) := by
    simp [Files.Path.extension?, hfile, hsplit, hstem]
  rw [hextension, Option.map_some, String.toList_ofList]

/-! ### Public files -/

/-- A path below the web root of what may be sent to everyone: it cannot leave the root, it is not
the path of a page, and what it leads to has one of the listed types and not the one for all other
files. -/
structure IsPublic (path : String) : Prop where
  nonempty : path ≠ ""
  relative : path.toList.head? ≠ some '/'
  noParent : ".." ∉ Files.Path.segments path
  noBackslash : '\\' ∉ path.toList
  below (root : String) : Files.Path.LiesBelow root (Files.Path.join root path)
  noPage : Site.isPage path = false
  listed : contentType path ∈ fileTypes.map (·.2)
  known : contentType path ≠ "application/octet-stream"

section

variable {path rel : String}

/-- What is known of a path that is taken for that of a file. -/
theorem exists_of_classify_eq_file (h : classify path = .file rel) :
    ∃ (whole : List Char) (extension : String), rel = String.ofList (whole.dropWhile (· = '/')) ∧
      extension? whole = some extension ∧ extension ∈ fileTypes.map (·.1) ∧
      isUnsafe whole = false := by
  rw [classify] at h
  generalize (if path.toList.getLast? = some '/' then path ++ indexPage else path) = whole at h
  split at h
  · exact Route.noConfusion h
  · next extension hextension =>
    split at h
    · exact Route.noConfusion h
    · split at h
      · exact Route.noConfusion h
      · next hlisted =>
        split at h
        · exact Route.noConfusion h
        · next hsafe =>
          exact ⟨whole.toList, extension, (Route.file.inj h).symm, hextension,
            by simpa using hlisted, Bool.eq_false_iff.mpr hsafe⟩

/-- A path that is not unsafe has no step to a parent and no backslash. -/
theorem notMem_of_isUnsafe {whole : List Char} (h : isUnsafe whole = false) :
    ['.', '.'] ∉ Text.splitOn '/' whole ∧
      ∀ segment ∈ Text.splitOn '/' whole, '\\' ∉ segment := by
  rw [isUnsafe, List.any_eq_false] at h
  simp only [Bool.or_eq_true, beq_iff_eq, List.contains_iff_mem, not_or] at h
  exact ⟨fun hmem => (h _ hmem).1 rfl, fun segment hmem => (h segment hmem).2⟩

/-- A file with a listed extension has the type that is listed with it. -/
theorem contentType_of_listed {extension : String} (h : extension? path.toList = some extension)
    (hlisted : extension ∈ fileTypes.map (·.1)) : contentType path ∈ fileTypes.map (·.2) := by
  obtain ⟨t, ht, rfl⟩ := List.mem_map.mp hlisted
  have hfound : (fileTypes.find? fun u => u.1 == t.1).isSome :=
    List.find?_isSome.mpr ⟨t, ht, beq_self_eq_true t.1⟩
  obtain ⟨u, hu⟩ := Option.isSome_iff_exists.mp hfound
  rw [contentType, h, Option.bind_some, hu]
  exact List.mem_map.mpr ⟨u, List.mem_of_find?_eq_some hu, rfl⟩

/-- A file with a listed extension is no page. -/
theorem isPage_of_listed {extension : String} (h : extension? path.toList = some extension)
    (hlisted : extension ∈ fileTypes.map (·.1)) : Site.isPage path = false := by
  have hne : extension ≠ "" ∧ extension ≠ Site.pageExtension := by
    constructor <;> (rintro rfl; exact absurd hlisted (by decide))
  obtain ⟨ending, hending, hlower⟩ := Option.map_eq_some_iff.mp (map_extension?_eq h hne.1)
  rw [Site.isPage, hending]
  refine beq_eq_false_iff_ne.mpr fun hpage => hne.2 ?_
  rw [← hlower, hpage, String.ofList_toList]

/-- **A path that is taken for that of a file is public.** Whatever path is asked for, if the answer
is a file, the path of that file is relative, has neither a step to a parent nor a backslash, stays
below every root from which it is looked at, is not that of a page, and has a listed type. -/
theorem isPublic_of_classify (h : classify path = .file rel) : IsPublic rel := by
  obtain ⟨whole, extension, rfl, hwhole, hlisted, hsafe⟩ := exists_of_classify_eq_file h
  obtain ⟨hparent, hbackslash⟩ := notMem_of_isUnsafe hsafe
  set rel := String.ofList (whole.dropWhile (· = '/')) with hrel
  have hlist : rel.toList = whole.dropWhile (· = '/') := String.toList_ofList
  have hextension : extension? rel.toList = some extension := by
    rw [hlist, extension?_dropWhile, hwhole]
  have hne : extension ≠ "" := by
    rintro rfl
    exact absurd hlisted (by decide)
  obtain ⟨name, hlast, hname⟩ := component?_of_extension? hextension hne
  have hrelative : rel.toList.head? ≠ some '/' := by
    intro hhead
    have hslash := List.head?_dropWhile_not (· = '/') whole
    rw [← hlist, hhead] at hslash
    exact absurd hslash (by decide)
  have hup : ".." ∉ Files.Path.segments rel := by
    intro hmem
    obtain ⟨piece, hpiece, hdots⟩ := List.mem_map.mp hmem
    obtain rfl : piece = ['.', '.'] := String.ofList_injective hdots
    exact hparent (Text.mem_splitOn_of_dropWhile (hlist ▸ hpiece))
  have hlisted' : contentType rel ∈ fileTypes.map (·.2) := contentType_of_listed hextension hlisted
  exact {
    nonempty := by
      intro hempty
      rw [hempty] at hextension
      exact Option.some_ne_none _ hextension.symm
    relative := hrelative
    noParent := hup
    noBackslash := by
      intro hmem
      have hslash : '\\' ≠ '/' := by decide
      obtain ⟨piece, hpiece, hin⟩ := Text.exists_mem_splitOn hslash hmem
      exact hbackslash piece (Text.mem_splitOn_of_dropWhile (hlist ▸ hpiece)) hin
    below := Files.Path.liesBelow_join (beq_eq_false_iff_ne.mpr hrelative) hup
      (List.mem_of_getLast? hlast) hname
    noPage := isPage_of_listed hextension hlisted
    listed := hlisted'
    known := by
      intro hunlisted
      rw [hunlisted] at hlisted'
      exact absurd hlisted' (by decide) }

/-- Slashes, dots and upper-case letters in a path that is asked for. -/
theorem isPublic_dots :
    classify "//a//./..b.rsp.PNG" = .file "a//./..b.rsp.PNG" ∧ IsPublic "a//./..b.rsp.PNG" :=
  have h : classify "//a//./..b.rsp.PNG" = .file "a//./..b.rsp.PNG" := by decide
  ⟨h, isPublic_of_classify h⟩

end

end LivePages.Front
