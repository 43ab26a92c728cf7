import LivePages.Proofs.Files.Join
import LivePages.Proofs.Site.Requests

/-!
# The Paths of Scanned Pages

A scan names a page by the components that its path has below the web root, with slashes between
them. So the path of a page starts with no slash, and what stands after its last slash is the name
that makes it a page.

## Main results

* `components_ne_nil`, `isPlain_of_mem_tail`: the components of a path, of which only the first one
  can be a root or a dot.
* `splitOn_ofComponents`: the pieces of the text of components.
* `head?_ne_slash`, `exists_pageName`: the path of a scanned page.
-/

namespace LivePages.Text

variable {α : Type} [DecidableEq α]

/-- A text without a start is what comes after it. -/
theorem withoutPrefix?_eq_some_iff {start s rest : List α} :
    withoutPrefix? start s = some rest ↔ s = start ++ rest := by
  induction start generalizing s with
  | nil => exact ⟨fun h => Option.some.inj h, fun h => congrArg some h⟩
  | cons a start ih =>
      cases s with
      | nil => simp [withoutPrefix?]
      | cons b s =>
          rw [withoutPrefix?]
          split
          · next hab => rw [ih, hab, List.cons_append, List.cons.injEq, eq_self, true_and]
          · next hab => simp [Ne.symm hab]

end LivePages.Text

namespace LivePages.Files.Path

/-! ### Components -/

/-- A component that may stand after others. -/
def Component.IsPlain : Component → Prop
  | .root | .here => False
  | .up => True
  | .name s => s ≠ "" ∧ '/' ∉ s.toList

theorem notMem_of_mem_segments {path segment : String} (h : segment ∈ segments path) :
    '/' ∉ segment.toList := by
  obtain ⟨piece, hpiece, rfl⟩ := List.mem_map.mp h
  rw [String.toList_ofList]
  exact Text.notMem_of_mem_splitOn hpiece

theorem isPlain_of_component? {segment : String} {c : Component} (hslash : '/' ∉ segment.toList)
    (h : component? segment = some c) : c.IsPlain := by
  rw [component?] at h
  split at h
  · exact absurd h (by simp)
  · next hne =>
    split at h
    · obtain rfl := Option.some.inj h
      trivial
    · obtain rfl := Option.some.inj h
      exact ⟨fun hempty => hne (.inl hempty), hslash⟩

/-- Only the first component can be a root or a dot. -/
theorem isPlain_of_mem_tail {path : String} {c : Component} (h : c ∈ (components path).tail) :
    c.IsPlain := by
  have hrest : ∀ d ∈ (segments path).filterMap component?, d.IsPlain := by
    intro d hd
    obtain ⟨segment, hsegment, hcomponent⟩ := List.mem_filterMap.mp hd
    exact isPlain_of_component? (notMem_of_mem_segments hsegment) hcomponent
  rw [components] at h
  split at h
  · exact hrest c h
  · split at h
    · exact hrest c h
    · exact hrest c (List.mem_of_mem_tail h)

/-- A path that is not empty has components. -/
theorem components_ne_nil {path : String} (h : path ≠ "") : components path ≠ [] := by
  have hlist : path.toList ≠ [] := mt String.toList_eq_nil_iff.mp h
  obtain ⟨c, rest, hpath⟩ := List.exists_cons_of_ne_nil hlist
  rw [components]
  by_cases hc : c = '/'
  · rw [if_pos (by simp [isAbsolute, hpath, hc])]
    exact List.cons_ne_nil _ _
  · obtain ⟨piece, pieces, hsplit⟩ : ∃ piece pieces,
        Text.splitOn '/' path.toList = (c :: piece) :: pieces := by
      rw [hpath, Text.splitOn, if_neg hc]
      split
      · exact ⟨[], [], rfl⟩
      · exact ⟨_, _, rfl⟩
    rw [if_neg (by simp [isAbsolute, hpath, hc])]
    split
    · exact List.cons_ne_nil _ _
    · next hhere =>
      rw [segments, hsplit, List.map_cons, List.head?_cons, Option.some_inj] at hhere
      have hne : ¬ (String.ofList (c :: piece) = "" ∨ String.ofList (c :: piece) = ".") := by
        rintro (hempty | hdot)
        · exact absurd hempty (by simp)
        · exact hhere hdot
      rw [segments, hsplit, List.map_cons]
      cases hcomponent : component? (String.ofList (c :: piece)) with
      | none =>
          rw [component?, if_neg hne] at hcomponent
          split at hcomponent <;> exact absurd hcomponent (by simp)
      | some d =>
          rw [List.filterMap_cons_some hcomponent]
          exact List.cons_ne_nil _ _

/-- The name of a file is its last component. -/
theorem getLast?_of_fileName? {path name : String} (h : fileName? path = some name) :
    (components path).getLast? = some (.name name) := by
  rw [fileName?] at h
  split at h
  · next s hs => rw [hs, Option.some.inj h]
  · exact absurd h (by simp)

/-! ### The text of components -/

/-- The pieces between slashes are the texts that were put between them. -/
theorem splitOn_joined {texts : List String} (hne : texts ≠ [])
    (h : ∀ t ∈ texts, '/' ∉ t.toList) :
    Text.splitOn '/' (Text.joined "/" texts).toList = texts.map String.toList := by
  induction texts with
  | nil => exact absurd rfl hne
  | cons t texts ih =>
      have ht := Text.splitOn_of_notMem (h t List.mem_cons_self)
      cases texts with
      | nil => simpa [Text.joined] using ht
      | cons u texts =>
          have hrest := ih (List.cons_ne_nil _ _) fun v hv => h v (List.mem_cons_of_mem t hv)
          have htext : (Text.joined "/" (t :: u :: texts)).toList =
              t.toList ++ '/' :: (Text.joined "/" (u :: texts)).toList := by
            simp [Text.joined]
          rw [htext, Text.splitOn_append_cons, ht, hrest]
          rfl

theorem text_of_isPlain {c : Component} (h : c.IsPlain) :
    ofComponents.text c ≠ "" ∧ '/' ∉ (ofComponents.text c).toList := by
  cases c with
  | root | here => exact absurd h id
  | up => exact ⟨by decide, by decide⟩
  | name s => exact h

theorem ofComponents_eq_joined {cs : List Component} (h : ∀ c ∈ cs, c.IsPlain) :
    ofComponents cs = Text.joined "/" (cs.map ofComponents.text) := by
  cases cs with
  | nil => rfl
  | cons c cs =>
      cases c with
      | root => exact absurd (h .root List.mem_cons_self) id
      | here | up | name => rfl

/-- The pieces of the text of components. -/
theorem splitOn_ofComponents {cs : List Component} (hne : cs ≠ []) (h : ∀ c ∈ cs, c.IsPlain) :
    Text.splitOn '/' (ofComponents cs).toList =
      cs.map fun c => (ofComponents.text c).toList := by
  have hslash : ∀ t ∈ cs.map ofComponents.text, '/' ∉ t.toList := by
    intro t ht
    obtain ⟨c, hc, rfl⟩ := List.mem_map.mp ht
    exact (text_of_isPlain (h c hc)).2
  rw [ofComponents_eq_joined h, splitOn_joined (mt List.map_eq_nil_iff.mp hne) hslash,
    List.map_map]
  rfl

/-- The text of components starts with no slash. -/
theorem head?_ofComponents_ne_slash {cs : List Component} (h : ∀ c ∈ cs, c.IsPlain) :
    (ofComponents cs).toList.head? ≠ some '/' := by
  cases cs with
  | nil => decide
  | cons c cs =>
      intro hhead
      obtain ⟨rest, hrest⟩ := List.head?_eq_some_iff.mp hhead
      have hsplit := splitOn_ofComponents (List.cons_ne_nil c cs) h
      rw [hrest, Text.splitOn, if_pos rfl, List.map_cons, List.cons.injEq] at hsplit
      exact (text_of_isPlain (h c List.mem_cons_self)).1
        (String.toList_eq_nil_iff.mp hsplit.1.symm)

end LivePages.Files.Path

namespace LivePages.Site

open Files.Path (components ofComponents)

/-! ### Scanned pages -/

variable {tree : Files.Tree} {root : String} {found : Scan} {p : PageFile}

/-- A list of pages with one more page has no other paths. -/
theorem path_of_mem_insertPage {page q : PageFile} {pages : List PageFile}
    (h : q ∈ insertPage page pages) : q.path = page.path ∨ ∃ r ∈ pages, q.path = r.path := by
  induction pages with
  | nil => exact .inl (congrArg _ (List.mem_singleton.mp h))
  | cons r pages ih =>
      rw [insertPage] at h
      split at h
      · rcases List.mem_cons.mp h with rfl | h
        · exact .inl rfl
        · exact .inr ⟨q, h, rfl⟩
      · rcases List.mem_cons.mp h with rfl | h
        · exact .inr ⟨r, List.mem_cons_self, rfl⟩
        · exact .inr ⟨q, List.mem_cons_of_mem r h, rfl⟩
      · rcases List.mem_cons.mp h with rfl | h
        · exact .inr ⟨q, List.mem_cons_self, rfl⟩
        · rcases ih h with heq | ⟨s, hs, heq⟩
          · exact .inl heq
          · exact .inr ⟨s, List.mem_cons_of_mem r hs, heq⟩

/-- A scanned page was visited below the root. -/
theorem exists_visit_of_mem_scan (h : scan tree root = .ok found) (hp : p ∈ found.pages) :
    ∃ path, isPage path = true ∧ Files.Path.below? root path = some p.path := by
  rw [scan] at h
  split at h
  · exact absurd h (by simp)
  · obtain rfl := Except.ok.inj h
    refine List.foldlRecOn (motive := fun pages : List PageFile => ∀ q ∈ pages,
      ∃ path, isPage path = true ∧ Files.Path.below? root path = some q.path)
      _ _ (by simp) ?_ p hp
    intro pages hpages page hpage q hq
    rcases path_of_mem_insertPage hq with heq | ⟨r, hr, heq⟩
    · obtain ⟨visit, -, hvisit⟩ := List.mem_filterMap.mp hpage
      cases visit with
      | unreadable path error | loop path ancestor => exact absurd hvisit (by simp [pageOfVisit?])
      | file path modified =>
          rw [pageOfVisit?] at hvisit
          split at hvisit
          · next hpath =>
            obtain ⟨rel, hrel, rfl⟩ := Option.map_eq_some_iff.mp hvisit
            exact ⟨path, hpath, heq ▸ hrel⟩
          · exact absurd hvisit (by simp)
    · exact heq ▸ hpages r hr

/-- The path of a scanned page is the text of the components that a page has below the root. -/
theorem exists_components_of_mem_scan (h : scan tree root = .ok found) (hp : p ∈ found.pages) :
    ∃ path cs, isPage path = true ∧ components path = components root ++ cs ∧
      (∀ c ∈ cs, c.IsPlain) ∧ p.path = ofComponents cs := by
  obtain ⟨path, hpage, hbelow⟩ := exists_visit_of_mem_scan h hp
  obtain ⟨cs, hprefix, hpath⟩ := Option.map_eq_some_iff.mp hbelow
  have hcs := Text.withoutPrefix?_eq_some_iff.mp hprefix
  have hroot : components root ≠ [] := by
    refine Files.Path.components_ne_nil ?_
    rintro rfl
    have hmissing : tree.isDirectory "" = false := by
      simp [Files.Tree.isDirectory, Files.Tree.stat, Files.Tree.place, Files.Tree.goal, bind,
        Except.bind]
    rw [scan, hmissing] at h
    exact absurd h (by simp)
  refine ⟨path, cs, hpage, hcs, fun c hc => ?_, hpath.symm⟩
  have htail : c ∈ (components path).tail := by
    rw [hcs, List.tail_append_of_ne_nil hroot]
    exact List.mem_append_right _ hc
  exact Files.Path.isPlain_of_mem_tail htail

/-- **The path of a scanned page starts with no slash.** -/
theorem head?_ne_slash (h : scan tree root = .ok found) (hp : p ∈ found.pages) :
    p.path.toList.head? ≠ some '/' := by
  obtain ⟨path, cs, -, -, hplain, hpath⟩ := exists_components_of_mem_scan h hp
  exact hpath ▸ Files.Path.head?_ofComponents_ne_slash hplain

/-- The name is that of a page: it ends in a dot and the extension of pages, in any case, and
something stands before the dot. -/
def IsPageName (name : List Char) : Prop :=
  ∃ stem extension, Text.splitLast? '.' name = some (stem, extension) ∧ stem ≠ [] ∧
    asciiLower extension = pageExtension.toList

/-- **What stands after the last slash is the name of a page.** -/
theorem exists_pageName (h : scan tree root = .ok found) (hp : p ∈ found.pages)
    (hne : p.path ≠ "") :
    ∃ name, (Text.splitOn '/' p.path.toList).getLast? = some name ∧ IsPageName name := by
  obtain ⟨path, cs, hpage, hcs, hplain, hpath⟩ := exists_components_of_mem_scan h hp
  have hcsne : cs ≠ [] := by
    rintro rfl
    exact hne hpath
  have hlast : (components path).getLast? = cs.getLast? := by
    rw [hcs, List.getLast?_append_of_ne_nil _ hcsne]
  rw [isPage] at hpage
  split at hpage
  · next extension hextension =>
    rw [Files.Path.extension?, Option.bind_eq_bind, Option.bind_eq_some_iff] at hextension
    obtain ⟨name, hname, hdot⟩ := hextension
    obtain ⟨⟨stem, last⟩, hsplit, hstem⟩ := Option.bind_eq_some_iff.mp hdot
    dsimp only at hstem
    split at hstem
    · exact absurd hstem (by simp)
    · next hne =>
      obtain rfl := Option.some.inj hstem
      have hcase := eq_of_beq hpage
      rw [String.toList_ofList] at hcase
      refine ⟨name.toList, ?_, stem, last, hsplit, by simpa using hne, hcase⟩
      rw [hpath, Files.Path.splitOn_ofComponents hcsne hplain, List.getLast?_map, ← hlast,
        Files.Path.getLast?_of_fileName? hname]
      rfl
  · exact absurd hpage (by simp)

end LivePages.Site
