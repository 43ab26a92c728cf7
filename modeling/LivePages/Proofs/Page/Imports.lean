import Mathlib.Data.List.TakeWhile
import LivePages.Proofs.Files.Join
import LivePages.Proofs.Page.Commands
import LivePages.Proofs.Page.Imported

/-!
# Import Lists

A list of imports is cut at all its commas, and only then are the quoted texts in it read. A path
without a comma is a piece of its own and is imported. A path with a comma falls into pieces, none
of which is the path: the first one has an opening quote and no closing one, because a quote inside
is escaped; the others have no opening quote. Some of them may be read all the same, between back
quotes that stood inside the double ones, but what is read so has no comma.

So an import list means what it says exactly if there is no comma in a path.

## Main results

* `splitOn_flatMap_spell`: the pieces of a spelled text are the spelled pieces of the text.
* `comma_notMem_of_read`: what is read from the pieces of a path with a comma.
* `mem_imports_importDirective`: what an import directive imports.
* `parse_importDirective`: the paths that are imported, and when these are all.
-/

namespace LivePages.Text

open Quoted

/-! ### Pieces of a literal -/

/-- Trimming takes blanks off, at the start and at the end. -/
theorem exists_trim (s : List Char) :
    ∃ front back, (∀ c ∈ front, isBlank c = true) ∧ (∀ c ∈ back, isBlank c = true) ∧
      s = front ++ trim s ++ back := by
  refine ⟨s.takeWhile isBlank, ((trimStart s).reverse.takeWhile isBlank).reverse,
    fun c hc => List.mem_takeWhile_imp hc,
    fun c hc => List.mem_takeWhile_imp (List.mem_reverse.mp hc), ?_⟩
  rw [List.append_assoc, trim, trimEnd, ← List.reverse_append, List.takeWhile_append_dropWhile,
    List.reverse_reverse, trimStart, List.takeWhile_append_dropWhile]

/-- Blanks between quotes stand for themselves. -/
theorem inside_of_blank {s : List Char} (h : ∀ c ∈ s, isBlank c = true) : Inside true s s := by
  induction s with
  | nil => exact .nil
  | cons c s ih =>
      obtain ⟨hc, hs⟩ := List.forall_mem_cons.mp h
      have hne {d : Char} (hd : isBlank d = false) : c ≠ d := by
        rintro rfl
        rw [hc] at hd
        cases hd
      exact .plain (hne (by decide)) (hne (by decide)) (ih hs)

/-- A comma stands for itself. -/
theorem spell_comma : spell ',' = [','] := by
  decide +kernel

/-- Only the comma is spelled with a comma. -/
theorem comma_notMem_spell {c : Char} (h : c ≠ ',') : ',' ∉ spell c := by
  have hdigits : ',' ∉ toHex c.toNat := notMem_of_hexNumber? (hexNumber?_toHex c.toNat) rfl
  rw [spell]
  split_ifs <;> simp [Ne.symm h, hdigits]

theorem comma_notMem_flatMap_spell {s : List Char} (h : ',' ∉ s) : ',' ∉ s.flatMap spell := by
  intro hmem
  obtain ⟨c, hc, hcomma⟩ := List.mem_flatMap.mp hmem
  exact comma_notMem_spell (fun heq => h (heq ▸ hc)) hcomma

/-- **The pieces of a spelled text are the spelled pieces of the text.** -/
theorem splitOn_flatMap_spell (s : List Char) :
    splitOn ',' (s.flatMap spell) = (splitOn ',' s).map (·.flatMap spell) := by
  induction s with
  | nil => rfl
  | cons c s ih =>
      by_cases hc : c = ','
      · subst hc
        rw [List.flatMap_cons, spell_comma, List.singleton_append, splitOn, if_pos rfl, ih, splitOn,
          if_pos rfl]
        rfl
      · rw [List.flatMap_cons, splitOn, if_neg hc]
        cases hs : splitOn ',' s with
        | nil => exact absurd hs (splitOn_ne_nil ',' s)
        | cons piece pieces =>
            rw [hs] at ih
            exact splitOn_append_of_notMem (comma_notMem_spell hc) ih

/-- A quote at the end of a spelled text goes to its last piece. -/
theorem exists_of_mem_splitOn_spell {s piece : List Char}
    (h : piece ∈ splitOn ',' (s.flatMap spell ++ ['"'])) :
    ∃ t : List Char, piece = t.flatMap spell ∨ piece = t.flatMap spell ++ ['"'] := by
  have hquote : ',' ∉ ['"'] := by decide
  obtain ⟨front, last, hs, hsplit⟩ := exists_splitOn_append_of_notMem (s.flatMap spell) hquote
  have hspelled : ∀ p ∈ front ++ [last], ∃ t : List Char, p = t.flatMap spell := by
    rw [← hs, splitOn_flatMap_spell]
    intro p hp
    obtain ⟨t, -, rfl⟩ := List.mem_map.mp hp
    exact ⟨t, rfl⟩
  rw [hsplit] at h
  rcases List.mem_append.mp h with h | h
  · obtain ⟨t, ht⟩ := hspelled piece (List.mem_append_left _ h)
    exact ⟨t, .inl ht⟩
  · obtain ⟨t, ht⟩ := hspelled last (List.mem_append_right _ List.mem_cons_self)
    exact ⟨t, .inr (by rw [List.mem_singleton.mp h, ht])⟩

/-- No quote stands in a spelled text after what can be read. -/
theorem flatMap_spell_ne {strict : Bool} {s t : List Char} (h : Inside strict s t)
    (u rest : List Char) : u.flatMap spell ≠ s ++ '"' :: rest := by
  intro hu
  have hread := (inside_flatMap_spell u).readFrom_eq
  rw [hu] at hread
  exact readFrom_append_quote h.readFrom_eq rest u hread

/-- No piece of a text with a comma is between double quotes. -/
theorem splitOn_write_ne {t piece : List Char} (ht : ',' ∈ t)
    (hpiece : piece ∈ splitOn ',' (' ' :: write t)) {front : List Char}
    (hfront : ∀ c ∈ front, isBlank c = true) {strict : Bool} {inside u : List Char}
    (hinside : Inside strict inside u) (back : List Char) :
    piece ≠ front ++ '"' :: (inside ++ '"' :: back) := by
  intro heq
  obtain ⟨t₀, t₁, rfl, ht₀⟩ := List.eq_append_cons_of_mem ht
  have hwrite : ' ' :: write (t₀ ++ ',' :: t₁) =
      (' ' :: '"' :: t₀.flatMap spell) ++ ',' :: (t₁.flatMap spell ++ ['"']) := by
    simp [write, spell_comma]
  have hfirst : ',' ∉ ' ' :: '"' :: t₀.flatMap spell := by
    simp [comma_notMem_flatMap_spell ht₀]
  rw [hwrite, splitOn_append_cons, splitOn_of_notMem hfirst, List.singleton_append,
    List.mem_cons] at hpiece
  rcases hpiece with hpiece | hpiece
  · -- what opens in the first piece is the quote of the literal, and a quote inside does not close
    have hblank : '"' ∉ front := fun hmem => absurd (hfront '"' hmem) (by decide)
    have hopen : [' '] ++ '"' :: t₀.flatMap spell = front ++ '"' :: (inside ++ '"' :: back) :=
      hpiece.symm.trans heq
    obtain ⟨-, hrest⟩ := append_cons_inj_of_notMem (by decide) hblank hopen
    exact flatMap_spell_ne hinside t₀ back hrest
  · -- in the others no quote comes after blanks, unless it is the one that closes the literal
    obtain ⟨x, hx | hx⟩ := exists_of_mem_splitOn_spell hpiece
    · exact flatMap_spell_ne (inside_of_blank hfront) x _ (hx.symm.trans heq)
    · have hlast := congrArg List.dropLast (hx.symm.trans heq)
      rw [List.dropLast_concat, List.dropLast_append_of_ne_nil (List.cons_ne_nil _ _),
        List.dropLast_cons_of_ne_nil (by simp)] at hlast
      exact flatMap_spell_ne (inside_of_blank hfront) x _ hlast

/-- **What is read from the pieces of a text with a comma has none.** -/
theorem comma_notMem_of_read {t piece u : List Char} (ht : ',' ∈ t)
    (hpiece : piece ∈ splitOn ',' (' ' :: write t)) (hu : Quoted.read (trim piece) = .ok u) :
    ',' ∉ u := by
  obtain ⟨strict, hargument⟩ := read_eq_ok_iff.mp hu
  obtain ⟨front, back, hfront, -, htrim⟩ := exists_trim piece
  generalize trim piece = argument at hargument htrim
  cases hargument with
  | raw hmark =>
      have hcomma := notMem_of_mem_splitOn hpiece
      rw [htrim] at hcomma
      exact fun hmem => hcomma (by simp [hmem])
  | escaped hinside =>
      refine absurd htrim ?_
      have hne := splitOn_write_ne ht hpiece hfront hinside back
      simpa using hne

end LivePages.Text

namespace LivePages.Page

/-! ### The directive -/

/-- The paths as a list of quoted texts. -/
def importList (paths : List String) : String :=
  Text.joined ", " (paths.map Text.Quoted.quote)

/-- The directive that imports the paths. -/
def importDirective (paths : List String) : String :=
  "<%!import " ++ importList paths ++ "%>"

theorem toList_importList_cons_cons (path other : String) (paths : List String) :
    (importList (path :: other :: paths)).toList =
      Text.Quoted.write path.toList ++ ',' :: ' ' :: (importList (other :: paths)).toList := by
  simp [importList, Text.joined, Text.Quoted.quote]

theorem toList_importList_singleton (path : String) :
    (importList [path]).toList = Text.Quoted.write path.toList := by
  simp [importList, Text.joined, Text.Quoted.quote]

/-- What is in no literal is not in the list. -/
theorem percent_notMem_importList {paths : List String}
    (h : ∀ path ∈ paths, '%' ∉ (Text.Quoted.quote path).toList) :
    '%' ∉ (importList paths).toList := by
  simp only [Text.Quoted.quote, String.toList_ofList] at h
  induction paths with
  | nil => exact List.not_mem_nil
  | cons path paths ih =>
      obtain ⟨hpath, hpaths⟩ := List.forall_mem_cons.mp h
      cases paths with
      | nil => rwa [toList_importList_singleton]
      | cons other paths =>
          rw [toList_importList_cons_cons]
          simp [hpath, ih hpaths]

/-- The pieces of the list are those of the literals. -/
theorem importItems_importList {paths : List String} (hne : paths ≠ []) :
    importItems (' ' :: (importList paths).toList) =
      paths.flatMap fun path => importItems (' ' :: Text.Quoted.write path.toList) := by
  induction paths with
  | nil => exact absurd rfl hne
  | cons path paths ih =>
      cases paths with
      | nil => rw [toList_importList_singleton, List.flatMap_singleton]
      | cons other paths =>
          rw [toList_importList_cons_cons, ← List.cons_append, importItems,
            Text.splitOn_append_cons, List.map_append, List.flatMap_cons,
            ← ih (List.cons_ne_nil _ _)]
          rfl

/-- Of a list of pieces, what is read is imported. -/
theorem mem_imports_foldl {items : List (List Char)} {p : Progress} {path : String} :
    path ∈ (items.foldl Progress.addImport p).parts.imports ↔
      path ∈ p.parts.imports ∨ ∃ item ∈ items, Text.Quoted.read item = .ok path.toList := by
  rw [(gains_foldl_addImport items p).mem, List.mem_filterMap]
  simp only [readPiece?_eq_some_iff]

/-- The body of the directive. -/
def importBody (paths : List String) : List Char :=
  ("import " ++ importList paths).toList

theorem ofList_spelling_importBody (paths : List String) :
    String.ofList (Item.tag .directive (importBody paths)).spelling = importDirective paths := by
  rw [← String.toList_inj]
  simp [importDirective, importBody, Item.spelling, TagKind.opener]

theorem ofBody_importBody (paths : List String) :
    Directive.ofBody (importBody paths) = .importPaths (' ' :: (importList paths).toList) := by
  have hword : "import".toList.all Text.isLetter = true := by decide
  obtain ⟨htake, hdrop⟩ := ofBody_word "import".toList (importList paths).toList
    (List.all_eq_true.mp hword)
  have hbody : importBody paths = "import".toList ++ ' ' :: (importList paths).toList := by
    rw [importBody, String.toList_append]
    rfl
  rw [Directive.ofBody, hbody, htake, hdrop]
  rfl

section

variable {paths : List String}

/-- **An import directive imports what is read from the pieces of its literals.** -/
theorem mem_imports_importDirective (loader : Loader) (hne : paths ≠ [])
    (hquote : ∀ path ∈ paths, '%' ∉ (Text.Quoted.quote path).toList) (path : String) :
    path ∈ (parse loader (importDirective paths)).parts.imports ↔
      ∃ written ∈ paths, ∃ item ∈ importItems (' ' :: Text.Quoted.write written.toList),
        Text.Quoted.read item = .ok path.toList := by
  have hsound : (Item.tag .directive (importBody paths)).IsSound := by
    refine isSound_of_notMem ?_
    simp [importBody, percent_notMem_importList hquote]
  have htag : Merges loader 0 [.tag .directive (importBody paths)] {} []
      ((importItems (' ' :: (importList paths).toList)).foldl Progress.addImport {}) := by
    refine .skip (fun nested => ?_) .nil
    rw [addItem, addTag, ofBody_importBody]
    rfl
  have hbefore : EndsInText "".toList := rfl
  have hafter (q : Progress) : Merges loader 0 (scan "".toList).items q [] q := .nil
  have hparse := parse_around_tag hbefore hsound .nil htag (hafter _)
  rw [String.empty_append, String.append_empty, ofList_spelling_importBody] at hparse
  rw [hparse, importItems_importList hne, mem_imports_foldl]
  constructor
  · rintro (hnone | ⟨item, hitem, hread⟩)
    · exact absurd hnone List.not_mem_nil
    · obtain ⟨written, hwritten, hitem⟩ := List.mem_flatMap.mp hitem
      exact ⟨written, hwritten, item, hitem, hread⟩
  · rintro ⟨written, hwritten, item, hitem, hread⟩
    exact .inr ⟨item, List.mem_flatMap.mpr ⟨written, hwritten, hitem⟩, hread⟩

/-- A literal without a comma is one piece. -/
theorem importItems_write {path : String} (h : ',' ∉ path.toList) :
    importItems (' ' :: Text.Quoted.write path.toList) = [Text.Quoted.write path.toList] := by
  have hcomma : ',' ∉ ' ' :: Text.Quoted.write path.toList := by
    simp [Text.Quoted.write, Text.comma_notMem_flatMap_spell h]
  rw [importItems, Text.splitOn_of_notMem hcomma, List.map_singleton, Text.trim_cons_write]

/-- **The paths that are imported are those without a comma.** So an import directive imports
exactly the paths that are written in it if and only if none of these has a comma. -/
theorem parse_importDirective (loader : Loader) (hne : paths ≠ [])
    (hquote : ∀ path ∈ paths, '%' ∉ (Text.Quoted.quote path).toList) :
    let imports := (parse loader (importDirective paths)).parts.imports
    (∀ path ∈ paths, path ∈ imports ↔ ',' ∉ path.toList) ∧
      ((∀ path, path ∈ imports ↔ path ∈ paths) ↔ ∀ path ∈ paths, ',' ∉ path.toList) := by
  intro imports
  have hmem := mem_imports_importDirective loader hne hquote
  -- what a literal without a comma gives
  have hself {written path : String} (hcomma : ',' ∉ written.toList) {item : List Char}
      (hitem : item ∈ importItems (' ' :: Text.Quoted.write written.toList))
      (hread : Text.Quoted.read item = .ok path.toList) : path = written := by
    rw [importItems_write hcomma, List.mem_singleton] at hitem
    rw [hitem, Text.read_write] at hread
    exact String.toList_inj.mp (Except.ok.inj hread).symm
  have hfree : ∀ path ∈ imports, ',' ∉ path.toList := by
    intro path hpath
    obtain ⟨written, -, item, hitem, hread⟩ := (hmem path).mp hpath
    by_cases hcomma : ',' ∈ written.toList
    · obtain ⟨piece, hpiece, rfl⟩ := List.mem_map.mp hitem
      exact Text.comma_notMem_of_read hcomma hpiece hread
    · rwa [hself hcomma hitem hread]
  have hread : ∀ path ∈ paths, ',' ∉ path.toList → path ∈ imports := by
    intro path hpath hcomma
    refine (hmem path).mpr ⟨path, hpath, Text.Quoted.write path.toList, ?_, Text.read_write _⟩
    rw [importItems_write hcomma]
    exact List.mem_cons_self
  refine ⟨fun path hpath => ⟨hfree path, hread path hpath⟩, fun hexact path hpath =>
    hfree path ((hexact path).mpr hpath), fun hcommas path => ⟨fun hpath => ?_, fun hpath =>
    hread path hpath (hcommas path hpath)⟩⟩
  obtain ⟨written, hwritten, item, hitem, hitemread⟩ := (hmem path).mp hpath
  rwa [hself (hcommas written hwritten) hitem hitemread]

/-- Of three paths the second one has a comma, and a back-quoted text after it. -/
theorem parse_importDirective_three :
    ["std::fs", "a, `b`", "x::\"y\""] ≠ [] ∧
    (∀ path ∈ ["std::fs", "a, `b`", "x::\"y\""], '%' ∉ (Text.Quoted.quote path).toList) ∧
    let imports :=
      (parse (.ofPairs []) (importDirective ["std::fs", "a, `b`", "x::\"y\""])).parts.imports
    (∀ path ∈ ["std::fs", "a, `b`", "x::\"y\""], path ∈ imports ↔ ',' ∉ path.toList) ∧
      ((∀ path, path ∈ imports ↔ path ∈ ["std::fs", "a, `b`", "x::\"y\""]) ↔
        ∀ path ∈ ["std::fs", "a, `b`", "x::\"y\""], ',' ∉ path.toList) := by
  have hne : ["std::fs", "a, `b`", "x::\"y\""] ≠ [] := List.cons_ne_nil _ _
  have hquote : ∀ path ∈ ["std::fs", "a, `b`", "x::\"y\""],
      '%' ∉ (Text.Quoted.quote path).toList := by
    decide +kernel
  exact ⟨hne, hquote, parse_importDirective (.ofPairs []) hne hquote⟩

/-- **Paths in a group are not imported**: the literal is cut at the comma between them. -/
theorem parse_importDirective_group :
    '%' ∉ (Text.Quoted.quote "std::\x7bfs, io\x7d").toList ∧
    ¬ ∀ path, path ∈ (parse (.ofPairs [])
      (importDirective ["std::\x7bfs, io\x7d"])).parts.imports ↔
        path ∈ ["std::\x7bfs, io\x7d"] := by
  refine ⟨by decide +kernel, fun hexact => ?_⟩
  have himported := (hexact "std::\x7bfs, io\x7d").mpr List.mem_cons_self
  exact absurd himported (by decide +kernel)

end

end LivePages.Page
