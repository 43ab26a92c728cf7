import LivePages.Proofs.Page.Imported
import LivePages.Proofs.Page.Imports
import LivePages.Proofs.Site.ScannedPaths
import LivePages.Proofs.Source.HandlerFrame

/-!
# The Declarations of a Module's Imports

A path is imported in several spellings: there may be blanks around it, the word `use` before it and
a semicolon after it. A page collects its imports as they are written, in a set that has every
spelling once. Only when the module is written are the paths taken out of the spellings, and two
spellings of one path become one declaration written twice.

So the declarations of a module are pairwise different exactly if no path is imported in two
spellings, in the page and all the files that are merged into it. What names nothing, such as a
semicolon alone, is never declared.

## Main results

* `trim_eq_iff`: a text with blanks around it.
* `importPath_eq_iff`: the spellings of a path.
* `mem_importLines`: what is declared.
* `nodup_importLines_iff`: when no declaration is made twice.
-/

namespace LivePages.Text

/-! ### Texts with something around them -/

/-- The first text is the second one with blanks around it, all of them. -/
def IsPadded (s t : List Char) : Prop :=
  IsTrimmed t ∧ ∃ front back, (∀ c ∈ front, isBlank c = true) ∧ (∀ c ∈ back, isBlank c = true) ∧
    s = front ++ t ++ back

/-- Where no blank comes first, none is dropped. -/
theorem dropWhile_isBlank_append {s t : List Char} (ht : ∀ c ∈ t.head?, isBlank c = false)
    (hs : ∀ c ∈ s, isBlank c = true) : (s ++ t).dropWhile isBlank = t := by
  rw [List.dropWhile_append_of_pos hs]
  cases t with
  | nil => rfl
  | cons c t => exact List.dropWhile_cons_of_neg (by simp [ht c rfl])

/-- **Trimming takes off all blanks around a text**, and nothing else. -/
theorem trim_eq_iff {s t : List Char} : trim s = t ↔ IsPadded s t := by
  constructor
  · rintro rfl
    exact ⟨isTrimmed_trim s, exists_trim s⟩
  · rintro ⟨⟨hhead, hlast⟩, front, back, hfront, hback, rfl⟩
    have hends : ∀ c ∈ t.reverse.head?, isBlank c = false := by rwa [List.head?_reverse]
    cases t with
    | nil =>
        have hstart : (front ++ back).dropWhile isBlank = [] :=
          List.dropWhile_eq_nil_iff.mpr fun c hc => (List.mem_append.mp hc).elim (hfront c) (hback c)
        rw [List.append_nil, trim, trimStart, hstart]
        rfl
    | cons c t =>
        have hstart : ∀ d ∈ (c :: t ++ back).head?, isBlank d = false := hhead
        rw [List.append_assoc, trim, trimStart, dropWhile_isBlank_append hstart hfront, trimEnd,
          List.reverse_append,
          dropWhile_isBlank_append hends fun d hd => hback d (List.mem_reverse.mp hd),
          List.reverse_reverse]

section

variable {α : Type} [DecidableEq α] {start stop s t : List α}

/-- A start that need not be there is taken off once. -/
theorem getD_withoutPrefix?_eq_iff :
    (withoutPrefix? start s).getD s = t ↔ s = start ++ t ∨ s = t ∧ ¬ start <+: s := by
  cases hs : withoutPrefix? start s with
  | none =>
      have hnot : ¬ start <+: s := by
        rintro ⟨r, hr⟩
        rw [withoutPrefix?_eq_some_iff.mpr hr.symm] at hs
        cases hs
      refine ⟨fun h => .inr ⟨h, hnot⟩, ?_⟩
      rintro (rfl | h)
      · exact absurd (List.prefix_append start t) hnot
      · exact h.1
  | some r =>
      obtain rfl := withoutPrefix?_eq_some_iff.mp hs
      simp [List.prefix_append]

/-- An end that need not be there is taken off once. -/
theorem getD_withoutSuffix?_eq_iff :
    (withoutSuffix? stop s).getD s = t ↔ s = t ++ stop ∨ s = t ∧ ¬ stop <:+ s := by
  have hreverse : (withoutSuffix? stop s).getD s =
      ((withoutPrefix? stop.reverse s.reverse).getD s.reverse).reverse := by
    rw [withoutSuffix?]
    cases withoutPrefix? stop.reverse s.reverse <;> simp
  rw [hreverse, List.reverse_eq_iff, getD_withoutPrefix?_eq_iff, ← List.reverse_append,
    List.reverse_inj, List.reverse_inj, List.reverse_prefix]

end

end LivePages.Text

namespace LivePages.Source

open Text (IsPadded)

/-! ### Spellings -/

/-- A path is spelled so in an import: with or without the word before it, with or without the
semicolon after it, with blanks around the whole and around the path. One word and one semicolon
are taken as not belonging to the path. -/
def Spells (written path : String) : Prop :=
  ∃ sentence body phrase : List Char, IsPadded written.toList sentence ∧
    (sentence = "use ".toList ++ body ∨ sentence = body ∧ ¬ "use ".toList <+: sentence) ∧
    (body = phrase ++ [';'] ∨ body = phrase ∧ ¬ [';'] <:+ body) ∧
    IsPadded phrase path.toList

/-- **The path of an import is the one that it spells.** -/
theorem importPath_eq_iff {written path : String} :
    importPath written = path ↔ Spells written path := by
  have hpath (phrase : List Char) :
      String.ofList (Text.trim phrase) = path ↔ Text.trim phrase = path.toList := by
    rw [← String.toList_inj, String.toList_ofList]
  simp only [importPath, hpath, Spells, ← Text.trim_eq_iff, ← Text.getD_withoutPrefix?_eq_iff,
    ← Text.getD_withoutSuffix?_eq_iff]
  constructor
  · exact fun h => ⟨_, _, _, rfl, rfl, rfl, h⟩
  · rintro ⟨_, _, _, rfl, rfl, rfl, h⟩
    exact h

example : importPath " use  std::io ; " = "std::io" := by decide +kernel

/-! ### Declarations -/

/-- The declaration of a path. -/
def useLine (path : String) : String :=
  "use " ++ path ++ ";"

theorem useLine_injective : Function.Injective useLine :=
  fun _ _ h => eq_of_append_eq h

theorem importLines_eq (imports : List String) :
    importLines imports = ((imports.map importPath).filter (· ≠ "")).map useLine :=
  rfl

/-- **Every path that is spelled is declared**, unless it is empty, and nothing else is. -/
theorem mem_importLines {imports : List String} {line : String} :
    line ∈ importLines imports ↔
      ∃ written ∈ imports, ∃ path, Spells written path ∧ path ≠ "" ∧ line = useLine path := by
  rw [importLines_eq]
  simp only [List.mem_map, List.mem_filter, decide_eq_true_eq, ← importPath_eq_iff]
  constructor
  · rintro ⟨path, ⟨⟨written, hwritten, hpath⟩, hne⟩, rfl⟩
    exact ⟨written, hwritten, path, hpath, hne, rfl⟩
  · rintro ⟨written, hwritten, path, hpath, hne, rfl⟩
    exact ⟨path, ⟨⟨written, hwritten, hpath⟩, hne⟩, rfl⟩

/-- The declarations for a set are pairwise different exactly if no path has two spellings in it. -/
theorem nodup_importLines {imports : List String} (h : imports.Nodup) :
    (importLines imports).Nodup ↔ ∀ a ∈ imports, ∀ b ∈ imports, ∀ path,
      Spells a path → Spells b path → path ≠ "" → a = b := by
  rw [importLines_eq, List.nodup_map_iff useLine_injective, List.filter_map,
    List.nodup_map_iff_inj_on (h.filter _)]
  simp only [← importPath_eq_iff, List.mem_filter, Function.comp_apply, decide_eq_true_eq]
  constructor
  · rintro hinj a ha b hb path rfl hpath hne
    exact hinj a ⟨ha, hne⟩ b ⟨hb, fun hempty => hne (hpath.symm.trans hempty)⟩ hpath.symm
  · rintro hinj a ⟨ha, hne⟩ b ⟨hb, -⟩ hpath
    exact hinj a ha b hb _ rfl hpath.symm hne

/-- **The declarations for the imports are pairwise different, exactly if no path is imported in two
spellings** by the page and the files that are merged into it. They stand together in the module,
after the one that every module has, and there is one for every path that is imported. -/
theorem nodup_importLines_iff (loader : Page.Loader) (page url : String) :
    let parts := (Page.parse loader page).parts
    (∃ back, renderHandler parts url = unlines
      ([commentLine url, allowLine, "", "use rsp_runtime::prelude::*;"] ++
        importLines parts.imports ++ "" :: back)) ∧
    (∀ line, line ∈ importLines parts.imports ↔ ∃ written path,
      Page.Imported loader page written ∧ Spells written path ∧ path ≠ "" ∧
        line = "use " ++ path ++ ";") ∧
    ((importLines parts.imports).Nodup ↔ ∀ a b path,
      Page.Imported loader page a → Page.Imported loader page b →
        Spells a path → Spells b path → path ≠ "" → a = b) := by
  intro parts
  refine ⟨?_, fun line => ?_, ?_⟩
  · refine ⟨addressLine (Text.Quoted.quote url) ::
      (["", openingLine] ++ parts.fragments.map fragmentLine ++ ["\x7d"]), ?_⟩
    rw [renderHandler_eq]
    simp only [List.append_assoc, List.cons_append, List.nil_append]
  · rw [mem_importLines]
    simp only [parts, Page.mem_imports_parse]
    constructor
    · rintro ⟨written, himported, path, hspells, hne, hline⟩
      exact ⟨written, path, himported, hspells, hne, hline⟩
    · rintro ⟨written, path, himported, hspells, hne, hline⟩
      exact ⟨written, himported, path, hspells, hne, hline⟩
  · rw [nodup_importLines (Page.nodup_imports_parse loader page)]
    simp only [Page.mem_imports_parse]
    exact ⟨fun h a b path ha hb => h a ha b hb path, fun h a ha b hb path => h a b path ha hb⟩

/-- **A path that is imported with a semicolon and without one is declared twice.** -/
theorem importLines_repeated :
    importLines (Page.parse (.ofPairs [])
      "<%!import \"std::io\", \"std::io;\"%>").parts.imports = ["use std::io;", "use std::io;"] ∧
    ¬ ∀ page, (importLines (Page.parse (.ofPairs []) page).parts.imports).Nodup := by
  have htwice : importLines (Page.parse (.ofPairs [])
      "<%!import \"std::io\", \"std::io;\"%>").parts.imports =
        ["use std::io;", "use std::io;"] := by
    decide +kernel
  refine ⟨htwice, fun hnodup => ?_⟩
  have hpage := hnodup "<%!import \"std::io\", \"std::io;\"%>"
  rw [htwice] at hpage
  simp at hpage

end LivePages.Source
