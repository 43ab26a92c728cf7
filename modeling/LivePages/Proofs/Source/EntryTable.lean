import LivePages.Proofs.Source.Verbatim
import LivePages.Source.Entry

/-!
# The Modules of the Entry Point

The entry point has two lines that declare a module for every page, and after them a table with one
row for every page. Both are in the order of the pages and numbered alike, so the number of a module
says which page its source and its address belong to.

## Main results

* `linesOf_renderEntry`: the lines of the entry point.
* `declares_renderEntry`: what is declared for the page at a position.
-/

namespace LivePages.Source

variable {pages : List EntryPage} {page : EntryPage} {k : ℕ}

/-- A position in a list that is made of pairs. -/
theorem getElem?_flatMap_of_length_two {α β : Type} {f : α → List β}
    (hf : ∀ a, (f a).length = 2) (l : List α) (k : ℕ) {i : ℕ} (hi : i < 2) :
    (l.flatMap f)[2 * k + i]? = l[k]?.bind fun a => (f a)[i]? := by
  induction l generalizing k with
  | nil => simp
  | cons a l ih =>
      rw [List.flatMap_cons]
      cases k with
      | zero =>
          rw [List.getElem?_append_left (by rw [hf a]; omega), Nat.mul_zero, Nat.zero_add]
          rfl
      | succ k =>
          have hindex : 2 * (k + 1) + i - (f a).length = 2 * k + i := by
            rw [hf a]
            omega
          rw [List.getElem?_append_right (by rw [hf a]; omega), hindex, ih]
          rfl

/-- The pages with their positions. -/
def numbered (pages : List EntryPage) : List (ℕ × EntryPage) :=
  pages.zipIdx.map fun p => (p.2, p.1)

theorem length_numbered (pages : List EntryPage) : (numbered pages).length = pages.length := by
  rw [numbered, List.length_map, List.length_zipIdx]

theorem getElem?_numbered (h : pages[k]? = some page) : (numbered pages)[k]? = some (k, page) := by
  simp [numbered, h]

/-- The lines before the declarations. -/
def openingLines : List String :=
  ["// Generated by rsps. Do not edit.", ""]

/-- The lines between the declarations and the rows. -/
def tableLines : List String :=
  ["", "static PAGES: &[(&str, rsp_runtime::PageHandler)] = &["]

/-- The lines after the rows. -/
def closingLines : List String :=
  ["];", "", "fn main() -> std::process::ExitCode \x7b", "    rsp_runtime::run(PAGES)", "\x7d"]

theorem moduleLines_eq (k : ℕ) (page : EntryPage) : moduleLines k page =
    ["#[path = " ++ Text.Quoted.quote ("pages/" ++ page.symbol ++ ".rs") ++ "]",
      "mod page_" ++ toString k ++ ";"] :=
  rfl

theorem tableRow_eq (k : ℕ) (page : EntryPage) : tableRow k page =
    "    (" ++ Text.Quoted.quote page.url ++ ", page_" ++ toString k ++ "::" ++ handlerName ++
      ")," :=
  rfl

theorem feed_notMem_toString (n : ℕ) : '\n' ∉ (toString n).toList :=
  fun hmem => absurd (Text.isDigit_of_mem_toString hmem) (by decide)

theorem feed_notMem_moduleLines (k : ℕ) (page : EntryPage) {line : String}
    (h : line ∈ moduleLines k page) : '\n' ∉ line.toList := by
  have hnumber := feed_notMem_toString k
  have hquote := feed_notMem_quote ("pages/" ++ page.symbol ++ ".rs")
  simp only [moduleLines_eq, List.mem_cons, List.not_mem_nil, or_false] at h
  rcases h with rfl | rfl <;> simp_all

theorem feed_notMem_tableRow (k : ℕ) (page : EntryPage) : '\n' ∉ (tableRow k page).toList := by
  have hnumber := feed_notMem_toString k
  have hquote := feed_notMem_quote page.url
  simp_all [tableRow_eq, handlerName]

/-- **The entry point, line by line.** -/
theorem linesOf_renderEntry (pages : List EntryPage) :
    linesOf (renderEntry pages) =
      openingLines ++ ((numbered pages).flatMap (fun p => moduleLines p.1 p.2) ++ (tableLines ++
        ((numbered pages).map (fun p => tableRow p.1 p.2) ++ (closingLines ++ [""])))) := by
  have htext : renderEntry pages = unlines (openingLines ++
      ((numbered pages).flatMap (fun p => moduleLines p.1 p.2) ++ (tableLines ++
        ((numbered pages).map (fun p => tableRow p.1 p.2) ++ closingLines)))) := by
    simp only [renderEntry, openingLines, tableLines, closingLines, numbered, List.append_assoc]
  rw [htext, linesOf_unlines]
  · simp only [List.append_assoc]
  · intro line hline
    simp only [List.mem_append, List.mem_flatMap, List.mem_map] at hline
    rcases hline with h | ⟨p, -, h⟩ | h | ⟨p, -, rfl⟩ | h
    · revert line
      decide
    · exact feed_notMem_moduleLines p.1 p.2 h
    · revert line
      decide
    · exact feed_notMem_tableRow p.1 p.2
    · revert line
      decide

/-- The text declares a module for the page at a position, by the path of its source, and has a row
with the address of the page and the handler of this module. -/
structure Declares (text : String) (count k : ℕ) (page : EntryPage) : Prop where
  /-- The path of the source of the module. -/
  path : ∃ literal : String,
    Text.IsLiteral literal.toList ("pages/" ++ page.symbol ++ ".rs").toList ∧
      (linesOf text)[2 + 2 * k]? = some ("#[path = " ++ literal ++ "]")
  /-- The module. -/
  module : (linesOf text)[2 + (2 * k + 1)]? = some ("mod page_" ++ toString k ++ ";")
  /-- The row. -/
  row : ∃ literal : String, Text.IsLiteral literal.toList page.url.toList ∧
    (linesOf text)[2 + (2 * count + (2 + k))]? =
      some ("    (" ++ literal ++ ", page_" ++ toString k ++ "::" ++ handlerName ++ "),")

/-- **Every page is declared**, its source and its address under the same number. -/
theorem declares_renderEntry (h : pages[k]? = some page) :
    Declares (renderEntry pages) pages.length k page := by
  have hk : k < pages.length := (List.getElem?_eq_some_iff.mp h).1
  have hnumbered := getElem?_numbered h
  have hlength : ((numbered pages).flatMap fun p => moduleLines p.1 p.2).length =
      2 * pages.length := by
    rw [List.length_flatMap, ← length_numbered pages]
    simp [moduleLines_eq, Nat.mul_comm]
  have hmodule (i : ℕ) (hi : i < 2) :
      (linesOf (renderEntry pages))[2 + (2 * k + i)]? = (moduleLines k page)[i]? := by
    rw [linesOf_renderEntry, List.getElem?_append_right (Nat.le_add_right 2 _),
      List.getElem?_append_left (by rw [hlength]; simp [openingLines]; omega)]
    have hindex : 2 + (2 * k + i) - openingLines.length = 2 * k + i := Nat.add_sub_cancel_left 2 _
    rw [hindex, getElem?_flatMap_of_length_two (fun _ => rfl) _ _ hi, hnumbered]
    rfl
  constructor
  · exact ⟨_, isLiteral_quote _, hmodule 0 Nat.zero_lt_two⟩
  · exact hmodule 1 Nat.one_lt_two
  · refine ⟨_, isLiteral_quote _, ?_⟩
    rw [linesOf_renderEntry, List.getElem?_append_right (Nat.le_add_right 2 _)]
    have hindex : 2 + (2 * pages.length + (2 + k)) - openingLines.length =
        2 * pages.length + (2 + k) := Nat.add_sub_cancel_left 2 _
    rw [hindex, List.getElem?_append_right (by omega), hlength, Nat.add_sub_cancel_left,
      List.getElem?_append_right (Nat.le_add_right 2 k)]
    have hrow : 2 + k - tableLines.length = k := Nat.add_sub_cancel_left 2 k
    rw [hrow, List.getElem?_append_left (by rwa [List.length_map, length_numbered]),
      List.getElem?_map, hnumbered, Option.map_some, tableRow_eq]

end LivePages.Source
