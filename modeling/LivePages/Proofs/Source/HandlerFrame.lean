import LivePages.Proofs.Source.Verbatim
import LivePages.Proofs.Text.Argument
import LivePages.Site.WebRoot
import LivePages.Site.Symbol

/-!
# What the Name of a Page Can Change

The address of a page stands in its module twice. As the literal of `URL_PATH` it is on one line and
stands for itself, whatever characters it has. In the comment at the top it is written as it is, and
a line feed in it ends the comment: what comes after it in the name of the page is a line of the
program. All other lines are those of every module with the same parts, so each line feed in the
path of a page is a line more, and the module is as it should be exactly if there is none.

## Main results

* `linesOf_renderHandler_eq`: the lines of the module for an address.
* `frame_iff`: when only two lines tell one page from another.
* `frame_broken`: a page whose name puts a function into its module.
-/

namespace LivePages.Text

variable {α : Type} [DecidableEq α]

/-- There is one piece more than there are separators. -/
theorem length_splitOn (separator : α) (s : List α) :
    (splitOn separator s).length = s.count separator + 1 := by
  induction s with
  | nil => rfl
  | cons a s ih =>
      rw [splitOn, List.count_cons]
      by_cases ha : a = separator
      · rw [if_pos ha, List.length_cons, ih, if_pos (beq_iff_eq.mpr ha)]
      · obtain ⟨piece, pieces, hs⟩ := List.exists_cons_of_ne_nil (splitOn_ne_nil separator s)
        rw [if_neg ha, if_neg (mt beq_iff_eq.mp ha), hs, List.length_cons]
        rwa [hs] at ih

end LivePages.Text

namespace LivePages.Site

/-- The address of a page has the line feeds of its path. -/
theorem count_feed_pageUrl (path : String) :
    (pageUrl path).toList.count '\n' = path.toList.count '\n' := by
  have hslashed (s : List Char) :
      (s.map fun c => if c = '\\' then '/' else c).count '\n' = s.count '\n' := by
    induction s with
    | nil => rfl
    | cons c s ih =>
        rw [List.map_cons, List.count_cons, List.count_cons, ih]
        by_cases hc : c = '\\' <;> simp [hc]
  have hdropped (s : List Char) : (s.dropWhile (· = '/')).count '\n' = s.count '\n' := by
    induction s with
    | nil => rfl
    | cons c s ih =>
        by_cases hc : c = '/'
        · rw [List.dropWhile_cons_of_pos (by simpa using hc), ih, List.count_cons]
          simp [hc]
        · rw [List.dropWhile_cons_of_neg (by simpa using hc)]
  rw [pageUrl, String.toList_ofList, List.count_cons, hdropped, hslashed]
  rfl

end LivePages.Site

namespace LivePages.Source

/-- The comment at the top of a module. -/
def commentLine (url : String) : String :=
  "// Generated by rsps from " ++ url ++ ". Do not edit."

/-- The line with the literal of an address. -/
def addressLine (literal : String) : String :=
  "pub const URL_PATH: &str = " ++ literal ++ ";"

/-- The line that silences warnings. -/
def allowLine : String :=
  "#![allow(unused_imports, unused_variables, unused_mut, unused_braces, unreachable_code)]"

/-- The lines between the comment and the line of the address. -/
def middleLines (parts : Page.Parts) : List String :=
  [allowLine, "", "use rsp_runtime::prelude::*;"] ++ (importLines parts.imports).flatMap linesOf ++
    [""]

/-- The lines after the line of the address. -/
def restLines (parts : Page.Parts) : List String :=
  ["", openingLine] ++ (parts.fragments.map fragmentLine).flatMap linesOf ++ ["\x7d", ""]

theorem feed_notMem_addressLine (url : String) :
    '\n' ∉ (addressLine (Text.Quoted.quote url)).toList := by
  unfold addressLine
  simp [feed_notMem_quote]

/-- The texts that a module is written from. -/
theorem renderHandler_eq (parts : Page.Parts) (url : String) :
    renderHandler parts url = unlines (commentLine url ::
      ([allowLine, "", "use rsp_runtime::prelude::*;"] ++ importLines parts.imports ++ [""] ++
        addressLine (Text.Quoted.quote url) ::
          (["", openingLine] ++ parts.fragments.map fragmentLine ++ ["\x7d"]))) := by
  have hhead : handlerHead parts.imports url = commentLine url ::
      ([allowLine, "", "use rsp_runtime::prelude::*;"] ++ importLines parts.imports ++ [""] ++
        addressLine (Text.Quoted.quote url) :: ["", openingLine]) := by
    rw [handlerHead, openingLine, handlerName]
    simp only [List.append_assoc, List.cons_append, List.nil_append]
    rfl
  rw [renderHandler, hhead]
  simp only [List.append_assoc, List.cons_append, List.nil_append]

/-- **The lines of a module.** The address breaks no line but that of the comment. -/
theorem linesOf_renderHandler_eq (parts : Page.Parts) (url : String) :
    linesOf (renderHandler parts url) = linesOf (commentLine url) ++
      (middleLines parts ++ addressLine (Text.Quoted.quote url) :: restLines parts) := by
  have hallow : linesOf allowLine = [allowLine] := linesOf_of_notMem (by decide)
  have huse : linesOf "use rsp_runtime::prelude::*;" = ["use rsp_runtime::prelude::*;"] :=
    linesOf_of_notMem (by decide)
  have hopening : linesOf openingLine = [openingLine] := linesOf_of_notMem (by decide)
  have hblank : linesOf "" = [""] := rfl
  have hbrace : linesOf "\x7d" = ["\x7d"] := rfl
  have haddress := linesOf_of_notMem (feed_notMem_addressLine url)
  rw [renderHandler_eq, linesOf_unlines_eq, middleLines, restLines]
  simp only [List.flatMap_cons, List.flatMap_append, List.flatMap_nil, hallow, huse, hopening,
    hblank, hbrace, haddress, List.append_assoc, List.cons_append, List.nil_append,
    List.append_nil]

/-- There are no line feeds in the comment but those of the address. -/
theorem count_feed_commentLine (url : String) :
    (commentLine url).toList.count '\n' = url.toList.count '\n' := by
  have hfront : "// Generated by rsps from ".toList.count '\n' = 0 := by decide
  have hback : ". Do not edit.".toList.count '\n' = 0 := by decide
  unfold commentLine
  rw [String.toList_append, String.toList_append, List.count_append, List.count_append, hfront,
    hback, Nat.zero_add, Nat.add_zero]

/-- Every line feed in the path of a page is a line more in its module. -/
theorem length_linesOf_renderHandler (parts : Page.Parts) (path : String) :
    (linesOf (renderHandler parts (Site.pageUrl path))).length =
      (middleLines parts).length + (restLines parts).length + 2 + path.toList.count '\n' := by
  have hcomment : (linesOf (commentLine (Site.pageUrl path))).length =
      path.toList.count '\n' + 1 := by
    rw [linesOf, List.length_map, Text.length_splitOn, count_feed_commentLine,
      Site.count_feed_pageUrl]
  rw [linesOf_renderHandler_eq, List.length_append, hcomment, List.length_append, List.length_cons]
  omega

/-- **Only two lines of a module tell one page from another, exactly if there is no line feed in the
path of the page.** Then the first line is a comment with the whole address, the second one silences
warnings, and one more has a literal that stands for the address; all others are the same for every
page with these parts. Every line feed in the path is a line more. -/
theorem frame_iff (parts : Page.Parts) : ∃ middle rest : List String,
    middle.head? = some
      "#![allow(unused_imports, unused_variables, unused_mut, unused_braces, unreachable_code)]" ∧
    ∀ path,
      ((∃ literal, linesOf (renderHandler parts (Site.pageUrl path)) =
          ("// Generated by rsps from " ++ Site.pageUrl path ++ ". Do not edit.") ::
            (middle ++ ("pub const URL_PATH: &str = " ++ literal ++ ";") :: rest) ∧
          Text.Quoted.unquote literal = .ok (Site.pageUrl path)) ↔ '\n' ∉ path.toList) ∧
      (linesOf (renderHandler parts (Site.pageUrl path))).length =
        middle.length + rest.length + 2 + path.toList.count '\n' := by
  refine ⟨middleLines parts, restLines parts, rfl, fun path => ⟨⟨?_, fun hfeed => ?_⟩,
    length_linesOf_renderHandler parts path⟩⟩
  · rintro ⟨literal, hlines, -⟩
    have hlength := length_linesOf_renderHandler parts path
    rw [hlines, List.length_cons, List.length_append, List.length_cons] at hlength
    rw [← List.count_eq_zero]
    omega
  · have hcomment : '\n' ∉ (commentLine (Site.pageUrl path)).toList := by
      rwa [← List.count_eq_zero, count_feed_commentLine, Site.count_feed_pageUrl,
        List.count_eq_zero]
    refine ⟨Text.Quoted.quote (Site.pageUrl path), ?_, (isLiteral_quote _).unquote_eq⟩
    rw [linesOf_renderHandler_eq, linesOf_of_notMem hcomment]
    rfl

/-- **A name with line feeds breaks the comment**, and what stands between them is a line of the
program. -/
theorem frame_broken :
    Files.Path.isName "a\nfn f() \x7b\x7d\n.rsp" = true ∧
    Site.isPage "a\nfn f() \x7b\x7d\n.rsp" = true ∧
    (linesOf (renderHandler {} (Site.pageUrl "a\nfn f() \x7b\x7d\n.rsp"))).take 4 =
      ["// Generated by rsps from /a", "fn f() \x7b\x7d", ".rsp. Do not edit.",
        "#![allow(unused_imports, unused_variables, unused_mut, unused_braces, unreachable_code)]"]
    := by
  have hcomment : linesOf (commentLine (Site.pageUrl "a\nfn f() \x7b\x7d\n.rsp")) =
      ["// Generated by rsps from /a", "fn f() \x7b\x7d", ".rsp. Do not edit."] := by
    decide +kernel
  refine ⟨by decide +kernel, by decide +kernel, ?_⟩
  rw [linesOf_renderHandler_eq, hcomment]
  rfl

end LivePages.Source
