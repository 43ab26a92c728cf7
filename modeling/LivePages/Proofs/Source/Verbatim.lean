import LivePages.Backend.Reply
import LivePages.Proofs.Files.Join
import LivePages.Proofs.Page.Printing
import LivePages.Proofs.Text.Literal
import LivePages.Source.Handler

/-!
# Static Text Is Served Verbatim

A page of text and remarks becomes a handler whose body has one line for every run of text, a call
that prints a literal. The literals stand for the runs: the scanner keeps every character outside
the remarks, and the spelling of a literal loses none and breaks no line.

## Main results

* `linesOf_unlines`: the lines of a module are those it is put together from.
* `parse_eq_of_isStatic`: all that a static page leaves is its text.
* `printed_verbatim`: the body of the handler prints the page without its remarks.
-/

namespace LivePages.Source

/-! ### Lines -/

/-- What stands between the same two texts is the same. -/
theorem eq_of_append_eq {front back a b : String} (h : front ++ a ++ back = front ++ b ++ back) :
    a = b := by
  have hlist := congrArg String.toList h
  simp only [String.toList_append] at hlist
  exact String.toList_injective (List.append_cancel_left (List.append_cancel_right hlist))

/-- What stands between the line feeds of a text. -/
def linesOf (text : String) : List String :=
  (Text.splitOn '\n' text.toList).map String.ofList

/-- A text without line feeds is one line. -/
theorem linesOf_of_notMem {line : String} (h : '\n' ∉ line.toList) : linesOf line = [line] := by
  rw [linesOf, Text.splitOn_of_notMem h, List.map_singleton, String.ofList_toList]

/-- Texts that are written out one after the other have their lines one after the other, with
nothing after the last. -/
theorem linesOf_unlines_eq (texts : List String) :
    linesOf (unlines texts) = texts.flatMap linesOf ++ [""] := by
  induction texts with
  | nil => rfl
  | cons text rest ih =>
      have htext : (unlines (text :: rest)).toList =
          text.toList ++ '\n' :: (unlines rest).toList := by
        simp [unlines]
      rw [List.flatMap_cons, List.append_assoc, ← ih, linesOf, htext, Text.splitOn_append_cons,
        List.map_append]
      rfl

/-- Lines that are written out one after the other come back, with nothing after the last. -/
theorem linesOf_unlines {lines : List String} (h : ∀ line ∈ lines, '\n' ∉ line.toList) :
    linesOf (unlines lines) = lines ++ [""] := by
  have hlines : lines.flatMap linesOf = lines.flatMap fun line => [line] :=
    List.flatMap_congr fun line hline => linesOf_of_notMem (h line hline)
  rw [linesOf_unlines_eq, hlines, List.flatMap_singleton']

/-! ### Static pages -/

/-- The item is a remark. -/
def isRemark : Page.Item → Bool
  | .tag .comment _ => true
  | _ => false

/-- The page has only text and remarks, all of them closed. -/
def IsStatic (page : String) : Prop :=
  (Page.scan page.toList).tail = .none ∧
    ∀ i ∈ (Page.scan page.toList).items, i.isText ∨ isRemark i

instance (page : String) : Decidable (IsStatic page) :=
  inferInstanceAs (Decidable (_ ∧ _))

/-- The runs of text of a page. -/
def textRuns (page : String) : List String :=
  ((Page.scan page.toList).items.filter Page.Item.isText).map fun i => String.ofList i.spelling

/-- A page without its tags. -/
def withoutTags (page : String) : String :=
  String.ofList (Page.spell ((Page.scan page.toList).items.filter Page.Item.isText))

theorem join_textRuns (page : String) : String.join (textRuns page) = withoutTags page := by
  refine String.toList_injective ?_
  simp [textRuns, withoutTags, Page.spell, List.flatMap_map]

theorem eq_text_or_eq_comment {i : Page.Item} (h : i.isText ∨ isRemark i) :
    (∃ run, i = .text run) ∨ ∃ body, i = .tag .comment body := by
  cases i with
  | text run => exact .inl ⟨run, rfl⟩
  | tag kind body =>
      cases kind with
      | comment => exact .inr ⟨body, rfl⟩
      | code | eval | directive | unmarked => simp [Page.Item.isText, isRemark] at h

/-- Among text and remarks, only the text leaves fragments. -/
theorem filterMap_fragment? {items : List Page.Item}
    (h : ∀ i ∈ items, i.isText ∨ isRemark i) :
    items.filterMap Page.Item.fragment? =
      (items.filter Page.Item.isText).map fun i => .literal (String.ofList i.spelling) := by
  induction items with
  | nil => rfl
  | cons i items ih =>
      have hrest := ih fun j hj => h j (List.mem_cons_of_mem i hj)
      rcases eq_text_or_eq_comment (h i List.mem_cons_self) with ⟨run, rfl⟩ | ⟨body, rfl⟩
      · exact congrArg (Page.Fragment.literal (String.ofList run) :: ·) hrest
      · exact hrest

/-- All that a static page leaves is its text, whatever the loader knows. -/
theorem parse_eq_of_isStatic (loader : Page.Loader) {page : String} (h : IsStatic page) :
    Page.parse loader page =
      { parts := { fragments := (textRuns page).map Page.Fragment.literal } } := by
  have hplain : ∀ i ∈ (Page.scan page.toList).items, i.isDirective = false := by
    intro i hi
    rcases eq_text_or_eq_comment (h.2 i hi) with ⟨run, rfl⟩ | ⟨body, rfl⟩ <;> rfl
  have hparse := Page.foldlM_addItem_scan loader page
  rw [Page.foldlM_addItem_of_not_isDirective hplain, filterMap_fragment? h.2, h.1] at hparse
  rw [← Option.some.inj hparse, textRuns, List.map_map]
  rfl

/-! ### The handler of a static page -/

/-- The line that opens the body of a handler. -/
def openingLine : String :=
  "pub fn __process__(request: &PageRequest, response: &mut PageResponse) \x7b"

/-- The line that prints a literal. -/
def printingLine (literal : String) : String :=
  "    response.print_str(" ++ literal ++ ");"

theorem fragmentLine_literal (text : String) :
    fragmentLine (.literal text) = printingLine (Text.Quoted.quote text) :=
  rfl

theorem isLiteral_quote (text : String) :
    Text.IsLiteral (Text.Quoted.quote text).toList text.toList := by
  rw [Text.Quoted.quote, String.toList_ofList]
  exact Text.isLiteral_write _

theorem feed_notMem_quote (text : String) : '\n' ∉ (Text.Quoted.quote text).toList := by
  obtain ⟨inside, heq, hinside⟩ := isLiteral_quote text
  simp [heq, hinside.feed_notMem]

theorem feed_notMem_printingLine (text : String) :
    '\n' ∉ (printingLine (Text.Quoted.quote text)).toList := by
  unfold printingLine
  simp [feed_notMem_quote]

/-- What stands before the opening line in a module without imports. -/
def frontLines (url : String) : List String :=
  ["// Generated by rsps from " ++ url ++ ". Do not edit.",
    "#![allow(unused_imports, unused_variables, unused_mut, unused_braces, unreachable_code)]",
    "",
    "use rsp_runtime::prelude::*;",
    "",
    "pub const URL_PATH: &str = " ++ Text.Quoted.quote url ++ ";",
    ""]

theorem handlerHead_nil (url : String) : handlerHead [] url = frontLines url ++ [openingLine] := by
  rw [handlerHead, openingLine, handlerName]
  rfl

/-- The handler of a static page, line by line. -/
theorem linesOf_renderHandler (loader : Page.Loader) {page url : String} (hpage : IsStatic page)
    (hurl : '\n' ∉ url.toList) :
    linesOf (renderHandler (Page.parse loader page).parts url) =
      frontLines url ++ openingLine ::
        (((textRuns page).map Text.Quoted.quote).map printingLine ++ ["\x7d", ""]) := by
  have hfront : ∀ line ∈ frontLines url ++ [openingLine], '\n' ∉ line.toList := by
    simp [frontLines, openingLine, hurl, feed_notMem_quote]
  have hbody : (textRuns page).map (fragmentLine ∘ Page.Fragment.literal) =
      ((textRuns page).map Text.Quoted.quote).map printingLine := by
    rw [List.map_map]
    exact List.map_congr_left fun text _ => fragmentLine_literal text
  rw [renderHandler, parse_eq_of_isStatic loader hpage, List.map_map, hbody, handlerHead_nil,
    linesOf_unlines]
  · simp only [List.append_assoc, List.cons_append, List.nil_append]
  · intro line hline
    rcases List.mem_append.mp hline with hline | hline
    · rcases List.mem_append.mp hline with hline | hline
      · exact hfront line hline
      · simp only [List.map_map, List.mem_map] at hline
        obtain ⟨text, -, rfl⟩ := hline
        exact feed_notMem_printingLine text
    · rw [List.mem_singleton.mp hline]
      decide

/-- Texts are printed one after the other. -/
theorem body_foldl_print (texts : List String) (reply : Backend.Reply) :
    (texts.foldl Backend.Reply.print reply).body = reply.body ++ String.join texts := by
  induction texts generalizing reply with
  | nil => simp
  | cons text texts ih => simp [ih, Backend.Reply.print, String.append_assoc]

/-- Texts that a sequence of literals stands for are those that were spelled. -/
theorem eq_of_forall₂_isLiteral {texts spelled : List String}
    (h : List.Forall₂ (fun q t => Text.IsLiteral q.toList t.toList)
      (spelled.map Text.Quoted.quote) texts) : texts = spelled := by
  induction spelled generalizing texts with
  | nil => exact List.forall₂_nil_left_iff.mp h
  | cons text spelled ih =>
      obtain ⟨t, rest, ht, hrest, rfl⟩ := List.forall₂_cons_left_iff.mp h
      have heq : t = text := String.toList_injective (ht.unique (isLiteral_quote text))
      rw [heq, ih hrest]

/-- **Static text is served verbatim.** A page of text and closed remarks, whatever characters it
holds, becomes a module whose lines between the opening of the handler and its last brace all print
a literal, whatever the loader knows and if only the address breaks no line. What the literals
stand for, printed in their order, is the page without its remarks. -/
theorem printed_verbatim (loader : Page.Loader) {page url : String} (hpage : IsStatic page)
    (hurl : '\n' ∉ url.toList) :
    ∃ front literals, linesOf (renderHandler (Page.parse loader page).parts url) =
        front ++ "pub fn __process__(request: &PageRequest, response: &mut PageResponse) \x7b" ::
          ((literals.map fun q => "    response.print_str(" ++ q ++ ");") ++ ["\x7d", ""]) ∧
      (∀ line ∈ front, ¬ "pub fn __process__".toList <+: line.toList) ∧
      (∀ q ∈ literals, ∃ text, q = Text.Quoted.quote text ∧
        Text.IsLiteral q.toList text.toList) ∧
      ∀ texts, List.Forall₂ (fun q t => Text.IsLiteral q.toList t.toList) literals texts →
        String.join texts = withoutTags page ∧
          (texts.foldl Backend.Reply.print {}).body = withoutTags page := by
  refine ⟨frontLines url, (textRuns page).map Text.Quoted.quote,
    linesOf_renderHandler loader hpage hurl, by simp [frontLines], ?_, ?_⟩
  · intro q hq
    obtain ⟨text, -, rfl⟩ := List.mem_map.mp hq
    exact ⟨text, rfl, isLiteral_quote text⟩
  · intro texts htexts
    have hjoin : String.join texts = withoutTags page := by
      rw [eq_of_forall₂_isLiteral htexts, join_textRuns]
    refine ⟨hjoin, ?_⟩
    rw [body_foldl_print, hjoin, String.empty_append]

/-- A page whose text needs escapes of every shape, with a remark in its middle, a percent sign
before the end of the remark, and half an opener at the end. -/
def escapedPage : String :=
  "<p title=\"a\\b\">\n\t<%# not %this% %>e\u0301\x7f<"

theorem printed_verbatim_escapedPage :
    IsStatic escapedPage ∧ '\n' ∉ "/index.rsp".toList ∧
    withoutTags escapedPage = "<p title=\"a\\b\">\n\te\u0301\x7f<" ∧
    ∃ front literals,
      linesOf (renderHandler (Page.parse (.ofPairs []) escapedPage).parts "/index.rsp") =
        front ++ "pub fn __process__(request: &PageRequest, response: &mut PageResponse) \x7b" ::
          ((literals.map fun q => "    response.print_str(" ++ q ++ ");") ++ ["\x7d", ""]) ∧
      (∀ line ∈ front, ¬ "pub fn __process__".toList <+: line.toList) ∧
      (∀ q ∈ literals, ∃ text, q = Text.Quoted.quote text ∧
        Text.IsLiteral q.toList text.toList) ∧
      ∀ texts, List.Forall₂ (fun q t => Text.IsLiteral q.toList t.toList) literals texts →
        String.join texts = withoutTags escapedPage ∧
          (texts.foldl Backend.Reply.print {}).body = withoutTags escapedPage :=
  ⟨by decide, by decide, by decide,
    printed_verbatim (.ofPairs []) (by decide) (by decide)⟩

end LivePages.Source
