import LivePages.Proofs.Page.Seams
import LivePages.Proofs.Page.Simulation
import LivePages.Proofs.Text.Argument

/-!
# Directives as They Are Written

A directive is written as a word, a blank, and a quoted text or a list of quoted texts. If there is
no percent sign in it, it is the body of a closed tag, and it is read as the command that was meant.
In a page it takes effect after what stands before it and before what follows.

## Main results

* `isSound_of_notMem`: a tag without a percent sign in it.
* `ofBody_word`: where the word of a directive ends.
* `MergeKind.merge?_tag`: the directive that names a file asks for its merge.
* `parse_around_tag`: the account of a page around a tag.
-/

namespace LivePages.Text

/-- The literal of a text has no blank at either end, so one before it is all that is trimmed. -/
theorem trim_cons_write (s : List Char) : trim (' ' :: Quoted.write s) = Quoted.write s := by
  have hspace : isBlank ' ' = true := by decide
  have hquote : isBlank '"' = false := by decide
  simp [trim, trimStart, trimEnd, Quoted.write, hspace, hquote]

end LivePages.Text

namespace LivePages.Page

/-- There is no pair without its first character. -/
theorem unpaired?_of_notMem {lead stop : Char} {s : List Char} (h : lead ∉ s) :
    unpaired? lead stop s = some false := by
  induction s with
  | nil => rfl
  | cons c s ih =>
      rw [List.mem_cons, not_or] at h
      rw [unpaired?_cons (Ne.symm h.1), ih h.2]

/-- A directive without a percent sign is the body of a tag. -/
theorem isSound_of_notMem {body : List Char} (h : '%' ∉ body) :
    (Item.tag .directive body).IsSound :=
  ⟨trivial, unpaired?_of_notMem h⟩

/-- The command of a directive that begins with a word of letters and a blank. -/
theorem ofBody_word (word rest : List Char) (h : ∀ c ∈ word, Text.isLetter c = true) :
    (word ++ ' ' :: rest).takeWhile Text.isLetter = word ∧
      (word ++ ' ' :: rest).dropWhile Text.isLetter = ' ' :: rest := by
  have hblank : Text.isLetter ' ' = false := by decide
  constructor
  · rw [List.takeWhile_append_of_pos h, List.takeWhile_cons_of_neg (by simp [hblank]),
      List.append_nil]
  · rw [List.dropWhile_append_of_pos h, List.dropWhile_cons_of_neg (by simp [hblank])]

/-! ### Files named by a page -/

namespace MergeKind

/-- The directive that merges a file. -/
def directive (kind : MergeKind) (path : String) : String :=
  "<%!" ++ kind.word ++ " " ++ Text.Quoted.quote path ++ "%>"

/-- The item that is written as the directive. -/
def tag (kind : MergeKind) (path : String) : Item :=
  .tag .directive (kind.word.toList ++ ' ' :: Text.Quoted.write path.toList)

variable {kind : MergeKind} {path : String}

theorem ofList_spelling_tag (kind : MergeKind) (path : String) :
    String.ofList (kind.tag path).spelling = kind.directive path := by
  rw [← String.toList_inj]
  simp [directive, tag, Item.spelling, TagKind.opener, Text.Quoted.quote]

/-- The word is one of letters. -/
theorem isLetter_of_mem_word : ∀ c ∈ kind.word.toList, Text.isLetter c = true := by
  have hall : kind.word.toList.all Text.isLetter = true := by cases kind <;> decide
  exact List.all_eq_true.mp hall

/-- The directive is a closed tag if there is no percent sign in the literal of the file. -/
theorem isSound_tag (h : '%' ∉ (Text.Quoted.quote path).toList) : (kind.tag path).IsSound := by
  have hword : '%' ∉ kind.word.toList := by cases kind <;> decide
  rw [Text.Quoted.quote, String.toList_ofList] at h
  refine isSound_of_notMem ?_
  simp [hword, h]

/-- **The directive asks for the merge of the file.** -/
theorem merge?_tag (kind : MergeKind) (path : String) :
    (kind.tag path).merge? = some (kind, path) := by
  obtain ⟨htake, hdrop⟩ := ofBody_word kind.word.toList (Text.Quoted.write path.toList)
    isLetter_of_mem_word
  have hbody : Directive.ofBody (kind.word.toList ++ ' ' :: Text.Quoted.write path.toList) =
      .merge kind (Text.Quoted.write path.toList) := by
    rw [Directive.ofBody, htake, hdrop, Text.trim_cons_write, String.ofList_toList]
    cases kind <;> rfl
  rw [tag, Item.merge?, hbody, Directive.merge?, Text.read_write, Except.toOption, Option.map_some,
    String.ofList_toList]

end MergeKind

/-! ### The page around a tag -/

/-- **A page around a tag** is put together in three parts: what stands before the tag, the tag, and
what follows. -/
theorem parse_around_tag {loader : Loader} {before after : String} {kind : TagKind}
    {body : List Char} {a b q : Progress} {ms ms' ms'' : List Merge}
    (hbefore : EndsInText before.toList) (htag : (Item.tag kind body).IsSound)
    (ha : Merges loader 0 (scan before.toList).items {} ms a)
    (hb : Merges loader 0 [.tag kind body] a ms' b)
    (hq : Merges loader 0 (scan after.toList).items b ms'' q) :
    (parse loader (before ++ String.ofList (Item.tag kind body).spelling ++ after)).parts =
      q.parts := by
  have hitems : (scan
      (before ++ String.ofList (Item.tag kind body).spelling ++ after).toList).items =
        (scan before.toList).items ++ [.tag kind body] ++ (scan after.toList).items := by
    rw [String.toList_append, String.toList_append, String.toList_ofList,
      scan_around_tag hbefore htag]
    rfl
  have hall := (ha.append hb).append hq
  rw [← hitems] at hall
  rw [parse_eq hall, parts_addTail]

/-- A page around a directive that names a file. -/
theorem parse_around_directive {loader : Loader} {before after : String} {kind : MergeKind}
    {path : String} {a b q : Progress} {ms ms' ms'' : List Merge}
    (hbefore : EndsInText before.toList) (hquote : '%' ∉ (Text.Quoted.quote path).toList)
    (ha : Merges loader 0 (scan before.toList).items {} ms a)
    (hb : Merges loader 0 [kind.tag path] a ms' b)
    (hq : Merges loader 0 (scan after.toList).items b ms'' q) :
    (parse loader (before ++ kind.directive path ++ after)).parts = q.parts := by
  rw [← MergeKind.ofList_spelling_tag]
  exact parse_around_tag hbefore (MergeKind.isSound_tag hquote) ha hb hq

/-- A page around an empty remark. -/
theorem parse_around_remark {loader : Loader} {before after : String} {a q : Progress}
    {ms ms' : List Merge} (hbefore : EndsInText before.toList)
    (ha : Merges loader 0 (scan before.toList).items {} ms a)
    (hq : Merges loader 0 (scan after.toList).items a ms' q) :
    (parse loader (before ++ "<%#%>" ++ after)).parts = q.parts := by
  have hspelling : String.ofList (Item.tag .comment []).spelling = "<%#%>" := by decide
  have hsound : (Item.tag .comment []).IsSound := ⟨trivial, rfl⟩
  have hremark : Merges loader 0 [.tag .comment []] a [] a := .skip (fun _ => rfl) .nil
  rw [← hspelling]
  exact parse_around_tag hbefore hsound ha hremark hq

end LivePages.Page
