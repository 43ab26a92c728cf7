/-!
# Items of a page

A page is a sequence of items: runs of plain text, and tags. A tag starts with `<%`, a marker for
its kind and its body, and ends with `%>`.

## Main definitions

* `TagKind` — what a tag is for, with its `opener`.
* `Item`, `Item.spelling` — an item and the text it is written as.
-/

namespace LivePages.Page

/-- What a tag is for. -/
inductive TagKind where
  /-- `<% statements %>`: copied into the handler. -/
  | code
  /-- `<%= expression %>`: its value is printed. -/
  | eval
  /-- `<%# remark %>`: dropped. -/
  | comment
  /-- `<%!directive%>`. -/
  | directive
  /-- A tag whose second percent sign follows the first one directly. It counts as a directive, and
  that percent sign is already part of its body or of its end. -/
  | unmarked
  deriving DecidableEq, Repr

/-- The text that opens a tag. -/
def TagKind.opener : TagKind → List Char
  | .code => ['<', '%']
  | .eval => ['<', '%', '=']
  | .comment => ['<', '%', '#']
  | .directive => ['<', '%', '!']
  | .unmarked => ['<', '%']

/-- A piece of a page. -/
inductive Item where
  /-- Plain text between tags. -/
  | text (run : List Char)
  /-- A closed tag. -/
  | tag (kind : TagKind) (body : List Char)
  deriving DecidableEq, Repr

/-- The text an item is written as. -/
def Item.spelling : Item → List Char
  | .text run => run
  | .tag kind body => kind.opener ++ body ++ ['%', '>']

/-- The text a sequence of items is written as. -/
def spell (items : List Item) : List Char :=
  items.flatMap Item.spelling

end LivePages.Page
