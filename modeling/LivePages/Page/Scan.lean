import LivePages.Page.Item

/-!
# Scanning a page

A page is cut into items from left to right. In text each `<` is paired with the character after
it, and in a tag each `%`: the pair `<%` opens a tag and the pair `%>` closes it, and any other pair
stands for itself, so `<<%` opens no tag and `%%>` closes none.

## Main definitions

* `scan` — the items of a page, and what is left over when its last tag is not closed.
-/

namespace LivePages.Page

/-- What follows the last item of a page. -/
inductive Tail where
  /-- Nothing. -/
  | none
  /-- A tag without an end: its kind, the body as far as it goes, and whether a percent sign that
  has no partner follows. -/
  | unclosed (kind : TagKind) (body : List Char) (percent : Bool)
  deriving DecidableEq, Repr

/-- The text of a tail. -/
def Tail.spelling : Tail → List Char
  | .none => []
  | .unclosed kind body percent => kind.opener ++ body ++ if percent then ['%'] else []

/-- A page cut into items. -/
structure Scan where
  /-- The items, in order. -/
  items : List Item
  /-- What follows them. -/
  tail : Tail
  deriving DecidableEq, Repr

/-- Where the scanner stands. The characters of the item it is in are kept last one first. -/
inductive Mode where
  /-- In plain text. -/
  | text (run : List Char)
  /-- In plain text, after a `<` that has no partner yet. -/
  | lessThan (run : List Char)
  /-- After `<%`. -/
  | opened
  /-- In the body of a tag. -/
  | body (kind : TagKind) (run : List Char)
  /-- In the body of a tag, after a `%` that has no partner yet. -/
  | percent (kind : TagKind) (run : List Char)

/-- A finished run of text is an item unless it is empty. -/
def textItems (run : List Char) : List Item :=
  if run.isEmpty then [] else [.text run.reverse]

/-- The kind that the character after `<%` marks. -/
def TagKind.ofMarker? (c : Char) : Option TagKind :=
  if c = '=' then some .eval
  else if c = '!' then some .directive
  else if c = '#' then some .comment
  else none

/-- Puts items in front of a scan. -/
def Scan.prepend (items : List Item) (rest : Scan) : Scan :=
  ⟨items ++ rest.items, rest.tail⟩

/-- Scans on from where the scanner stands. -/
def scanFrom : Mode → List Char → Scan
  | .text run, [] => ⟨textItems run, .none⟩
  | .text run, c :: r =>
    if c = '<' then scanFrom (.lessThan run) r else scanFrom (.text (c :: run)) r
  | .lessThan run, [] => ⟨textItems ('<' :: run), .none⟩
  | .lessThan run, c :: r =>
    if c = '%' then (scanFrom .opened r).prepend (textItems run)
    else scanFrom (.text (c :: '<' :: run)) r
  | .opened, [] => ⟨[], .unclosed .code [] false⟩
  | .opened, c :: r =>
    match TagKind.ofMarker? c with
    | some kind => scanFrom (.body kind []) r
    | none => if c = '%' then scanFrom (.percent .unmarked []) r else scanFrom (.body .code [c]) r
  | .body kind run, [] => ⟨[], .unclosed kind run.reverse false⟩
  | .body kind run, c :: r =>
    if c = '%' then scanFrom (.percent kind run) r else scanFrom (.body kind (c :: run)) r
  | .percent kind run, [] => ⟨[], .unclosed kind run.reverse true⟩
  | .percent kind run, c :: r =>
    if c = '>' then (scanFrom (.text []) r).prepend [.tag kind run.reverse]
    else scanFrom (.body kind (c :: '%' :: run)) r

/-- The items of a page. -/
def scan (page : List Char) : Scan :=
  scanFrom (.text []) page

end LivePages.Page
