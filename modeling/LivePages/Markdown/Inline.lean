/-!
# Text within a block

What a run of marked-up text consists of.

## Main definitions

* `Inline` — a part of such text.
* `Target` — where a link leads.
-/

namespace LivePages.Markdown

/-- Where a link leads, or where an image is found. -/
structure Target where
  /-- The address. -/
  address : List Char
  /-- The title. -/
  title : List Char := []
  deriving DecidableEq, Repr

/-- A part of marked-up text. -/
inductive Inline where
  /-- Characters, line ends included. -/
  | text (text : List Char)
  /-- A break in front of a line end, which shows that the line ends there. -/
  | lineBreak
  /-- Program text. -/
  | code (text : List Char)
  | emphasis (content : List Inline)
  | strong (content : List Inline)
  | link (target : Target) (content : List Inline)
  | image (target : Target) (content : List Inline)

end LivePages.Markdown
