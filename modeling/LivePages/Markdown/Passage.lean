import LivePages.Markdown.Text

/-!
# Passages

The text of a block. What stands in front of its lines, such as the mark of a quotation, does not
belong to the text, but it is what the first character of a line stands next to, and a part of the
labels that go over several lines.

## Main definitions

* `Passage` — text and what stands in front of its lines.
* `Passage.append` — a passage with another one on the next line.
* `Passage.source` — a part of the text with what stands in front of its lines.
-/

namespace LivePages.Markdown

/-- Text and what stands in front of its lines. -/
structure Passage where
  /-- The text. -/
  text : List Char
  /-- What stands in front of lines, with the number of characters from there to the end. -/
  margins : List (Nat × List Char) := []
  deriving DecidableEq, Repr

namespace Passage

/-- A line of text. -/
def ofLine (margin text : List Char) : Passage :=
  { text, margins := if margin.isEmpty then [] else [(text.length, margin)] }

/-- What stands in front of the rest of the text, if a line starts there. -/
def marginBefore (p : Passage) (rest : List Char) : List Char :=
  if p.margins.isEmpty then [] else (p.margins.lookup rest.length).getD []

/-- A passage with another one on the line behind it. -/
def append (p : Passage) (lineEnd : List Char) (q : Passage) : Passage :=
  let behind := lineEnd ++ q.text
  { text := p.text ++ behind
    margins := p.margins.map (fun m => (m.1 + behind.length, m.2)) ++ q.margins }

/-- The passage from one of its lines on. -/
def startingAt (p : Passage) (rest : List Char) : Passage :=
  { text := rest, margins := p.margins.filter fun m => m.1 ≤ rest.length }

/-- So many characters of the rest of the text, with what stands in front of their lines. -/
def sourceOf (p : Passage) : Nat → List Char → List Char
  | 0, _ | _, [] => []
  | n + 1, c :: r => c :: (p.marginBefore r ++ p.sourceOf n r)

/-- What stands between two places, each given by the rest of the text behind it. -/
def source (p : Passage) (start stop : List Char) : List Char :=
  let count := start.length - stop.length
  if p.margins.isEmpty then start.take count else p.sourceOf count start

end Passage

end LivePages.Markdown
