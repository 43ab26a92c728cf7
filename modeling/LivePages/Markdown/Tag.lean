import LivePages.Markdown.Text
import LivePages.Text.Split

/-!
# Tags

Where HTML stands in marked-up text. HTML is not passed on; what counts is how far it goes, since
nothing inside it is read as marked up.

## Main definitions

* `openTag?`, `closeTag?` — single tags.
* `html?` — any piece of HTML within a line of text.
-/

namespace LivePages.Markdown

/-- The rest behind the first place at which a text stands. -/
def after? (mark : List Char) : List Char → Option (List Char)
  | [] => none
  | c :: r =>
    match Text.withoutPrefix? mark (c :: r) with
    | some rest => some rest
    | none => after? mark r

/-- A letter or digit of ASCII, or a dash. -/
def isTagChar (c : Char) : Bool :=
  c.isAlphanum || c == '-'

/-- The rest behind the name of a tag. -/
def tagName? : List Char → Option (List Char)
  | c :: r => if c.isAlpha then some (r.dropWhile isTagChar) else none
  | [] => none

/-- The rest behind the value of an attribute. One without marks goes up to a space, a slash or the
end of the tag, and may start with a slash. -/
def attributeValue? : List Char → Option (List Char)
  | '"' :: r => after? ['"'] r
  | '\'' :: r => after? ['\''] r
  | c :: r =>
    let isBare (c : Char) : Bool := !isSpaceOrEnd c && !"\"'=<>/\x60".toList.contains c
    if isBare c || c == '/' then some (r.dropWhile isBare) else none
  | [] => none

/-- The rest behind the attributes of a tag. The bound is the number of characters. -/
def attributes? : Nat → List Char → Option (List Char)
  | 0, s => some s
  | fuel + 1, s =>
    let start := s.dropWhile isSpaceOrEnd
    match start with
    | c :: r =>
      if start.length < s.length && (c.isAlpha || c == '_' || c == ':') then
        let rest := r.dropWhile fun c => c.isAlphanum || "_.:-".toList.contains c
        match rest.dropWhile isSpaceOrEnd with
        | '=' :: value => (attributeValue? (value.dropWhile isSpaceOrEnd)).bind (attributes? fuel)
        | _ => attributes? fuel rest
      else some s
    | [] => some s

/-- The rest behind an opening tag, whose `<` has been read. -/
def openTag? (s : List Char) : Option (List Char) := do
  let r ← tagName? s
  let r ← attributes? r.length r
  match r.dropWhile isSpaceOrEnd with
  | '>' :: r | '/' :: '>' :: r => some r
  | _ => none

/-- The rest behind a closing tag, whose `<` has been read. -/
def closeTag? : List Char → Option (List Char)
  | '/' :: s => do
    let r ← tagName? s
    match r.dropWhile isSpaceOrEnd with
    | '>' :: r => some r
    | _ => none
  | _ => none

/-- The rest behind a piece of HTML, whose `<` has been read: a tag, a comment, an instruction, a
declaration or a section of characters. -/
def html? (s : List Char) : Option (List Char) :=
  match s with
  | '!' :: '-' :: '-' :: '>' :: r | '!' :: '-' :: '-' :: '-' :: '>' :: r => some r
  | '!' :: '-' :: '-' :: r => after? ['-', '-', '>'] r
  | '?' :: r => after? ['?', '>'] r
  | '!' :: c :: r =>
    match Text.withoutPrefix? "[CDATA[".toList (c :: r) with
    | some r => after? [']', ']', '>'] r
    | none => if c.isAlpha then after? ['>'] r else none
  | r => openTag? r <|> closeTag? r

end LivePages.Markdown
