import LivePages.Markdown.Tag

/-!
# Blocks of HTML

A line that starts with HTML may begin a block of it, which goes on over the lines that follow.
Where it ends depends on what began it.

## Main definitions

* `HtmlKind` — what a block of HTML begins with.
* `HtmlKind.isEndedBy` — a line with which a block ends.
* `HtmlSign`, `htmlSign` — what a line begins.
-/

namespace LivePages.Markdown

/-- What a block of HTML begins with. -/
inductive HtmlKind where
  | comment
  | declaration
  /-- A section of characters. -/
  | characters
  | instruction
  /-- A tag whose contents may hold blank lines. -/
  | raw
  /-- A tag that begins a block wherever it stands. -/
  | basic
  /-- Any other tag that is alone on its line. -/
  | complete
  deriving DecidableEq, Repr

/-- The tags that begin a block of HTML wherever they stand. -/
def blockTags : List String :=
  ["address", "article", "aside", "base", "basefont", "blockquote", "body", "caption", "center",
    "col", "colgroup", "dd", "details", "dialog", "dir", "div", "dl", "dt", "fieldset",
    "figcaption", "figure", "footer", "form", "frame", "frameset", "h1", "h2", "h3", "h4", "h5",
    "h6", "head", "header", "hr", "html", "iframe", "legend", "li", "link", "main", "menu",
    "menuitem", "nav", "noframes", "ol", "optgroup", "option", "p", "param", "search", "section",
    "summary", "table", "tbody", "td", "tfoot", "th", "thead", "title", "tr", "track", "ul"]

/-- The tags whose contents may hold blank lines. -/
def rawTags : List String :=
  ["pre", "script", "style", "textarea"]

/-! ### Ends -/

/-- A text stands somewhere in another one, whatever the case. -/
def occursIn (text s : List Char) : Bool :=
  (after? text (s.map Char.toLower)).isSome

/-- The end of a section of characters stands somewhere: the brackets are read in pairs. -/
def endsCharacters : List Char → Bool
  | ']' :: ']' :: '>' :: _ => true
  | ']' :: ']' :: r => endsCharacters r
  | _ :: r => endsCharacters r
  | [] => false

/-- A block of the kind ends before a blank line. -/
def HtmlKind.endsAtBlank (kind : HtmlKind) : Bool :=
  kind == .basic || kind == .complete

/-- A line is the last one of a block of the kind. -/
def HtmlKind.isEndedBy (kind : HtmlKind) (s : List Char) : Bool :=
  match kind with
  | .comment => occursIn "-->".toList s
  | .declaration => occursIn ['>'] s
  | .characters => endsCharacters s
  | .instruction => occursIn "?>".toList s
  | .raw => rawTags.any fun tag => occursIn ("</".toList ++ tag.toList ++ ['>']) s
  | .basic | .complete => false

/-! ### Tags alone on a line -/

/-- Where reading stands behind the name of a tag that has to end on its line. -/
inductive TagState where
  /-- In front of an attribute. -/
  | beforeName
  | name
  | behindName
  | beforeValue
  /-- Inside a value in marks. -/
  | quoted (mark : Char)
  | behindQuoted
  | bare
  /-- Behind the name of a closing tag. -/
  | closing
  /-- Behind a slash. -/
  | slash
  /-- Behind the tag. -/
  | complete
  deriving DecidableEq, Repr

namespace TagState

/-- The end of the tag. -/
def ends? (c : Char) : Option TagState :=
  if c == '>' then some .complete else none

/-- A character in front of an attribute. -/
def readBeforeName? (c : Char) : Option TagState :=
  if isSpace c then some .beforeName
  else if c == '/' then some .slash
  else if c.isAlphanum || c == ':' || c == '_' then some .name
  else ends? c

/-- A character behind the name of an attribute or a value without marks. -/
def readBehindName? (c : Char) : Option TagState :=
  if isSpace c then some .behindName
  else if c == '=' then some .beforeValue
  else readBeforeName? c

/-- A character of a value without marks. -/
def readBare? (c : Char) : Option TagState :=
  if isSpace c || "\"'/<=>\x60".toList.contains c then readBehindName? c else some .bare

/-- The state after a character. -/
def next? (state : TagState) (c : Char) : Option TagState :=
  match state with
  | .beforeName => readBeforeName? c
  | .name => if c.isAlphanum || "-.:_".toList.contains c then some .name else readBehindName? c
  | .behindName => readBehindName? c
  | .beforeValue =>
    if "<=>\x60".toList.contains c then none
    else if isSpace c then some .beforeValue
    else if c == '"' || c == '\'' then some (.quoted c)
    else readBare? c
  | .quoted mark => some (if c == mark then .behindQuoted else state)
  | .behindQuoted => if isSpace c || c == '/' || c == '>' then readBeforeName? c else none
  | .bare => readBare? c
  | .closing => if isSpace c then some .closing else ends? c
  | .slash => ends? c
  | .complete => if isSpace c then some .complete else none

end TagState

/-! ### Starts -/

/-- What a line that starts with HTML begins. -/
inductive HtmlSign where
  | nothing
  /-- The line ends before it is known. -/
  | unknown
  | block (kind : HtmlKind)
  deriving DecidableEq, Repr

/-- A tag that is alone on its line, behind its name. -/
def loneTagSign (closing : Bool) (s : List Char) : HtmlSign :=
  match s.foldlM TagState.next? (if closing then .closing else .beforeName) with
  | none => .nothing
  | some .complete => .block .complete
  | some _ => .unknown

/-- What a tag begins, behind its `<` and the slash of a closing one. -/
def tagSign (inParagraph closing : Bool) (s : List Char) : HtmlSign :=
  match s with
  | [] => .unknown
  | c :: _ =>
    let name := String.ofList ((s.takeWhile isTagChar).map Char.toLower)
    let behind := s.dropWhile isTagChar
    let slash := behind.head? == some '/'
    if !c.isAlpha || !(behind.head?.all fun d => isSpace d || d == '/' || d == '>') then .nothing
    else if !slash && !closing && rawTags.contains name then .block .raw
    else if blockTags.contains name then
      match behind with
      | ['/'] => .unknown
      | '/' :: d :: _ => if d == '>' then .block .basic else .nothing
      | _ => .block .basic
    else if inParagraph then .nothing
    else loneTagSign closing behind

/-- What a line begins that starts with `<!`, behind that. -/
def declarationSign (s : List Char) : HtmlSign :=
  let characters := "[CDATA[".toList
  match s with
  | [] | ['-'] => .unknown
  | '-' :: '-' :: _ => .block .comment
  | c :: _ =>
    if c.isAlpha then .block .declaration
    else if characters.isPrefixOf s then .block .characters
    else if s.isPrefixOf characters then .unknown
    else .nothing

/-- What a line begins. In the middle of a paragraph, not every tag begins a block. -/
def htmlSign (inParagraph : Bool) (s : List Char) : HtmlSign :=
  match s with
  | '<' :: '!' :: r => declarationSign r
  | '<' :: '?' :: _ => .block .instruction
  | '<' :: '/' :: r => tagSign inParagraph true r
  | '<' :: r => tagSign inParagraph false r
  | _ => .nothing

end LivePages.Markdown
