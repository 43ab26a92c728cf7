import LivePages.Markdown.Named
import LivePages.Text.Symbols

/-!
# Marked-up text

What single characters mean in marked-up text: which end a line, which separate words, and which
are written by name or number. A line may end in a line feed, a carriage return, or both.

## Main definitions

* `isSpace`, `isLineEnd` — classes of characters.
* `lineEnd?` — the end of a line.
* `reference?` — a character written by its name or number.
* `plain` — text with its backslashes and references read.
-/

namespace LivePages.Markdown

/-- The characters that separate words within a line. -/
def isSpace (c : Char) : Bool :=
  c == ' ' || c == '\t'

/-- The characters that end a line. -/
def isLineEnd (c : Char) : Bool :=
  c == '\n' || c == '\r'

/-- The characters that separate words, line ends included. -/
def isSpaceOrEnd (c : Char) : Bool :=
  isSpace c || isLineEnd c

/-- Reads the end of a line. -/
def lineEnd? : List Char → Option (List Char × List Char)
  | '\r' :: '\n' :: r => some (['\r', '\n'], r)
  | '\r' :: r => some (['\r'], r)
  | '\n' :: r => some (['\n'], r)
  | _ => none

/-- Text without the spaces it ends with. -/
def trimmedEnd (s : List Char) : List Char :=
  (s.reverse.dropWhile isSpace).reverse

/-- Text without the spaces that its lines start with, the first one apart. -/
def unindented : List Char → List Char
  | [] => []
  | c :: r => if isLineEnd c then c :: (unindented r).dropWhile isSpace else c :: unindented r

/-- Text without the spaces around its line ends. -/
def trimmedLines : List Char → List Char
  | [] => []
  | c :: r =>
    let rest := trimmedLines r
    if isLineEnd c then c :: rest.dropWhile isSpace
    else if isSpace c && rest.head?.any isLineEnd then rest
    else c :: rest

/-- The character of a number. One that must not be written gives the replacement character. -/
def numbered (n : Nat) : Char :=
  let refused := n == 0 || n < 0x20 && !(n == 9 || n == 10 || n == 12 || n == 13)
    || 0x7F ≤ n && n ≤ 0x9F || 0xFDD0 ≤ n && n ≤ 0xFDEF || n % 0x10000 ≥ 0xFFFE
  match if refused then none else Text.scalar? n with
  | some c => c
  | none => '\uFFFD'

/-- Reads what follows an ampersand as a character written by its name or number. -/
def reference? (s : List Char) : Option (List Char × List Char) :=
  let upTo (most : Nat) (p : Char → Bool) (s : List Char) : Option (List Char × List Char) :=
    match s.takeWhile p, s.dropWhile p with
    | digits@(_ :: _), ';' :: r => if digits.length ≤ most then some (digits, r) else none
    | _, _ => none
  match s with
  | '#' :: 'x' :: r | '#' :: 'X' :: r => do
    let (digits, r) ← upTo 6 (fun c => (Text.hexValue? c).isSome) r
    return ([numbered (digits.foldl (fun n c => 16 * n + (Text.hexValue? c).getD 0) 0)], r)
  | '#' :: r => do
    let (digits, r) ← upTo 7 Char.isDigit r
    return ([numbered (digits.foldl (fun n c => 10 * n + (c.toNat - '0'.toNat)) 0)], r)
  | r => do
    let (name, r) ← upTo 31 Char.isAlphanum r
    return (← named? name, r)

/-- Text with its backslashes and references read. The bound is the number of characters. -/
def plainFrom : Nat → List Char → List Char
  | 0, _ | _, [] => []
  | fuel + 1, '\\' :: c :: r =>
    if Text.isAsciiSymbol c then c :: plainFrom fuel r else '\\' :: plainFrom fuel (c :: r)
  | fuel + 1, '&' :: r =>
    match reference? r with
    | some (s, r) => s ++ plainFrom fuel r
    | none => '&' :: plainFrom fuel r
  | fuel + 1, c :: r => c :: plainFrom fuel r

/-- Text with its backslashes and references read. -/
def plain (s : List Char) : List Char :=
  plainFrom s.length s

end LivePages.Markdown
