import LivePages.Shell.Calculation
import LivePages.Text.Split
import LivePages.Text.Utf8

/-!
# Formatted output of shell scripts

What `echo` and `printf` print.

## Main definitions

* `echoed` — the words with their escapes read.
* `formatted` — a format filled in, as often as it takes to use all arguments up.
-/

namespace LivePages.Shell

/-- What is printed, and whether printing ends there. -/
structure Printed where
  /-- The bytes. -/
  bytes : List UInt8
  /-- Nothing is printed after them. -/
  stops : Bool := false

/-- Bytes in front of others. -/
def Printed.after (bytes : List UInt8) (p : Printed) : Printed :=
  { p with bytes := bytes ++ p.bytes }

/-- The escapes of one letter and the byte each stands for. -/
def letterEscapes : List (Char × UInt8) :=
  [('a', 7), ('b', 8), ('f', 12), ('n', 10), ('r', 13), ('t', 9), ('v', 11), ('\\', 92)]

/-- The byte of at most so many octal digits, and the rest. -/
def octal (most : Nat) (s : List Char) : UInt8 × List Char :=
  let digits := (s.takeWhile fun c => '0' ≤ c && c ≤ '7').take most
  let n := digits.foldl (fun n c => n * 8 + (c.toNat - '0'.toNat)) 0
  (UInt8.ofNat n, s.drop digits.length)

/-- Text with its escapes read; an octal one has a zero in front of its digits. The bound is the
number of characters. -/
def unescaped : Nat → List Char → Printed
  | 0, _ | _, [] => ⟨[], false⟩
  | fuel + 1, '\\' :: c :: r =>
    match letterEscapes.lookup c with
    | some b => (unescaped fuel r).after [b]
    | none =>
      if c == 'c' then ⟨[], true⟩
      else if c == '0' then
        let (b, r) := octal 3 r
        (unescaped fuel r).after [b]
      else (unescaped fuel (c :: r)).after [92]
  | fuel + 1, c :: r => (unescaped fuel r).after (Text.Utf8.encode [c])

/-- What `echo` prints for its words. -/
def echoed (words : List String) : List UInt8 :=
  let (words, ending) : List String × List UInt8 := match words with
    | "-n" :: r => (r, [])
    | words => (words, [10])
  let text := (Text.joined " " words).toList
  let printed := unescaped text.length text
  if printed.stops then printed.bytes else printed.bytes ++ ending

/-- A place of a format that an argument fills. -/
structure Blank where
  /-- The marks in front of the width. -/
  flags : List Char
  /-- The least number of characters. -/
  width : Nat
  /-- The most characters of a text, or the fewest digits of a number. -/
  precision : Option Nat
  /-- What kind of argument is filled in. -/
  kind : Char

/-- The number that digits spell. -/
def decimal (digits : List Char) : Nat :=
  digits.foldl (fun n c => n * 10 + (c.toNat - '0'.toNat)) 0

/-- Reads a place of a format behind its percent sign. -/
def blank? (s : List Char) : Option (Blank × List Char) :=
  let isFlag (c : Char) : Bool := "-+ 0#".toList.contains c
  let r := s.dropWhile isFlag
  let width := r.takeWhile (·.isDigit)
  let r := r.dropWhile (·.isDigit)
  let (precision, r) := match r with
    | '.' :: r => (some (decimal (r.takeWhile (·.isDigit))), r.dropWhile (·.isDigit))
    | r => (none, r)
  match r with
  | kind :: r => some (⟨s.takeWhile isFlag, decimal width, precision, kind⟩, r)
  | [] => none

/-- Fills text up with blanks to the width of a place. -/
def Blank.pad (b : Blank) (text : List UInt8) : List UInt8 :=
  let space := List.replicate (b.width - text.length) (32 : UInt8)
  if b.flags.contains '-' then text ++ space else space ++ text

/-- Fills a number up with zeros and blanks. -/
def Blank.padNumber (b : Blank) (sign digits : List Char) : List UInt8 :=
  let least := match b.precision with
    | some n => n
    | none =>
      if b.flags.contains '0' && !b.flags.contains '-' then b.width - sign.length else 0
  let zeros := List.replicate (least - digits.length) '0'
  b.pad (Text.Utf8.encode (sign ++ zeros ++ digits))

/-- The number that an argument spells; what spells none counts as zero. -/
def numberOf (argument : String) : Int :=
  match argument.toList with
  | '\'' :: c :: _ | '"' :: c :: _ => c.toNat
  | '-' :: r => -(literal? r).getD 0
  | '+' :: r => (literal? r).getD 0
  | r => (literal? r).getD 0

/-- The text of a place that an argument fills. -/
def Blank.fill (b : Blank) (argument : String) : Printed :=
  let cut (l : List UInt8) : List UInt8 := match b.precision with
    | some n => l.take n
    | none => l
  let unsigned (base : Nat) : List Char :=
    Nat.toDigits base ((numberOf argument) % 0x10000000000000000).toNat
  match b.kind with
  | 's' => ⟨b.pad (cut (Text.Utf8.ofString argument)), false⟩
  | 'b' =>
    let printed := unescaped argument.length argument.toList
    ⟨b.pad (cut printed.bytes), printed.stops⟩
  | 'c' => ⟨b.pad ((Text.Utf8.ofString argument).take 1), false⟩
  | 'd' | 'i' =>
    let n := numberOf argument
    let sign := if n < 0 then ['-'] else if b.flags.contains '+' then ['+']
      else if b.flags.contains ' ' then [' '] else []
    ⟨b.padNumber sign (Nat.toDigits 10 n.natAbs), false⟩
  | 'u' => ⟨b.padNumber [] (unsigned 10), false⟩
  | 'o' => ⟨b.padNumber [] (unsigned 8), false⟩
  | 'x' => ⟨b.padNumber (if b.flags.contains '#' then ['0', 'x'] else []) (unsigned 16), false⟩
  | 'X' =>
    let mark := if b.flags.contains '#' then ['0', 'X'] else []
    ⟨b.padNumber mark ((unsigned 16).map (·.toUpper)), false⟩
  | _ => ⟨[], false⟩

/-- A format filled in once: what is printed, and the arguments that are left. The bound is the
number of characters. -/
def formatOnce : Nat → List Char → List String → Printed × List String
  | 0, _, arguments | _, [], arguments => (⟨[], false⟩, arguments)
  | fuel + 1, '%' :: '%' :: r, arguments =>
    let (p, arguments) := formatOnce fuel r arguments
    (p.after [37], arguments)
  | fuel + 1, '%' :: r, arguments =>
    match blank? r with
    | none => (⟨[37], false⟩, arguments)
    | some (blank, r) =>
      let filled := blank.fill (arguments.headD "")
      if filled.stops then (filled, [])
      else
        let (p, arguments) := formatOnce fuel r (arguments.drop 1)
        (p.after filled.bytes, arguments)
  | fuel + 1, '\\' :: c :: r, arguments =>
    let (bytes, r) := match letterEscapes.lookup c with
      | some b => ([b], r)
      | none =>
        if c == '"' || c == '\'' then (Text.Utf8.encode [c], r)
        else if '0' ≤ c && c ≤ '7' then let (b, r) := octal 3 (c :: r); ([b], r)
        else ([92], c :: r)
    if c == 'c' then (⟨[], true⟩, [])
    else
      let (p, arguments) := formatOnce fuel r arguments
      (p.after bytes, arguments)
  | fuel + 1, c :: r, arguments =>
    let (p, arguments) := formatOnce fuel r arguments
    (p.after (Text.Utf8.encode [c]), arguments)

/-- A format filled in, as often as it takes to use all arguments up. The bound is the number of
arguments. -/
def formattedFrom : Nat → String → List String → List UInt8
  | 0, format, arguments => (formatOnce format.length format.toList arguments).1.bytes
  | fuel + 1, format, arguments =>
    let (p, left) := formatOnce format.length format.toList arguments
    if p.stops || left.isEmpty || left.length == arguments.length then p.bytes
    else p.bytes ++ formattedFrom fuel format left

/-- A format filled in, as often as it takes to use all arguments up. -/
def formatted (format : String) (arguments : List String) : List UInt8 :=
  formattedFrom arguments.length format arguments

end LivePages.Shell
