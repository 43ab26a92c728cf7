import LivePages.Shell.Token

/-!
# Reading shell scripts

From tokens to commands. A word that stands bare where a command may begin can be one of those
that build commands of others, such as `if`.

## Main definitions

* `Command.ofTokens?` — the command that tokens spell.
* `Command.read?` — the command that a script spells.
-/

namespace LivePages.Shell

/-- The text of a word without quotes and values. -/
def bare? : Word → Option String
  | [.text s false] => some s
  | _ => none

/-- The words that end a part of a command. -/
def closers : List String :=
  ["then", "else", "elif", "fi", "do", "done", "\x7d"]

/-- The rest behind a bare word. -/
def expect? (keyword : String) : List Token → Option (List Token)
  | .word _ w :: r => if bare? w = some keyword then some r else none
  | _ => none

/-- No further command begins here. -/
def isEnd : List Token → Bool
  | [] => true
  | .sign s :: _ => s == ")"
  | .word _ w :: _ => (bare? w).any closers.contains
  | _ => false

/-- The rest behind all signs that only separate commands. -/
def skipSeparators : List Token → List Token
  | .sign ";" :: r => skipSeparators r
  | r => r

/-- The assignment that a word spells. -/
def assignment? : Word → Option (String × Word)
  | .text s false :: rest =>
    let name := s.toList.takeWhile isNameChar
    match s.toList.dropWhile isNameChar, name with
    | '=' :: value, first :: _ =>
      if first.isDigit then none
      else
        let pieces := if value.isEmpty then [] else [Piece.text (String.ofList value) false]
        some (String.ofList name, pieces ++ rest)
    | _, _ => none
  | _ => none

/-- The redirections at the start of some tokens. -/
def redirections? : List Token → Option (List Redirection × List Token)
  | .redirect stream mode :: .word _ target :: r => do
    let (more, r) ← redirections? r
    return (⟨stream, mode, target⟩ :: more, r)
  | .redirect .. :: _ => none
  | r => some ([], r)

/-- A command with redirections, if there are any. -/
def Command.withRedirections (command : Command) : List Redirection → Command
  | [] => command
  | redirections => .redirected command redirections

/-- The words and redirections of a tool. -/
def toolWords? : List Token → Option (List Word × List Redirection × List Token)
  | .word _ w :: r => do
    let (words, redirections, r) ← toolWords? r
    return (w :: words, redirections, r)
  | .redirect stream mode :: .word _ target :: r => do
    let (words, redirections, r) ← toolWords? r
    return (words, ⟨stream, mode, target⟩ :: redirections, r)
  | .redirect .. :: _ => none
  | r => some ([], [], r)

/-- The assignments in front of the words of a tool. -/
def splitAssignments : List Word → List (String × Word) × List Word
  | [] => ([], [])
  | w :: r =>
    match assignment? w with
    | some a => let (assignments, words) := splitAssignments r; (a :: assignments, words)
    | none => ([], w :: r)

/-- A tool with its arguments. -/
def simple? (tokens : List Token) : Option (Command × List Token) := do
  let (words, redirections, r) ← toolWords? tokens
  let line := match tokens with
    | .word line _ :: _ => line
    | _ => 1
  if words.isEmpty && redirections.isEmpty then none
  let (assignments, words) := splitAssignments words
  return ((Command.simple line assignments words).withRedirections redirections, r)

/-- The words up to the next sign. -/
def wordsHere : List Token → List Word × List Token
  | .word _ w :: r => let (words, r) := wordsHere r; (w :: words, r)
  | r => ([], r)

mutual

/-- Commands one after the other, up to where no further one begins. One that need not be waited
for is waited for all the same. -/
def list? : Nat → List Token → Option (Command × List Token)
  | 0, _ => none
  | fuel + 1, tokens => do
    let (commands, r) ← items? fuel (skipSeparators tokens)
    return (.sequence commands, r)

/-- The commands of a list. -/
def items? : Nat → List Token → Option (List Command × List Token)
  | 0, _ => none
  | fuel + 1, tokens =>
    if isEnd tokens then some ([], tokens)
    else do
      let (first, r) ← chain? fuel tokens
      match r with
      | .sign s :: r' =>
        if s == ";" || s == "&" then do
          let (rest, r) ← items? fuel (skipSeparators r')
          return (first :: rest, r)
        else if isEnd r then some ([first], r) else none
      | r => if isEnd r then some ([first], r) else none

/-- Commands joined by `&&` and `||`. -/
def chain? : Nat → List Token → Option (Command × List Token)
  | 0, _ => none
  | fuel + 1, tokens => do
    let (first, r) ← pipeline? fuel tokens
    links? fuel first r

/-- The further links of a chain. -/
def links? : Nat → Command → List Token → Option (Command × List Token)
  | 0, _, _ => none
  | fuel + 1, first, tokens =>
    match tokens with
    | .sign "&&" :: r => do
      let (second, r) ← pipeline? fuel (skipSeparators r)
      links? fuel (.both first second) r
    | .sign "||" :: r => do
      let (second, r) ← pipeline? fuel (skipSeparators r)
      links? fuel (.either first second) r
    | r => some (first, r)

/-- Commands joined by `|`, with `!` in front if their result is exchanged. -/
def pipeline? : Nat → List Token → Option (Command × List Token)
  | 0, _ => none
  | fuel + 1, tokens =>
    match expect? "!" tokens with
    | some r => do
      let (command, r) ← pipeline? fuel r
      return (.negation command, r)
    | none => do
      let (commands, r) ← stages? fuel tokens
      match commands with
      | [command] => return (command, r)
      | commands => return (.pipeline commands, r)

/-- The commands of a pipeline. -/
def stages? : Nat → List Token → Option (List Command × List Token)
  | 0, _ => none
  | fuel + 1, tokens => do
    let (first, r) ← command? fuel tokens
    match r with
    | .sign "|" :: r =>
      let (rest, r) ← stages? fuel (skipSeparators r)
      return (first :: rest, r)
    | r => return ([first], r)

/-- One command with its redirections. -/
def command? : Nat → List Token → Option (Command × List Token)
  | 0, _ => none
  | fuel + 1, tokens => do
    let keyword := match tokens with
      | .word _ w :: _ => (bare? w).getD ""
      | .sign s :: _ => s
      | _ => ""
    let r := tokens.drop 1
    let (command, r) ← match keyword with
      | "if" => branch? fuel r
      | "while" | "until" => do
        let (test, r) ← list? fuel r
        let (body, r) ← list? fuel (← expect? "do" r)
        pure (Command.loop (keyword == "while") test body, ← expect? "done" r)
      | "for" => each? fuel r
      | "\x7b" => do
        let (body, r) ← list? fuel r
        pure (body, ← expect? "\x7d" r)
      | "(" => do
        let (body, r) ← list? fuel r
        match r with
        | .sign ")" :: r => pure (Command.apart body, r)
        | _ => none
      | _ => simple? tokens
    let (redirections, r) ← redirections? r
    return (command.withRedirections redirections, r)

/-- What follows `if` or `elif`. -/
def branch? : Nat → List Token → Option (Command × List Token)
  | 0, _ => none
  | fuel + 1, tokens => do
    let (test, r) ← list? fuel tokens
    let (yes, r) ← list? fuel (← expect? "then" r)
    match expect? "elif" r, expect? "else" r with
    | some r, _ =>
      let (no, r) ← branch? fuel r
      return (.branch test yes no, r)
    | none, some r =>
      let (no, r) ← list? fuel r
      return (.branch test yes no, ← expect? "fi" r)
    | none, none => return (.branch test yes .nothing, ← expect? "fi" r)

/-- What follows `for`. -/
def each? : Nat → List Token → Option (Command × List Token)
  | 0, _ => none
  | fuel + 1, tokens =>
    match tokens with
    | .word _ w :: r => do
      let name ← bare? w
      let (words, r) := match expect? "in" r with
        | some r => wordsHere r
        | none => ([[.value "@" true]], r)
      let (body, r) ← list? fuel (← expect? "do" (skipSeparators r))
      return (.each name words body, ← expect? "done" r)
    | _ => none

end

/-- The command that tokens spell. No part of a command is deeper than eight levels for each
token. -/
def Command.ofTokens? (tokens : List Token) : Option Command := do
  let (command, r) ← list? (8 * tokens.length + 8) tokens
  if r.isEmpty then some command else none

/-- The command that a script spells. -/
def Command.read? (script : List Char) : Option Command := do
  Command.ofTokens? (← tokens? script)

end LivePages.Shell
