import LivePages.Text.Hex

/-!
# Calculations of shell scripts

Whole numbers of 64 bits and the operators on them, with the usual precedence. Truth is one, and
every number but zero counts as true.

## Main definitions

* `calculate` — the value of an expression.
-/

namespace LivePages.Shell

/-- Why an expression has no value. -/
inductive Trouble where
  | malformed
  | divisionByZero
  deriving DecidableEq, Repr

/-- What is said of it. -/
def Trouble.message : Trouble → String
  | .malformed => "expecting primary"
  | .divisionByZero => "division by zero"

/-- A token of an expression. -/
inductive Term where
  /-- A number. -/
  | number (value : Int)
  /-- An operator or a bracket. -/
  | sign (text : String)
  deriving DecidableEq, Repr

/-- The number in the range of 64 bits that differs from `n` by a multiple of that range. -/
def wrapped (n : Int) : Int :=
  n.bmod (0x10000000000000000)

/-- The number that digits of a base spell, all of them below the base. -/
def ofDigits? (base : Nat) (digits : List Char) : Option Int :=
  digits.foldlM (fun n c =>
    match Text.hexValue? c with
    | some d => if d < base then some (n * base + d) else none
    | none => none) 0

/-- The number that a literal spells: hexadecimal after `0x`, octal after `0`, else decimal. -/
def literal? : List Char → Option Int
  | '0' :: 'x' :: r | '0' :: 'X' :: r => ofDigits? 16 r
  | '0' :: r => ofDigits? 8 r
  | [] => none
  | r => ofDigits? 10 r

/-- The operators of two characters. -/
def longSigns : List (Char × Char) :=
  [('<', '<'), ('>', '>'), ('<', '='), ('>', '='), ('=', '='), ('!', '='), ('&', '&'), ('|', '|')]

/-- The tokens of an expression, with the values of its variables. The bound is the number of
characters. -/
def terms? (value : String → Int) : Nat → List Char → Option (List Term)
  | 0, _ | _, [] => some []
  | fuel + 1, c :: r =>
    if c.isWhitespace then terms? value fuel r
    else if c.isAlphanum || c == '_' then do
      let word := (c :: r).takeWhile fun c => c.isAlphanum || c == '_'
      let rest ← terms? value fuel ((c :: r).drop word.length)
      if c.isDigit then return .number (← literal? word) :: rest
      else return .number (value (String.ofList word)) :: rest
    else
      match r with
      | d :: r' =>
        if longSigns.contains (c, d) then
          (terms? value fuel r').map (.sign (String.ofList [c, d]) :: ·)
        else (terms? value fuel r).map (.sign (String.singleton c) :: ·)
      | [] => some [.sign (String.singleton c)]

/-- The operators between two numbers, those that bind least first. -/
def levels : List (List String) :=
  [["||"], ["&&"], ["|"], ["^"], ["&"], ["==", "!="], ["<", "<=", ">", ">="], ["<<", ">>"],
    ["+", "-"], ["*", "/", "%"]]

/-- One for what is true. -/
def truth (b : Bool) : Int :=
  if b then 1 else 0

/-- The bits of a number. -/
def bits (n : Int) : BitVec 64 :=
  BitVec.ofInt 64 n

/-- The quotient or remainder by a number. -/
def dividing (b : Int) (result : Int) : Except Trouble Int :=
  if b = 0 then .error .divisionByZero else .ok result

/-- The value of an operator between two numbers. -/
def operate (sign : String) (a b : Int) : Except Trouble Int :=
  match sign with
  | "||" => .ok (truth (a != 0 || b != 0))
  | "&&" => .ok (truth (a != 0 && b != 0))
  | "|" => .ok (bits a ||| bits b).toInt
  | "^" => .ok (bits a ^^^ bits b).toInt
  | "&" => .ok (bits a &&& bits b).toInt
  | "==" => .ok (truth (a == b))
  | "!=" => .ok (truth (a != b))
  | "<" => .ok (truth (a < b))
  | "<=" => .ok (truth (a ≤ b))
  | ">" => .ok (truth (b < a))
  | ">=" => .ok (truth (b ≤ a))
  | "<<" => .ok (bits a <<< (b % 64).toNat).toInt
  | ">>" => .ok ((bits a).sshiftRight (b % 64).toNat).toInt
  | "+" => .ok (wrapped (a + b))
  | "-" => .ok (wrapped (a - b))
  | "*" => .ok (wrapped (a * b))
  | "/" => dividing b (wrapped (a.tdiv b))
  | "%" => dividing b (a.tmod b)
  | _ => .error .malformed

mutual

/-- Reads an operand: a number, brackets, or an operand after a sign. -/
def operand : Nat → List Term → Except Trouble (Int × List Term)
  | 0, _ | _, [] => .error .malformed
  | fuel + 1, t :: r =>
    match t with
    | .number n => .ok (wrapped n, r)
    | .sign "(" => do
      let (n, r) ← operation fuel levels r
      match r with
      | .sign ")" :: r => return (n, r)
      | _ => .error .malformed
    | .sign sign => do
      let (n, r) ← operand fuel r
      match sign with
      | "-" => return (wrapped (-n), r)
      | "+" => return (n, r)
      | "!" => return (truth (n == 0), r)
      | "~" => return (-n - 1, r)
      | _ => .error .malformed

/-- Reads an operation of one of some levels. -/
def operation : Nat → List (List String) → List Term → Except Trouble (Int × List Term)
  | 0, _, _ => .error .malformed
  | fuel + 1, [], r => operand fuel r
  | fuel + 1, signs :: higher, r => do
    let (n, r) ← operation fuel higher r
    further fuel signs higher n r

/-- Goes on with the operators of one level. -/
def further : Nat → List String → List (List String) → Int → List Term →
    Except Trouble (Int × List Term)
  | 0, _, _, _, _ => .error .malformed
  | fuel + 1, signs, higher, n, r =>
    match r with
    | .sign sign :: r' =>
      if signs.contains sign then do
        let (m, r) ← operation fuel higher r'
        further fuel signs higher (← operate sign n m) r
      else .ok (n, r)
    | r => .ok (n, r)

end

/-- The value of an expression in which variables have such values. An expression without a token
is zero. -/
def calculate (value : String → Int) (expression : List Char) : Except Trouble Int := do
  match terms? value expression.length expression with
  | none => .error .malformed
  | some [] => return 0
  | some terms =>
    let (n, r) ← operation (16 * terms.length + 16) levels terms
    if r.isEmpty then return n else .error .malformed

end LivePages.Shell
