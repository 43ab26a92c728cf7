import LivePages.Json.Typed

/-!
# JSON values

Values of any type, read from a text and written without blanks.

## Main definitions

* `Value` — the values; an object keeps the order of its keys.
* `Value.parse` — reads one.
* `Value.render` — writes one.
-/

namespace LivePages.Json

/-- A value. -/
inductive Value where
  | null
  | bool (value : Bool)
  | number (value : Number)
  | text (value : String)
  | list (items : List Value)
  | object (entries : List (String × Value))

instance : Inhabited Value := ⟨.null⟩

/-- A whole number as a value. -/
def Value.natural (n : Nat) : Value :=
  .number (.natural n)

/-- A value that may be missing. -/
def Value.ofOption {α : Type} (f : α → Value) : Option α → Value
  | none => .null
  | some a => f a

namespace Reader

/-- The most lists and objects around a value. -/
def nestingLimit : Nat := 127

/-- Reads a value with at most so many lists and objects inside one another. -/
def value (depth : Nat) : Reader Value := do
  match ← valueStart, depth with
  | 0x6E, _ => skip; word "ull".toList; pure .null
  | 0x74, _ => skip; word "rue".toList; pure (.bool true)
  | 0x66, _ => skip; word "alse".toList; pure (.bool false)
  | 0x22, _ => skip; .text <$> text
  | 0x5B, depth + 1 => .list <$> listOf (value depth)
  | 0x7B, depth + 1 => .object <$> mapOf (value depth)
  | 0x5B, 0 | 0x7B, 0 => fail .recursionLimit
  | 0x2D, _ => skip; .number <$> number false
  | b, _ => if isDigit b then .number <$> number true else failNext .expectedValue

end Reader

/-- Reads a value from a text. -/
def Value.parse (text : List UInt8) : Except Error Value :=
  (Reader.value Reader.nestingLimit).run text

/-- The text of a number. -/
def Number.render : Number → String
  | .natural n => toString n
  | .negative n => "-" ++ toString n
  | .float x => floatText x

mutual

/-- The text of a value. -/
def Value.render : Value → String
  | .null => "null"
  | .bool true => "true"
  | .bool false => "false"
  | .number n => n.render
  | .text s => quoteText s
  | .list items => "[" ++ renderItems items ++ "]"
  | .object entries => "\x7b" ++ renderEntries entries ++ "\x7d"

/-- The texts of values, with commas between them. -/
def renderItems : List Value → String
  | [] => ""
  | [v] => v.render
  | v :: r => v.render ++ "," ++ renderItems r

/-- The texts of keys and their values, with commas between them. -/
def renderEntries : List (String × Value) → String
  | [] => ""
  | [(k, v)] => quoteText k ++ ":" ++ v.render
  | (k, v) :: r => quoteText k ++ ":" ++ v.render ++ "," ++ renderEntries r

end

/-- The value of a key, if the value is an object that has it. -/
def Value.get? (key : String) : Value → Option Value
  | .object entries => (entries.find? fun e => e.1 == key).map (·.2)
  | _ => none

end LivePages.Json
