import LivePages.Json.Skip

/-!
# Typed JSON values

Readers for values whose type is known. A value of another type is refused where it ends, or where
it starts if it is a list or an object.

## Main definitions

* `Reader.string`, `Reader.textFor`, `Reader.natural`, `Reader.bool`, `Reader.optional` — single
  values.
* `Reader.listOf`, `Reader.mapOf` — lists, and objects with any keys.
* `Field`, `Reader.record` — objects with known fields, or the list of their values in order.
-/

namespace LivePages.Json

namespace Reader

/-- Fails on a value that is not of the expected type. -/
def mismatch {α : Type} (expected : String) : Reader α := do
  match ← peek with
  | some 0x6E => skip; word "ull".toList; fail (.invalidType .null expected)
  | some 0x74 => skip; word "rue".toList; fail (.invalidType (.bool true) expected)
  | some 0x66 => skip; word "alse".toList; fail (.invalidType (.bool false) expected)
  | some 0x22 => skip; let s ← text; fail (.invalidType (.text s) expected)
  | some 0x5B => fail (.invalidType .sequence expected)
  | some 0x7B => fail (.invalidType .map expected)
  | some 0x2D => skip; let n ← number false; fail (.invalidType n.unexpected expected)
  | some b =>
    if isDigit b then
      let n ← number true
      fail (.invalidType n.unexpected expected)
    else failNext .expectedValue
  | none => failNext .expectedValue

/-- The first byte of the value that comes next. -/
def valueStart : Reader UInt8 := do
  match ← peekToken with
  | some b => pure b
  | none => failNext .endInValue

/-- Reads a text; `expected` says what it is for. -/
def textFor (expected : String) : Reader String := do
  if (← valueStart) = 0x22 then
    skip
    text
  else mismatch expected

/-- Reads a text. -/
def string : Reader String :=
  textFor "a string"

/-- The number, if it is whole and below the bound. -/
def checkNatural (bound : Nat) (expected : String) : Number → Reader Nat
  | .natural n => if n < bound then pure n else fail (.invalidValue (.natural n) expected)
  | .negative n => fail (.invalidValue (.negative n) expected)
  | .float x => fail (.invalidType (.float x) expected)

/-- Reads a whole number below a bound. -/
def natural (bound : Nat) (expected : String) : Reader Nat := do
  let b ← valueStart
  if b = 0x2D then
    skip
    checkNatural bound expected (← number false)
  else if isDigit b then checkNatural bound expected (← number true)
  else mismatch expected

/-- Reads a truth value. -/
def bool : Reader Bool := do
  let b ← valueStart
  if b = 0x74 then
    skip
    word "rue".toList
    pure true
  else if b = 0x66 then
    skip
    word "alse".toList
    pure false
  else mismatch "a boolean"

/-- Reads a value, or null. -/
def optional {α : Type} (value : Reader α) : Reader (Option α) := do
  if (← peekToken) = some 0x6E then
    skip
    word "ull".toList
    pure none
  else some <$> value

/-- Whether another element comes next in a list, going past the comma before it. -/
def nextElement (first : Bool) : Reader Bool := do
  match ← peekToken with
  | none => failNext .endInList
  | some b =>
    if b = 0x5D then pure false
    else if first then pure true
    else if b = 0x2C then
      skip
      match ← peekToken with
      | some 0x5D => failNext .trailingComma
      | some _ => pure true
      | none => failNext .endInValue
    else failNext .expectedListCommaOrEnd

/-- Goes past the end of a list. -/
def listEnd : Reader Unit := do
  match ← peekToken with
  | some 0x5D => skip
  | some 0x2C =>
    skip
    if (← peekToken) = some 0x5D then failNext .trailingComma else failNext .trailingCharacters
  | some _ => failNext .trailingCharacters
  | none => failNext .endInList

/-- The key that comes next in an object, if there is one, going past the comma before it. -/
def nextKey (first : Bool) : Reader (Option String) := do
  match ← peekToken with
  | none => failNext .endInObject
  | some b =>
    if b = 0x7D then pure none
    else if first then
      if b = 0x22 then
        skip
        some <$> text
      else failNext .keyMustBeText
    else if b = 0x2C then
      skip
      match ← peekToken with
      | some 0x22 => skip; some <$> text
      | some 0x7D => failNext .trailingComma
      | some _ => failNext .keyMustBeText
      | none => failNext .endInValue
    else failNext .expectedObjectCommaOrEnd

/-- Goes past the end of an object. -/
def objectEnd : Reader Unit := do
  match ← peekToken with
  | some 0x7D => skip
  | some 0x2C => failNext .trailingComma
  | some _ => failNext .trailingCharacters
  | none => failNext .endInObject

/-- Goes past the colon between a key and its value. -/
def colon : Reader Unit := do
  match ← peekToken with
  | some 0x3A => skip
  | some _ => failNext .expectedColon
  | none => failNext .endInObject

/-- The elements of a list up to its end. -/
def elements {α : Type} (item : Reader α) : Nat → Bool → Reader (List α)
  | 0, _ => fail .endInList
  | fuel + 1, first => do
    if ← nextElement first then
      let a ← item
      (a :: ·) <$> elements item fuel false
    else pure []

/-- Reads a list. -/
def listOf {α : Type} (item : Reader α) : Reader (List α) := do
  if (← valueStart) = 0x5B then
    skip
    let left : List UInt8 ← fun s => .ok (s, s)
    let items ← elements item (left.length + 1) true
    listEnd
    pure items
  else mismatch "a sequence"

/-- The entries of an object up to its end. -/
def entries {α : Type} (value : Reader α) : Nat → Bool → Reader (List (String × α))
  | 0, _ => fail .endInObject
  | fuel + 1, first => do
    match ← nextKey first with
    | none => pure []
    | some key =>
      colon
      let a ← value
      ((key, a) :: ·) <$> entries value fuel false

/-- Reads an object with any keys. -/
def mapOf {α : Type} (value : Reader α) : Reader (List (String × α)) := do
  if (← valueStart) = 0x7B then
    skip
    let left : List UInt8 ← fun s => .ok (s, s)
    let found ← entries value (left.length + 1) true
    objectEnd
    pure found
  else mismatch "a map"

end Reader

/-- A field of a record: its name, and how its value changes the record. -/
structure Field (σ : Type) where
  /-- The name. -/
  name : String
  /-- Reads the value into the record. -/
  read : σ → Reader σ

/-- The field of a name whose value is read by a reader and put into the record by a setter. -/
def field {σ α : Type} (name : String) (value : Reader α) (set : σ → α → σ) : Field σ :=
  ⟨name, fun record => do
    let a ← value
    pure (set record a)⟩

namespace Reader

/-- The values of the fields in order, as far as the list goes. -/
def fieldElements {σ : Type} : List (Field σ) → Bool → σ → Reader σ
  | [], _, record => pure record
  | f :: fields, first, record => do
    if ← nextElement first then
      let record ← f.read record
      fieldElements fields false record
    else pure record

/-- Fails on a field that has occurred before; an object that ends there is gone past. -/
def duplicate {α : Type} (name : String) : Reader α := do
  if (← peekToken) = some 0x7D then skip
  fail (.duplicateField name)

/-- The fields of an object up to its end. Keys that are no fields are skipped with their
values. -/
def fieldEntries {σ : Type} (fields : List (Field σ)) :
    Nat → Bool → List String → σ → Reader σ
  | 0, _, _, _ => fail .endInObject
  | fuel + 1, first, seen, record => do
    match ← nextKey first with
    | none => pure record
    | some key =>
      match fields.find? fun f => f.name == key with
      | none =>
        colon
        skipValue
        fieldEntries fields fuel false seen record
      | some f =>
        if seen.contains key then duplicate key
        else
          colon
          let record ← f.read record
          fieldEntries fields fuel false (key :: seen) record

/-- Reads a record that starts out as `start`. -/
def record {σ : Type} (expected : String) (fields : List (Field σ)) (start : σ) : Reader σ := do
  let b ← valueStart
  if b = 0x5B then
    skip
    let found ← fieldElements fields true start
    listEnd
    pure found
  else if b = 0x7B then
    skip
    let left : List UInt8 ← fun s => .ok (s, s)
    let found ← fieldEntries fields (left.length + 1) true [] start
    objectEnd
    pure found
  else mismatch expected

end Reader

end LivePages.Json
