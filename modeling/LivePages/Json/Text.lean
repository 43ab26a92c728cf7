import LivePages.Json.Reader
import LivePages.Text.Utf8

/-!
# JSON texts

Reading and writing texts between double quotes.

## Main definitions

* `Reader.text` — reads a text, from after its opening quote.
* `Reader.skipText` — goes past one; its escapes are looked at less closely.
* `quoteText` — writes a text.
-/

namespace LivePages.Json

/-- The byte that a one-letter escape stands for. -/
def simpleEscape? (b : UInt8) : Option UInt8 :=
  if b = 0x22 ∨ b = 0x5C ∨ b = 0x2F then some b
  else if b = 0x62 then some 0x08
  else if b = 0x66 then some 0x0C
  else if b = 0x6E then some 0x0A
  else if b = 0x72 then some 0x0D
  else if b = 0x74 then some 0x09
  else none

/-- The value of four hexadecimal digits. -/
def hex4? (a b c d : UInt8) : Option Nat :=
  let value? (x : UInt8) := Text.hexValue? (Char.ofNat x.toNat)
  match value? a, value? b, value? c, value? d with
  | some a, some b, some c, some d => some (((16 * a + b) * 16 + c) * 16 + d)
  | _, _, _, _ => none

/-- Puts bytes in front of a text that was read. -/
def prependBytes (bytes : List UInt8) :
    Except Failure (List UInt8 × List UInt8) → Except Failure (List UInt8 × List UInt8)
  | .ok (text, rest) => .ok (bytes ++ text, rest)
  | .error f => .error f

/-- The text up to the next quote, and the bytes after the quote. A leading surrogate needs a
trailing one in the escape after it. -/
def textFrom : List UInt8 → Except Failure (List UInt8 × List UInt8)
  | [] => .error ⟨.endInText, 0⟩
  | b :: r =>
    if b = 0x22 then .ok ([], r)
    else if b < 0x20 then .error ⟨.controlCharacter, r.length⟩
    else if b ≠ 0x5C then prependBytes [b] (textFrom r)
    else match r with
      | [] => .error ⟨.endInText, 0⟩
      | e :: r =>
        match simpleEscape? e with
        | some x => prependBytes [x] (textFrom r)
        | none =>
          if e ≠ 0x75 then .error ⟨.invalidEscape, r.length⟩
          else match r with
            | a :: b :: c :: d :: r =>
              match hex4? a b c d with
              | none => .error ⟨.invalidEscape, r.length⟩
              | some n =>
                if 0xDC00 ≤ n ∧ n ≤ 0xDFFF then .error ⟨.loneSurrogate, r.length⟩
                else if n < 0xD800 ∨ 0xDFFF < n then
                  prependBytes (String.utf8EncodeChar (Char.ofNat n)) (textFrom r)
                else match r with
                  | [] => .error ⟨.endInText, 0⟩
                  | x :: r =>
                    if x ≠ 0x5C then .error ⟨.unexpectedEndOfEscape, r.length⟩
                    else match r with
                      | [] => .error ⟨.endInText, 0⟩
                      | y :: r =>
                        if y ≠ 0x75 then .error ⟨.unexpectedEndOfEscape, r.length⟩
                        else match r with
                          | a :: b :: c :: d :: r =>
                            match hex4? a b c d with
                            | none => .error ⟨.invalidEscape, r.length⟩
                            | some m =>
                              if m < 0xDC00 ∨ 0xDFFF < m then .error ⟨.loneSurrogate, r.length⟩
                              else
                                let code := (n - 0xD800) * 0x400 + (m - 0xDC00) + 0x10000
                                prependBytes (String.utf8EncodeChar (Char.ofNat code)) (textFrom r)
                          | _ => .error ⟨.endInText, 0⟩
            | _ => .error ⟨.endInText, 0⟩

/-- The bytes after the next quote. -/
def afterText : List UInt8 → Except Failure (List UInt8)
  | [] => .error ⟨.endInText, 0⟩
  | b :: r =>
    if b = 0x22 then .ok r
    else if b < 0x20 then .error ⟨.controlCharacter, r.length + 1⟩
    else if b ≠ 0x5C then afterText r
    else match r with
      | [] => .error ⟨.endInText, 0⟩
      | e :: r =>
        if (simpleEscape? e).isSome then afterText r
        else if e ≠ 0x75 then .error ⟨.invalidEscape, r.length⟩
        else match r with
          | a :: b :: c :: d :: r =>
            if (hex4? a b c d).isSome then afterText r else .error ⟨.invalidEscape, r.length⟩
          | _ => .error ⟨.endInText, 0⟩

/-- Reads a text, from after its opening quote. -/
def Reader.text : Reader String :=
  fun s => (textFrom s).map fun p => (Text.Utf8.toStringLossy p.1, p.2)

/-- Goes past a text, from after its opening quote. -/
def Reader.skipText : Reader Unit :=
  fun s => (afterText s).map fun r => ((), r)

/-- How a character is written between quotes. -/
def spellText (c : Char) : List Char :=
  if c = '"' then ['\\', '"']
  else if c = '\\' then ['\\', '\\']
  else if c.toNat = 0x08 then ['\\', 'b']
  else if c.toNat = 0x0C then ['\\', 'f']
  else if c = '\n' then ['\\', 'n']
  else if c = '\r' then ['\\', 'r']
  else if c = '\t' then ['\\', 't']
  else if c.toNat < 0x20 then
    ['\\', 'u', '0', '0', Text.hexDigit (c.toNat / 16), Text.hexDigit (c.toNat % 16)]
  else [c]

/-- The text between quotes. -/
def quoteText (s : String) : String :=
  String.ofList ('"' :: (s.toList.flatMap spellText ++ ['"']))

end LivePages.Json
