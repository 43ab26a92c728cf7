import LivePages.Build.Manifest
import LivePages.Proofs.Text.Hex

/-!
# Strings in Manifests

A manifest is a TOML document, and the path of the runtime package and the requirements of further
packages stand in it as strings between double quotes. They are quoted as they are in the sources of
pages, but a manifest knows other escapes: `\b`, `\f`, `\uXXXX` and `\UXXXXXXXX`, and neither `\0`
nor a number in braces. A text that is written without these two is read back as it was. Any other
text becomes a string that means nothing, so that no manifest with it can be read.

## Main results

* `isBasicString_quote_iff`: what the spelling of a text means in a manifest, if anything.
* `manifest_strings_iff`: the strings of a manifest.
* `manifest_string_refused`: a path with a combining mark.
-/

namespace LivePages.Build

open Text (hexNumber? scalar? showsAlone)

/-! ### The grammar of strings -/

/-- The character may stand in a string as itself: all but quotes, backslashes and the controls,
among which only the tab may. -/
def StandsAlone (c : Char) : Prop :=
  c ≠ '"' ∧ c ≠ '\\' ∧ c.toNat ≠ 0x7F ∧ (0x20 ≤ c.toNat ∨ c = '\t')

/-- The character that a letter after a backslash stands for. -/
def lettered? : Char → Option Char
  | 'b' => some '\x08'
  | 't' => some '\t'
  | 'n' => some '\n'
  | 'f' => some '\x0C'
  | 'r' => some '\r'
  | '"' => some '"'
  | '\\' => some '\\'
  | _ => none

/-- The inside of a string, and the text that it means. An escape is a letter, or four or eight
digits with the code point of a character. -/
inductive BasicChars : List Char → List Char → Prop where
  | nil : BasicChars [] []
  | plain {c : Char} {s t : List Char} (hc : StandsAlone c) (h : BasicChars s t) :
      BasicChars (c :: s) (c :: t)
  | letter {e c : Char} {s t : List Char} (he : lettered? e = some c) (h : BasicChars s t) :
      BasicChars ('\\' :: e :: s) (c :: t)
  | short {d₁ d₂ d₃ d₄ c : Char} {n : ℕ} {s t : List Char}
      (hn : hexNumber? [d₁, d₂, d₃, d₄] = some n) (hc : scalar? n = some c)
      (h : BasicChars s t) :
      BasicChars ('\\' :: 'u' :: d₁ :: d₂ :: d₃ :: d₄ :: s) (c :: t)
  | long {d₁ d₂ d₃ d₄ d₅ d₆ d₇ d₈ c : Char} {n : ℕ} {s t : List Char}
      (hn : hexNumber? [d₁, d₂, d₃, d₄, d₅, d₆, d₇, d₈] = some n) (hc : scalar? n = some c)
      (h : BasicChars s t) :
      BasicChars ('\\' :: 'U' :: d₁ :: d₂ :: d₃ :: d₄ :: d₅ :: d₆ :: d₇ :: d₈ :: s) (c :: t)

/-- The text is a string with its quotes, and means the value. -/
def IsBasicString (string value : String) : Prop :=
  ∃ inside, string.toList = '"' :: (inside ++ ['"']) ∧ BasicChars inside value.toList

/-! ### The spelling of a text -/

/-- The character is written as itself, or by an escape that a manifest has too. -/
def IsPortable (c : Char) : Prop :=
  c = '\t' ∨ c = '\n' ∨ c = '\r' ∨ showsAlone c = true

/-- What shows is no control. -/
theorem standsAlone_of_showsAlone {c : Char} (hquote : c ≠ '"') (hslash : c ≠ '\\')
    (h : showsAlone c = true) : StandsAlone c := by
  have hvisible : Text.isInvisible c = false := by
    simp only [showsAlone, Bool.and_eq_true, Bool.not_eq_true'] at h
    exact h.1.2
  rw [Text.isInvisible] at hvisible
  refine ⟨hquote, hslash, ?_⟩
  by_cases hascii : c.toNat < 0x80
  · simp [hascii] at hvisible
    omega
  · omega

/-- A backslash with a letter that is no digit's mark means that letter's character. -/
theorem basicChars_letter_iff {e : Char} {s t : List Char} (hu : e ≠ 'u') (hU : e ≠ 'U') :
    BasicChars ('\\' :: e :: s) t ↔ ∃ c r, lettered? e = some c ∧ t = c :: r ∧ BasicChars s r := by
  constructor
  · intro h
    cases h with
    | plain hc => exact absurd rfl hc.2.1
    | letter he h => exact ⟨_, _, he, rfl, h⟩
    | short => exact absurd rfl hu
    | long => exact absurd rfl hU
  · rintro ⟨c, r, he, rfl, h⟩
    exact .letter he h

/-- A number in braces means nothing. -/
theorem not_basicChars_brace {s t : List Char} : ¬ BasicChars ('\\' :: 'u' :: '{' :: s) t := by
  intro h
  cases h with
  | plain hc => exact absurd rfl hc.2.1
  | letter he => cases he
  | short hn =>
      have hdigit := Text.notMem_of_hexNumber? (c := '{') hn (by decide)
      simp at hdigit

/-- What stands for itself means itself. -/
theorem basicChars_plain_iff {c : Char} {s t : List Char} (hc : StandsAlone c) :
    BasicChars (c :: s) t ↔ ∃ r, t = c :: r ∧ BasicChars s r := by
  constructor
  · intro h
    cases h with
    | plain _ h => exact ⟨_, rfl, h⟩
    | letter | short | long => exact absurd rfl hc.2.1
  · rintro ⟨r, rfl, h⟩
    exact .plain hc h

/-- The spelling of a character means that character or nothing. -/
theorem basicChars_spell_append_iff (c : Char) {s t : List Char} :
    BasicChars (Text.Quoted.spell c ++ s) t ↔
      IsPortable c ∧ ∃ r, t = c :: r ∧ BasicChars s r := by
  rw [Text.Quoted.spell]
  split_ifs with hzero htab hreturn hfeed hquote hslash hshows
  · subst hzero
    rw [List.cons_append, List.cons_append, List.nil_append,
      basicChars_letter_iff (by decide) (by decide)]
    have hhidden : ¬ IsPortable '\x00' := by
      unfold IsPortable
      decide +kernel
    simp [lettered?, hhidden]
  · subst htab
    simp [basicChars_letter_iff, lettered?, IsPortable]
  · subst hreturn
    simp [basicChars_letter_iff, lettered?, IsPortable]
  · subst hfeed
    simp [basicChars_letter_iff, lettered?, IsPortable]
  · subst hquote
    have hportable : IsPortable '"' := by
      unfold IsPortable
      decide +kernel
    simp [basicChars_letter_iff, lettered?, hportable]
  · subst hslash
    have hportable : IsPortable '\\' := by
      unfold IsPortable
      decide +kernel
    simp [basicChars_letter_iff, lettered?, hportable]
  · rw [List.singleton_append,
      basicChars_plain_iff (standsAlone_of_showsAlone hquote hslash hshows)]
    simp [IsPortable, hshows]
  · have hhidden : ¬ IsPortable c := by
      simp [IsPortable, htab, hfeed, hreturn, hshows]
    simp [not_basicChars_brace, hhidden]

/-- The spelling of a text means that text or nothing. -/
theorem basicChars_flatMap_spell_iff {s t : List Char} :
    BasicChars (s.flatMap Text.Quoted.spell) t ↔ t = s ∧ ∀ c ∈ s, IsPortable c := by
  induction s generalizing t with
  | nil =>
      constructor
      · intro h
        cases h
        exact ⟨rfl, by simp⟩
      · rintro ⟨rfl, -⟩
        exact .nil
  | cons c s ih =>
      rw [List.flatMap_cons, basicChars_spell_append_iff, List.forall_mem_cons]
      simp only [ih]
      constructor
      · rintro ⟨hc, _, rfl, rfl, hs⟩
        exact ⟨rfl, hc, hs⟩
      · rintro ⟨rfl, hc, hs⟩
        exact ⟨hc, s, rfl, rfl, hs⟩

/-- **A quoted text is a string of a manifest exactly if every character of it is portable**, and
then it means the text. -/
theorem isBasicString_quote_iff {text value : String} :
    IsBasicString (Text.Quoted.quote text) value ↔
      value = text ∧ ∀ c ∈ text.toList, IsPortable c := by
  rw [← String.toList_inj, ← basicChars_flatMap_spell_iff, IsBasicString, Text.Quoted.quote,
    String.toList_ofList, Text.Quoted.write]
  constructor
  · rintro ⟨inside, heq, h⟩
    rwa [List.append_cancel_right (List.cons.inj heq).2]
  · exact fun h => ⟨_, rfl, h⟩

/-! ### Manifests -/

/-- The lines of a manifest before those of the packages it depends on. -/
def manifestHead : List String :=
  ["[package]", "name = \"rsp-backend\"", "version = \"0.0.0\"", "edition = \"2021\"",
    "publish = false", "", "[[bin]]", "name = \"rsp-backend\"", "path = \"src/main.rs\"", "",
    "[dependencies]"]

/-- **The strings of a manifest.** The path of the runtime package and every requirement that is no
table stand in it quoted, between texts that are as they are written. A quoted text is a string of
the manifest exactly if each of its characters is a tab, a line feed, a carriage return or shows by
itself; it then means the path, or the requirement without blanks around it, and nothing else. -/
theorem manifest_strings_iff (runtimeCrate : String) (dependencies : List (String × String)) :
    manifest runtimeCrate dependencies = Source.unlines (manifestHead ++
      ("rsp-runtime = \x7b path = " ++ Text.Quoted.quote runtimeCrate ++ " \x7d") ::
      (dependencies.map fun d => d.1 ++ " = " ++
        if (Text.trimmed d.2).toList.head? = some '\x7b' then Text.trimmed d.2
        else Text.Quoted.quote (Text.trimmed d.2)) ++ ["", "[workspace]"]) ∧
    ∀ text value, IsBasicString (Text.Quoted.quote text) value ↔ value = text ∧
      ∀ c ∈ text.toList, c = '\t' ∨ c = '\n' ∨ c = '\r' ∨ showsAlone c = true := by
  refine ⟨?_, fun text value => isBasicString_quote_iff⟩
  have hname : Text.Quoted.quote packageName = "\"rsp-backend\"" := by decide +kernel
  have hline (d : String × String) : dependencyLine d.1 d.2 = d.1 ++ " = " ++
      if (Text.trimmed d.2).toList.head? = some '\x7b' then Text.trimmed d.2
      else Text.Quoted.quote (Text.trimmed d.2) := by
    rw [dependencyLine]
    split <;> rfl
  simp only [manifest, hname, hline, manifestHead]
  rfl

/-- **A path with a combining mark makes a manifest that cannot be read**: the mark is written as a
number in braces. -/
theorem manifest_string_refused :
    manifest "/opt/cafe\u0301" [] = Source.unlines (manifestHead ++
      ["rsp-runtime = \x7b path = \"/opt/cafe\\u\x7b301\x7d\" \x7d", "", "[workspace]"]) ∧
    (¬ ∃ value, IsBasicString "\"/opt/cafe\\u\x7b301\x7d\"" value) ∧
    ¬ ∀ path, IsBasicString (Text.Quoted.quote path) path := by
  have hquote : Text.Quoted.quote "/opt/cafe\u0301" = "\"/opt/cafe\\u\x7b301\x7d\"" := by
    decide +kernel
  have hmark : ¬ IsPortable '\u0301' := by
    unfold IsPortable
    decide +kernel
  have hnone : ¬ ∃ value, IsBasicString "\"/opt/cafe\\u\x7b301\x7d\"" value := by
    rintro ⟨value, h⟩
    rw [← hquote, isBasicString_quote_iff] at h
    exact hmark (h.2 _ (by decide))
  refine ⟨by decide +kernel, hnone, fun h => ?_⟩
  exact hnone ⟨_, hquote ▸ h "/opt/cafe\u0301"⟩

end LivePages.Build
