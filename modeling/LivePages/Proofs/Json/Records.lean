import Mathlib.Data.List.Forall2
import Mathlib.Data.List.Nodup
import LivePages.Proofs.Json.Values

/-!
# Records Read Back

What a record is written as is said by its settings: their names, what a record has in them, and the
values that this is written as. An object describes a record if it has the values of some settings
under their names, in any order, and all the settings that it leaves out are as in the record that
reading starts from.

A reader of records goes through the entries and puts each value into the record it has so far. At
every moment that record has the settings seen so far from the one that is described, and the others
from the one it started from. In the end these are all settings of the described one.

## Main results

* `Setting`, `Describes`: the objects that describe a record.
* `fieldEntries_entriesSpelled`: what a reader of entries has come to.
* `takes_record`: an object is taken for the record that it describes.
-/

namespace LivePages.Json

open Text.Utf8 (encode)

/-- A setting of records: its name, what a record has in it, and what this is written as. -/
structure Setting (σ : Type) where
  /-- The name. -/
  name : String
  /-- What a record can have in it. -/
  Content : Type
  /-- What a record has in it. -/
  get : σ → Content
  /-- The value is one that the content is written as. -/
  IsForm : Content → Value → Prop

variable {σ : Type}

/-- The value is an object with settings of a record under their names. Each stands there once, and
one that does not is as in the record to start from. -/
def Describes (settings : List (Setting σ)) (start record : σ) (v : Value) : Prop :=
  ∃ entries, v = .object entries ∧ (entries.map (·.1)).Nodup ∧
    (∀ e ∈ entries, ∃ s ∈ settings, s.name = e.1 ∧ s.IsForm (s.get record) e.2) ∧
    ∀ s ∈ settings, s.name ∈ entries.map (·.1) ∨ s.get record = s.get start

/-! ### Fields -/

/-- The field reads a setting of the record, whatever is in it, and leaves the other settings as
they are. -/
structure Handles (settings : List (Setting σ)) (record : σ) (f : Field σ) (s : Setting σ) :
    Prop where
  /-- They have the same name. -/
  name_eq : f.name = s.name
  /-- The setting is taken from the value. -/
  takes : ∀ v, s.IsForm (s.get record) v → ∀ before, ∃ after, Takes (f.read before) v after ∧
    s.get after = s.get record ∧ ∀ t ∈ settings, t.name ≠ s.name → t.get after = t.get before

/-- A field with a reader and a setter. -/
theorem handles_field {α : Type} {settings : List (Setting σ)} {record : σ} {s : Setting σ}
    {reader : Reader α} {set : σ → α → σ}
    (htakes : ∀ v, s.IsForm (s.get record) v → ∃ a, Takes reader v a ∧
      ∀ before, s.get (set before a) = s.get record)
    (hframe : ∀ before a, ∀ t ∈ settings, t.name ≠ s.name → t.get (set before a) = t.get before) :
    Handles settings record (field s.name reader set) s := by
  refine ⟨rfl, fun v hv before => ?_⟩
  obtain ⟨a, ha, hget⟩ := htakes v hv
  refine ⟨set before a, ?_, hget before, hframe before a⟩
  intro gap spelled r hgap hspelled hr
  exact Reader.bind_of_ok (ha hgap hspelled hr)

/-- A setting that is written in one way. -/
def Setting.plain {α : Type} (name : String) (get : σ → α) (form : α → Value) : Setting σ where
  name := name
  Content := α
  get := get
  IsForm a v := v = form a

/-- A field of a setting that is written in one way. -/
theorem handles_plain {α : Type} {settings : List (Setting σ)} {record : σ} {name : String}
    {get : σ → α} {form : α → Value} {reader : Reader α} {set : σ → α → σ}
    (htakes : Takes reader (form (get record)) (get record))
    (hset : ∀ before a, get (set before a) = a)
    (hframe : ∀ before a, ∀ t ∈ settings, t.name ≠ name → t.get (set before a) = t.get before) :
    Handles settings record (field name reader set) (.plain name get form) := by
  refine handles_field (s := .plain name get form) (fun v hv => ?_) hframe
  obtain rfl : v = form (get record) := hv
  exact ⟨get record, htakes, fun before => hset before (get record)⟩

variable {settings : List (Setting σ)} {start record : σ} {fields : List (Field σ)}

/-- Entries for all settings in order have their names and their values. -/
theorem names_and_forms_of_forall₂ {entries : List (String × Value)}
    (h : List.Forall₂ (fun e s => s.name = e.1 ∧ s.IsForm (s.get record) e.2) entries settings) :
    entries.map (·.1) = settings.map Setting.name ∧
      ∀ e ∈ entries, ∃ s ∈ settings, s.name = e.1 ∧ s.IsForm (s.get record) e.2 := by
  induction h with
  | nil => exact ⟨rfl, fun _ he => absurd he List.not_mem_nil⟩
  | @cons e s entries settings he _ ih =>
      obtain ⟨hkeys, hforms⟩ := ih
      refine ⟨by rw [List.map_cons, List.map_cons, hkeys, he.1], fun d hd => ?_⟩
      rcases List.mem_cons.mp hd with rfl | hd
      · exact ⟨s, List.mem_cons_self, he⟩
      · obtain ⟨t, ht, hform⟩ := hforms d hd
        exact ⟨t, List.mem_cons_of_mem _ ht, hform⟩

/-- An object with all settings in order describes the record. -/
theorem describes_of_forall₂ (hnames : (settings.map Setting.name).Nodup)
    {entries : List (String × Value)}
    (h : List.Forall₂ (fun e s => s.name = e.1 ∧ s.IsForm (s.get record) e.2) entries settings) :
    Describes settings start record (.object entries) := by
  obtain ⟨hkeys, hforms⟩ := names_and_forms_of_forall₂ h
  refine ⟨entries, rfl, hkeys ▸ hnames, hforms, fun s hs => .inl ?_⟩
  rw [hkeys]
  exact List.mem_map_of_mem hs

/-- A setting is told by its name. -/
theorem eq_of_name_eq (hnames : (settings.map Setting.name).Nodup) {s t : Setting σ}
    (hs : s ∈ settings) (ht : t ∈ settings) (h : s.name = t.name) : s = t :=
  List.inj_on_of_nodup_map hnames hs ht h

/-- There is a field for every setting, which is found by its name. -/
theorem exists_find?_of_mem {handled : List (Setting σ)}
    (hnames : (handled.map Setting.name).Nodup)
    (hfields : List.Forall₂ (Handles settings record) fields handled) {s : Setting σ}
    (hs : s ∈ handled) :
    ∃ f, fields.find? (fun f => f.name == s.name) = some f ∧ Handles settings record f s := by
  induction hfields with
  | nil => exact absurd hs List.not_mem_nil
  | @cons f t fields handled hf _ ih =>
      rw [List.map_cons, List.nodup_cons] at hnames
      rcases List.mem_cons.mp hs with rfl | hmem
      · exact ⟨f, List.find?_cons_of_pos (by simp [hf.name_eq]), hf⟩
      · have hne : f.name ≠ s.name := by
          rw [hf.name_eq]
          exact fun heq => hnames.1 (heq ▸ List.mem_map_of_mem hmem)
        obtain ⟨g, hg, hhandles⟩ := ih hnames.2 hmem
        exact ⟨g, by rwa [List.find?_cons_of_neg (by simpa using hne)], hhandles⟩

/-- The settings with these names are taken over from the record, all others are as before. -/
def TakenOver (settings : List (Setting σ)) (record before : σ) (names : List String)
    (after : σ) : Prop :=
  ∀ s ∈ settings, s.get after = s.get (if s.name ∈ names then record else before)

/-- One setting more is taken over first. -/
theorem TakenOver.cons (hnames : (settings.map Setting.name).Nodup) {before mid after : σ}
    {names : List String} {s : Setting σ} (hs : s ∈ settings) (hget : s.get mid = s.get record)
    (hframe : ∀ t ∈ settings, t.name ≠ s.name → t.get mid = t.get before)
    (h : TakenOver settings record mid names after) :
    TakenOver settings record before (s.name :: names) after := by
  intro t ht
  rw [h t ht]
  by_cases hlater : t.name ∈ names
  · rw [if_pos hlater, if_pos (List.mem_cons_of_mem _ hlater)]
  · rw [if_neg hlater]
    by_cases hsame : t.name = s.name
    · obtain rfl := eq_of_name_eq hnames ht hs hsame
      rw [if_pos List.mem_cons_self, hget]
    · rw [if_neg (List.not_mem_cons_of_ne_of_not_mem hsame hlater), hframe t ht hsame]

/-- **What a reader of entries has come to**: the settings of the entries are those of the record,
and all others are as they were. -/
theorem fieldEntries_entriesSpelled (hnames : (settings.map Setting.name).Nodup)
    (hfields : List.Forall₂ (Handles settings record) fields settings)
    {entries : List (String × Value)} (hkeys : (entries.map (·.1)).Nodup)
    (hentries : ∀ e ∈ entries, ∃ s ∈ settings, s.name = e.1 ∧ s.IsForm (s.get record) e.2)
    {first : Bool} {inside : List Char} (hinside : EntriesSpelled first entries inside) {fuel : ℕ}
    (hfuel : entries.length < fuel) {seen : List String} (hseen : ∀ e ∈ entries, e.1 ∉ seen)
    (before : σ) (r : List UInt8) :
    ∃ after, Reader.fieldEntries fields fuel first seen before (encode inside ++ r) =
        .ok (after, 0x7D :: r) ∧
      TakenOver settings record before (entries.map (·.1)) after := by
  induction entries generalizing first inside fuel seen before with
  | nil =>
      obtain ⟨fuel, rfl⟩ := Nat.exists_eq_add_one_of_ne_zero (Nat.ne_zero_of_lt hfuel)
      cases hinside with
      | nil hgap =>
          refine ⟨before, ?_, fun s _ => by simp⟩
          rw [encode_concat _ (by decide), Reader.fieldEntries]
          exact Reader.bind_of_ok (nextKey_close first hgap r)
  | cons e entries ih =>
      obtain ⟨fuel, rfl⟩ := Nat.exists_eq_add_one_of_ne_zero (Nat.ne_zero_of_lt hfuel)
      obtain ⟨key, v⟩ := e
      obtain ⟨s, hs, rfl, hform⟩ := hentries (key, v) List.mem_cons_self
      obtain ⟨f, hfind, hhandles⟩ := exists_find?_of_mem hnames hfields hs
      obtain ⟨mid, hmid, hget, hframe⟩ := hhandles.takes v hform before
      have hnew : seen.contains s.name = false := by
        simpa using hseen (s.name, v) List.mem_cons_self
      rw [List.map_cons, List.nodup_cons] at hkeys
      have hfresh : ∀ d ∈ entries, d.1 ∉ s.name :: seen := fun d hd =>
        List.not_mem_cons_of_ne_of_not_mem (fun heq => hkeys.1 (List.mem_map.mpr ⟨d, hd, heq⟩))
          (hseen d (List.mem_cons_of_mem _ hd))
      cases hinside with
      | cons hlead hbefore hafter hspelled hrest =>
          have hread := hmid hafter hspelled (endsNumber_entries hrest r)
          obtain ⟨after, hmore, htaken⟩ := ih hkeys.2
            (fun d hd => hentries d (List.mem_cons_of_mem _ hd)) hrest
            (Nat.lt_of_succ_lt_succ hfuel) hfresh mid
          refine ⟨after, ?_, htaken.cons hnames hs hget hframe⟩
          rw [encode_entry, Reader.fieldEntries, Reader.bind_of_ok (nextKey_lead hlead s.name _)]
          simp only [hfind, hnew, Bool.false_eq_true, if_false]
          rw [Reader.bind_of_ok (colon_gap hbefore _), Reader.bind_of_ok hread]
          exact hmore

/-- **An object is taken for the record that it describes**, if a record is told by its settings. -/
theorem takes_record (expected : String) (hnames : (settings.map Setting.name).Nodup)
    (hfields : List.Forall₂ (Handles settings record) fields settings)
    (hext : ∀ other, (∀ s ∈ settings, s.get other = s.get record) → other = record) {v : Value}
    (h : Describes settings start record v) :
    Takes (Reader.record expected fields start) v record := by
  obtain ⟨entries, rfl, hkeys, hentries, hmissing⟩ := h
  intro gap spelled r hgap hspelled _
  cases hspelled with
  | @object _ inside hinside =>
      have hseen : ∀ e ∈ entries, e.1 ∉ ([] : List String) := fun _ _ => List.not_mem_nil
      obtain ⟨after, hread, hget⟩ := fieldEntries_entriesSpelled hnames hfields hkeys hentries
        hinside (length_entries_lt hinside r) hseen start r
      have hafter : after = record := by
        refine hext after fun s hs => ?_
        rw [hget s hs]
        split
        · rfl
        · next hmem => exact ((hmissing s hs).resolve_left hmem).symm
      subst hafter
      show Reader.record expected fields start (encode gap ++ 0x7B :: (encode inside ++ r)) = _
      rw [Reader.record, Reader.bind_of_ok (valueStart_cons hgap (by decide) _),
        if_neg (by decide), if_pos rfl, Reader.bind_of_ok (skip_cons _ _),
        Reader.bind_of_ok (remaining_eq _), Reader.bind_of_ok hread,
        Reader.bind_of_ok (objectEnd_cons r)]
      rfl

/-- **A layout of a value is a whole document** for a reader that takes the value. -/
theorem Takes.run_eq {α : Type} {reader : Reader α} {v : Value} {a : α} (h : Takes reader v a)
    {text : String} (htext : IsLayout v text) :
    reader.run (Text.Utf8.ofString text) = .ok a := by
  obtain ⟨gap, spelled, after, hlist, hgap, hspelled, hafter⟩ := htext
  have hread := h hgap hspelled (r := encode after)
    (by simpa using endsNumber_gap hafter (s := []) (by simp [EndsNumber]))
  have hend : Reader.peekToken (encode after) = .ok (none, []) := by
    simpa using peekToken_gap hafter (s := []) (by simp [StartsToken])
  rw [Text.Utf8.ofString, hlist, encode_append, encode_append, List.append_assoc, Reader.run]
  simp only [Reader.bind_of_ok hread, Reader.bind_of_ok hend]
  rfl

end LivePages.Json
