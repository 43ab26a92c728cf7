import Mathlib.Data.Nat.Notation
import LivePages.Json.Value

/-!
# Layouts of Values

The texts that a value is written as: its tokens in order, each in the spelling of the printer, with
any blanks before, between and after them. What the printer writes has none, and is one of them.

A list or an object is taken from the front. Before its first item there are blanks, before every
other one there is a comma among them, and what is left after the last item is blanks and the
closing bracket.

## Main results

* `IsSpelling`, `IsLayout`: the texts of a value, without and with blanks around them.
* `isSpelling_render`: what the printer writes for a value is one of its texts.
-/

namespace LivePages.Json

/-- The text has only blanks, or nothing. -/
def IsGap (s : List Char) : Prop :=
  ∀ c ∈ s, c = ' ' ∨ c = '\n' ∨ c = '\t' ∨ c = '\r'

/-- What stands before an item: blanks, and a comma among them unless the item is the first. -/
inductive IsLead : Bool → List Char → Prop where
  | first {gap : List Char} (h : IsGap gap) : IsLead true gap
  | next {before after : List Char} (hbefore : IsGap before) (hafter : IsGap after) :
      IsLead false (before ++ ',' :: after)

mutual

/-- The text is one of the value, without blanks around it. -/
inductive IsSpelling : Value → List Char → Prop where
  | null : IsSpelling .null "null".toList
  | true : IsSpelling (.bool true) "true".toList
  | false : IsSpelling (.bool false) "false".toList
  | number (n : Number) : IsSpelling (.number n) n.render.toList
  | text (s : String) : IsSpelling (.text s) (quoteText s).toList
  | list {items : List Value} {inside : List Char} (h : ItemsSpelled true items inside) :
      IsSpelling (.list items) ('[' :: inside)
  | object {entries : List (String × Value)} {inside : List Char}
      (h : EntriesSpelled true entries inside) : IsSpelling (.object entries) ('{' :: inside)

/-- The text is the rest of a list from before these items on, the first ones or not. -/
inductive ItemsSpelled : Bool → List Value → List Char → Prop where
  | nil {first : Bool} {gap : List Char} (hgap : IsGap gap) : ItemsSpelled first [] (gap ++ [']'])
  | cons {first : Bool} {lead spelled rest : List Char} {v : Value} {items : List Value}
      (hlead : IsLead first lead) (h : IsSpelling v spelled)
      (hrest : ItemsSpelled false items rest) :
      ItemsSpelled first (v :: items) (lead ++ spelled ++ rest)

/-- The text is the rest of an object from before these entries on, the first ones or not. -/
inductive EntriesSpelled : Bool → List (String × Value) → List Char → Prop where
  | nil {first : Bool} {gap : List Char} (hgap : IsGap gap) :
      EntriesSpelled first [] (gap ++ ['}'])
  | cons {first : Bool} {lead before after spelled rest : List Char} {key : String} {v : Value}
      {entries : List (String × Value)} (hlead : IsLead first lead) (hbefore : IsGap before)
      (hafter : IsGap after) (h : IsSpelling v spelled)
      (hrest : EntriesSpelled false entries rest) :
      EntriesSpelled first ((key, v) :: entries)
        (lead ++ (quoteText key).toList ++ before ++ ':' :: (after ++ spelled ++ rest))

end

/-- The text is one of the value, with any blanks around it. -/
def IsLayout (v : Value) (text : String) : Prop :=
  ∃ before spelled after, text.toList = before ++ spelled ++ after ∧ IsGap before ∧
    IsSpelling v spelled ∧ IsGap after

/-! ### What the printer writes -/

theorem isGap_nil : IsGap [] :=
  fun _ hc => absurd hc List.not_mem_nil

/-- The printer writes a comma between two items and nothing before the first one. -/
def printedLead : Bool → List Char
  | true => []
  | false => [',']

theorem isLead_printedLead : ∀ first, IsLead first (printedLead first)
  | true => .first isGap_nil
  | false => by simpa [printedLead] using IsLead.next isGap_nil isGap_nil

/-- What the printer writes for items that are not the first ones of their list. -/
def printedItems (items : List Value) : List Char :=
  items.flatMap (fun v => ',' :: v.render.toList) ++ [']']

theorem toList_renderItems_cons (v : Value) (items : List Value) :
    (renderItems (v :: items)).toList ++ [']'] = v.render.toList ++ printedItems items := by
  induction items generalizing v with
  | nil => simp [renderItems, printedItems]
  | cons w items ih =>
      have hrest := ih w
      simp only [renderItems, printedItems, List.flatMap_cons, String.toList_append,
        List.append_assoc] at hrest ⊢
      rw [hrest]
      rfl

/-- What the printer writes for an entry. -/
def printedEntry (e : String × Value) : List Char :=
  (quoteText e.1).toList ++ ':' :: e.2.render.toList

/-- What the printer writes for entries that are not the first ones of their object. -/
def printedEntries (entries : List (String × Value)) : List Char :=
  entries.flatMap (fun e => ',' :: printedEntry e) ++ ['}']

theorem toList_renderEntries_cons (e : String × Value) (entries : List (String × Value)) :
    (renderEntries (e :: entries)).toList ++ ['}'] = printedEntry e ++ printedEntries entries := by
  induction entries generalizing e with
  | nil => simp [renderEntries, printedEntries, printedEntry]
  | cons f entries ih =>
      have hrest := ih f
      simp only [renderEntries, printedEntries, printedEntry, List.flatMap_cons,
        String.toList_append, List.append_assoc] at hrest ⊢
      rw [hrest]
      simp

mutual

/-- **What the printer writes for a value is one of its texts.** -/
theorem isSpelling_render : ∀ v : Value, IsSpelling v v.render.toList
  | .null => .null
  | .bool true => .true
  | .bool false => .false
  | .number n => .number n
  | .text s => .text s
  | .list [] => .list (.nil isGap_nil)
  | .list (v :: items) => by
      have h := ItemsSpelled.cons (isLead_printedLead true) (isSpelling_render v)
        (itemsSpelled_printedItems items)
      have hlist := IsSpelling.list h
      rw [printedLead, List.nil_append, ← toList_renderItems_cons] at hlist
      simpa [Value.render] using hlist
  | .object [] => .object (.nil isGap_nil)
  | .object ((k, v) :: entries) => by
      have h : EntriesSpelled true ((k, v) :: entries) _ := .cons (isLead_printedLead true)
        isGap_nil isGap_nil (isSpelling_render v) (entriesSpelled_printedEntries entries)
      have hobject := IsSpelling.object h
      have hentries := toList_renderEntries_cons (k, v) entries
      simp only [printedLead, printedEntry, List.nil_append, List.append_nil, List.append_assoc,
        List.cons_append] at hobject hentries
      rw [← hentries] at hobject
      simpa [Value.render] using hobject

theorem itemsSpelled_printedItems : ∀ items, ItemsSpelled false items (printedItems items)
  | [] => by simpa [printedItems] using ItemsSpelled.nil isGap_nil
  | v :: items => by
      have h := ItemsSpelled.cons (isLead_printedLead false) (isSpelling_render v)
        (itemsSpelled_printedItems items)
      simpa [printedLead, printedItems] using h

theorem entriesSpelled_printedEntries :
    ∀ entries, EntriesSpelled false entries (printedEntries entries)
  | [] => by simpa [printedEntries] using EntriesSpelled.nil isGap_nil
  | (k, v) :: entries => by
      have h : EntriesSpelled false ((k, v) :: entries) _ := .cons (isLead_printedLead false)
        isGap_nil isGap_nil (isSpelling_render v) (entriesSpelled_printedEntries entries)
      simpa [printedLead, printedEntries, printedEntry] using h

end

/-- The printed text of a value is a layout of it. -/
theorem isLayout_render (v : Value) : IsLayout v v.render :=
  ⟨[], v.render.toList, [], by simp, isGap_nil, isSpelling_render v, isGap_nil⟩

end LivePages.Json
