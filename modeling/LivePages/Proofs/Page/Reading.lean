import LivePages.Page.Expand
import LivePages.Proofs.Page.Grammar

/-!
# Reading Has the Effect of the Items

A page is read in one pass, and the characters of an item wait in a buffer until the item is
complete. The scanner keeps the buffer apart for every mode; the reading has a single one, and a
kind that is left over from the last tag. Where the reading stands determines the mode of the
scanner, except after `<%`, where the buffer must be empty and the kind not yet known.

So the effect of a page is that of its items in their order. A closed tag reaches its effect with
the body that is written between its opener and its end, text is pushed as it is, and only the
tail is dropped.

## Main results

* `Reading.take_step`: a step of the scanner is a step of the reading.
* `read_eq`: the effect of a page is that of its items.
-/

namespace LivePages.Page

variable {effect : TagEffect}

/-! ### Items -/

/-- The effect of an item. -/
def addItem (effect : TagEffect) (p : Progress) : Item → Option Progress
  | .text run => some (p.update (·.push (.literal (String.ofList run))))
  | .tag kind body => effect p kind body

/-- The effect of what follows the last item: a tag without an end is dropped. -/
def addTail (p : Progress) : Tail → Progress
  | .none => p
  | .unclosed _ body _ => p.report (.unclosedTag body.length)

/-- A tail does not touch the parts. -/
@[simp] theorem parts_addTail (p : Progress) (tail : Tail) : (addTail p tail).parts = p.parts := by
  cases tail <;> rfl

/-- A finished run of text is pushed unless it is empty. -/
theorem foldlM_textItems (p : Progress) (run : List Char) :
    (textItems run).foldlM (addItem effect) p = some (p.update (·.pushText run.reverse)) := by
  cases run with
  | nil => rfl
  | cons c run =>
      have hpush : ∀ parts : Parts, parts.pushText (c :: run).reverse =
          parts.push (.literal (String.ofList (c :: run).reverse)) := by
        intro parts
        rw [Parts.pushText, List.isEmpty_reverse]
        rfl
      rw [Progress.update, hpush]
      rfl

/-! ### Steps -/

namespace Reading

/-- The mode of the scanner where a reading stands. -/
def mode (r : Reading) : Mode :=
  match r.stand with
  | .text => .text r.pending
  | .lessThan => .lessThan r.pending
  | .opened => .opened
  | .body => .body r.kind r.pending
  | .percent => .percent r.kind r.pending

/-- Directly after `<%` nothing is kept back, and the kind of the tag is not known. -/
def IsFresh (r : Reading) : Prop :=
  r.stand = .opened → r.pending = [] ∧ r.kind = .unmarked

/-- Elsewhere anything may be kept back. -/
theorem isFresh_of_ne {r : Reading} (h : r.stand ≠ .opened) : r.IsFresh :=
  fun heq => absurd heq h

/-- **A step of the scanner is a step of the reading**, which takes in the items that are complete
with it. -/
theorem take_step (effect : TagEffect) {r : Reading} (hr : r.IsFresh) {c : Char} {out : List Item} {m : Mode}
    (hstep : r.mode.Step c out m) : ∃ next : Progress → Reading,
      (∀ p, (next p).mode = m ∧ (next p).IsFresh ∧ (next p).progress = p) ∧
        r.take effect c = (out.foldlM (addItem effect) r.progress).map next := by
  obtain ⟨stand, kind, pending, progress⟩ := r
  cases stand with
  | text =>
      simp only [mode] at hstep
      cases hstep with
      | text h =>
          exact ⟨fun p => ⟨.text, kind, c :: pending, p⟩,
            fun p => ⟨rfl, isFresh_of_ne nofun, rfl⟩, if_neg h⟩
      | lessThan =>
          exact ⟨fun p => ⟨.lessThan, kind, pending, p⟩,
            fun p => ⟨rfl, isFresh_of_ne nofun, rfl⟩, rfl⟩
  | lessThan =>
      simp only [mode] at hstep
      cases hstep with
      | opens =>
          refine ⟨fun p => ⟨.opened, .unmarked, [], p⟩,
            fun p => ⟨rfl, fun _ => ⟨rfl, rfl⟩, rfl⟩, ?_⟩
          rw [foldlM_textItems]
          rfl
      | pairs h =>
          exact ⟨fun p => ⟨.text, kind, c :: '<' :: pending, p⟩,
            fun p => ⟨rfl, isFresh_of_ne nofun, rfl⟩, if_neg h⟩
  | opened =>
      obtain ⟨rfl, rfl⟩ : pending = [] ∧ kind = .unmarked := hr rfl
      simp only [mode] at hstep
      cases hstep with
      | @marked _ kind h =>
          refine ⟨fun p => ⟨.body, kind, [], p⟩, fun p => ⟨rfl, isFresh_of_ne nofun, rfl⟩, ?_⟩
          simp only [take, h]
          rfl
      | unmarked =>
          exact ⟨fun p => ⟨.percent, .unmarked, [], p⟩,
            fun p => ⟨rfl, isFresh_of_ne nofun, rfl⟩, rfl⟩
      | code hmark h =>
          refine ⟨fun p => ⟨.body, .code, [c], p⟩, fun p => ⟨rfl, isFresh_of_ne nofun, rfl⟩, ?_⟩
          simp only [take, hmark, if_neg h]
          rfl
  | body =>
      simp only [mode] at hstep
      cases hstep with
      | body h =>
          exact ⟨fun p => ⟨.body, kind, c :: pending, p⟩,
            fun p => ⟨rfl, isFresh_of_ne nofun, rfl⟩, if_neg h⟩
      | percent =>
          exact ⟨fun p => ⟨.percent, kind, pending, p⟩,
            fun p => ⟨rfl, isFresh_of_ne nofun, rfl⟩, rfl⟩
  | percent =>
      simp only [mode] at hstep
      cases hstep with
      | closes =>
          refine ⟨fun p => ⟨.text, kind, [], p⟩, fun p => ⟨rfl, isFresh_of_ne nofun, rfl⟩, ?_⟩
          simp only [List.foldlM_cons, List.foldlM_nil, bind_pure]
          rfl
      | goesOn h =>
          exact ⟨fun p => ⟨.body, kind, c :: '%' :: pending, p⟩,
            fun p => ⟨rfl, isFresh_of_ne nofun, rfl⟩, if_neg h⟩

/-- At the end of the page the text that is kept back is pushed. -/
theorem finish_eq {r : Reading} (hr : r.IsFresh) :
    ((scanFrom r.mode []).items.foldlM (addItem effect) r.progress).map
      (addTail · (scanFrom r.mode []).tail) = some r.finish := by
  obtain ⟨stand, kind, pending, progress⟩ := r
  cases stand with
  | text | lessThan =>
      simp only [mode, scanFrom, foldlM_textItems]
      rfl
  | opened =>
      obtain ⟨rfl, rfl⟩ : pending = [] ∧ kind = .unmarked := hr rfl
      rfl
  | body | percent =>
      have hlength : pending.reverse.length = pending.length := List.length_reverse
      simp only [mode, scanFrom, finish, addTail, hlength]
      rfl

/-- Reading on has the effect of the items that are found by scanning on. -/
theorem foldlM_take {r : Reading} (hr : r.IsFresh) (page : List Char) :
    (page.foldlM (take effect) r).map finish =
      ((scanFrom r.mode page).items.foldlM (addItem effect) r.progress).map
        (addTail · (scanFrom r.mode page).tail) := by
  induction page generalizing r with
  | nil => exact (finish_eq hr).symm
  | cons c page ih =>
      obtain ⟨out, m, hstep, hscan⟩ := exists_step r.mode c
      obtain ⟨next, hnext, htake⟩ := take_step effect hr hstep
      rw [List.foldlM_cons, htake, hscan, Scan.prepend]
      simp only [List.foldlM_append]
      cases out.foldlM (addItem effect) r.progress with
      | none => rfl
      | some p =>
          obtain ⟨hmode, hfresh, hprogress⟩ := hnext p
          have hrest := ih hfresh
          rw [hmode, hprogress] at hrest
          exact hrest

end Reading

/-- **Reading a page has the effect of its items**, one after the other; the tail is dropped. -/
theorem read_eq (effect : TagEffect) (page : List Char) (p : Progress) :
    read effect page p =
      ((scan page).items.foldlM (addItem effect) p).map (addTail · (scan page).tail) := by
  have hfresh : Reading.IsFresh { progress := p } := Reading.isFresh_of_ne nofun
  exact Reading.foldlM_take hfresh page

end LivePages.Page
