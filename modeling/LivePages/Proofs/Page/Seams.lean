import LivePages.Proofs.Page.Reading

/-!
# Pages Put Together from Pieces

A text that ends in plain text, with no `<` that waits for a partner, can be followed by anything:
what follows is read as if it stood by itself. If it begins with a tag, the items of the two sides
are those of the whole. If it begins with text, the runs on both sides of the seam are one run, and
nothing else changes.

## Main results

* `exists_scan_append`: what follows is scanned from plain text.
* `scan_around_tag`: the items of a page around a tag.
* `continues_scanFrom`: what kept back text does to the items after it.
-/

namespace LivePages.Page

/-! ### Text that can be continued -/

/-- The page comes to its end in plain text, where no `<` waits for a partner. -/
def EndsInText (page : List Char) : Prop :=
  (page.foldlM (Reading.take fun p _ _ => some p) { progress := {} }).map Reading.stand = some .text

instance : DecidablePred EndsInText :=
  fun _ => inferInstanceAs (Decidable (_ = _))

/-- Tags that do nothing stop no reading. Where it stands after a text, the scanner goes on. -/
theorem Reading.exists_foldlM_take {r : Reading} (hr : r.IsFresh) (page : List Char) :
    ∃ r' out, page.foldlM (take fun p _ _ => some p) r = some r' ∧ r'.IsFresh ∧
      ∀ rest, scanFrom r.mode (page ++ rest) = (scanFrom r'.mode rest).prepend out := by
  have hidle (items : List Item) (p : Progress) :
      ∃ q, items.foldlM (addItem fun p _ _ => some p) p = some q := by
    induction items generalizing p with
    | nil => exact ⟨p, rfl⟩
    | cons i items ih => cases i <;> exact ih _
  induction page generalizing r with
  | nil => exact ⟨r, [], rfl, hr, fun _ => rfl⟩
  | cons c page ih =>
      obtain ⟨out, m, hstep, hscan⟩ := exists_step r.mode c
      obtain ⟨next, hnext, htake⟩ := take_step (fun p _ _ => some p) hr hstep
      obtain ⟨p, hp⟩ := hidle out r.progress
      obtain ⟨hmode, hfresh, -⟩ := hnext p
      obtain ⟨r', out', hrun, hfresh', hrest⟩ := ih hfresh
      refine ⟨r', out ++ out', ?_, hfresh', fun rest => ?_⟩
      · rw [List.foldlM_cons, htake, hp]
        exact hrun
      · rw [List.cons_append, hscan, ← hmode, hrest, Scan.prepend, Scan.prepend, Scan.prepend,
          List.append_assoc]

/-- **What follows plain text is scanned from plain text**, whatever it is. The last run of the text
is kept back, because it may be longer then. -/
theorem exists_scan_append {page : List Char} (h : EndsInText page) :
    ∃ out run, (scan page).items = out ++ textItems run ∧
      ∀ rest, scan (page ++ rest) = (scanFrom (.text run) rest).prepend out := by
  obtain ⟨r, out, hrun, -, hrest⟩ :=
    Reading.exists_foldlM_take (r := { progress := {} }) (Reading.isFresh_of_ne nofun) page
  rw [EndsInText, hrun] at h
  have hmode : r.mode = .text r.pending := by
    rw [Reading.mode, Option.some.inj h]
  rw [hmode] at hrest
  refine ⟨out, r.pending, ?_, hrest⟩
  have hend := hrest []
  rw [List.append_nil] at hend
  exact congrArg Scan.items hend

/-! ### Tags in a page -/

/-- **The items of a page around a tag** are those before it, the tag, and those after it. -/
theorem scan_around_tag {before : List Char} (hbefore : EndsInText before) {kind : TagKind}
    {body : List Char} (htag : (Item.tag kind body).IsSound) (rest : List Char) :
    scan (before ++ (Item.tag kind body).spelling ++ rest) =
      (scan rest).prepend ((scan before).items ++ [.tag kind body]) := by
  obtain ⟨out, run, hitems, hscan⟩ := exists_scan_append hbefore
  obtain ⟨marker, hmarker⟩ := kind.exists_opener_eq
  have hopens : ∀ kept more, scanFrom (.text kept) ('<' :: '%' :: more) =
      (scanFrom .opened more).prepend (textItems kept) := fun _ _ => rfl
  have hspelling : (Item.tag kind body).spelling ++ rest =
      '<' :: '%' :: (marker ++ body ++ ['%', '>'] ++ rest) := by
    rw [Item.spelling, hmarker]
    simp
  have htagged := scan_tag htag rest
  rw [hspelling, scan, hopens] at htagged
  have hrest : scanFrom .opened (marker ++ body ++ ['%', '>'] ++ rest) =
      (scan rest).prepend [.tag kind body] := htagged
  rw [List.append_assoc, hscan, hspelling, hopens, hrest, hitems]
  simp [Scan.prepend]

/-! ### Text in a page -/

/-- Items after which the run at their front is longer by what was kept back. -/
inductive Continues (run : List Char) : List Item → List Item → Prop
  | joined (more : List Char) (items : List Item) :
      Continues run (.text more :: items) (.text (run.reverse ++ more) :: items)
  | apart (items : List Item) : Continues run items (textItems run ++ items)

/-- A finished run becomes longer by what was kept back before it. -/
theorem continues_textItems (run kept : List Char) (items : List Item) :
    Continues run (textItems kept ++ items) (textItems (kept ++ run) ++ items) := by
  cases kept with
  | nil => exact .apart items
  | cons c kept =>
      have hlong : textItems (c :: kept ++ run) =
          [.text (run.reverse ++ (c :: kept).reverse)] := by
        rw [← List.reverse_append]
        rfl
      rw [hlong]
      exact .joined (c :: kept).reverse items

/-- **Text that was kept back goes to the front of the items after it**, and changes nothing else.
So it is in text, and after a `<` in text. -/
theorem continues_scanFrom (run kept rest : List Char) :
    (Continues run (scanFrom (.text kept) rest).items
        (scanFrom (.text (kept ++ run)) rest).items ∧
      (scanFrom (.text (kept ++ run)) rest).tail = (scanFrom (.text kept) rest).tail) ∧
    Continues run (scanFrom (.lessThan kept) rest).items
        (scanFrom (.lessThan (kept ++ run)) rest).items ∧
      (scanFrom (.lessThan (kept ++ run)) rest).tail = (scanFrom (.lessThan kept) rest).tail := by
  induction rest generalizing kept with
  | nil =>
      have htext := continues_textItems run kept []
      have hopen := continues_textItems run ('<' :: kept) []
      simp only [List.append_nil] at htext hopen
      exact ⟨⟨htext, rfl⟩, hopen, rfl⟩
  | cons c rest ih =>
      constructor
      · by_cases hc : c = '<'
        · subst hc
          exact (ih kept).2
        · rw [scanFrom, if_neg hc, scanFrom, if_neg hc]
          exact (ih (c :: kept)).1
      · by_cases hc : c = '%'
        · subst hc
          exact ⟨continues_textItems run kept _, rfl⟩
        · rw [scanFrom, if_neg hc, scanFrom, if_neg hc]
          exact (ih (c :: '<' :: kept)).1

end LivePages.Page
