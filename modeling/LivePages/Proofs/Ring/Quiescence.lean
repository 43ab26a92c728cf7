import LivePages.Proofs.Files.Removal
import LivePages.Proofs.Ring.Failure

/-!
# Quiescence

A rotation compares the pages with the executable of the live backend. That is the one in the slot
published last, while the current slot is the next one, whose executable a retirement deletes sooner
or later. Whatever is deleted, it is not what the pages are compared with, and no page is found
after a deletion that was not found before. So once the pages are older than that executable, every
rotation finds them so, until somebody else changes them.

The directory of the pages must stay as well: a rotation that does not find it fails. And no link
may stand in the place of an executable: two slots could have the same one.

## Main definitions

* `Site.pageFiles`: the page files below the web root.
* `Machine.UpToDate`: what pages are compared with is there, and no page is younger.
* `Machine.Spared`: whoever makes a move leaves pages and executables alone.
* `Machine.Rests`: rotations that come to nothing.

## Main results

* `Machine.UpToDate.retireAt`: no retirement makes the pages younger.
* `Machine.Resting.apply`: a move leads from rest to rest.
* `quiescence`: after a rotation that has succeeded, all others come to nothing.
* `Machine.run_rootless`: a rotation that does not find the directory of the pages fails.
-/

namespace LivePages.Site

open Files (Tree)

variable {tree tree' : Tree} {root : String} {page p : PageFile}

/-- The page files below the root, as often as a scan comes by them. -/
def pageFiles (tree : Tree) (root : String) : List PageFile :=
  (tree.walk root).filterMap (pageOfVisit? root)

/-- A page has the time of the one that was put into the list, or has been there. -/
theorem modified_of_mem_insertPage {pages : List PageFile} (h : p ∈ insertPage page pages) :
    p.modified = page.modified ∨ p ∈ pages := by
  induction pages with
  | nil => exact .inl (congrArg _ (List.mem_singleton.mp h))
  | cons q pages ih =>
      rw [insertPage] at h
      split at h
      · rcases List.mem_cons.mp h with rfl | h
        · exact .inl rfl
        · exact .inr h
      · rcases List.mem_cons.mp h with rfl | h
        · exact .inl rfl
        · exact .inr (List.mem_cons_of_mem q h)
      · rcases List.mem_cons.mp h with rfl | h
        · exact .inr List.mem_cons_self
        · exact (ih h).imp_right (List.mem_cons_of_mem q)

/-- A scanned page has the time of a page file. -/
theorem exists_pageFile_of_mem_scan {found : Scan} (h : scan tree root = .ok found)
    (hp : p ∈ found.pages) : ∃ q ∈ pageFiles tree root, q.modified = p.modified := by
  have hfold (visited : List PageFile) (sorted : List PageFile)
      (hp : p ∈ visited.foldl (fun sorted page => insertPage page sorted) sorted) :
      (∃ q ∈ visited, q.modified = p.modified) ∨ p ∈ sorted := by
    induction visited generalizing sorted with
    | nil => exact .inr hp
    | cons page visited ih =>
        rcases ih _ hp with ⟨q, hq, heq⟩ | hp
        · exact .inl ⟨q, List.mem_cons_of_mem page hq, heq⟩
        · rcases modified_of_mem_insertPage hp with heq | hp
          · exact .inl ⟨page, List.mem_cons_self, heq.symm⟩
          · exact .inr hp
  rw [scan] at h
  split at h
  · exact absurd h (by simp)
  · obtain rfl := Except.ok.inj h
    exact (hfold _ _ hp).resolve_right List.not_mem_nil

/-- A directory is scanned. -/
theorem exists_scan_of_isDirectory (h : tree.isDirectory root = true) :
    ∃ found, scan tree root = .ok found := by
  rw [scan, h]
  exact ⟨_, rfl⟩

/-- No page files are found when something is taken out that were not there before. -/
theorem pageFiles_subset (h : tree'.PartOf tree) (hproper : tree.Proper) (root : String) :
    pageFiles tree' root ⊆ pageFiles tree root := by
  intro p hp
  obtain ⟨visit, hvisit, hpage⟩ := List.mem_filterMap.mp hp
  refine List.mem_filterMap.mpr ⟨visit, ?_, hpage⟩
  cases visit with
  | file path m => exact h.file_mem_walk hproper hvisit
  | unreadable | loop => exact absurd hpage (by simp [pageOfVisit?])

end LivePages.Site

namespace LivePages.Ring

open Files (Node Tree)
open Site (pageFiles)

variable {s t u v : Machine} {marker : Node} {m : Move} {b : Books} {moves : List Move}

/-! ### Pages and executables -/

/-- What the pages are compared with is there, and no page is younger. No link stands in the place
of an executable of the ring, so that each slot has one of its own. -/
structure Machine.UpToDate (s : Machine) (marker : Node) : Prop where
  proper : s.tree.Proper
  rooted : s.tree.isDirectory s.config.webRoot = true
  unlinked : ∀ path ∈ s.slots.map (·.exePath), ∀ target,
    s.tree.standing? path ≠ some (.link target)
  marked : s.tree.standing? s.builtLast = some marker
  fresh : ∀ p ∈ pageFiles s.tree s.config.webRoot, p.modified ≤ marker.modified

/-- The files in place of others are such that the directory of the pages is still there, no page is
new or has a new time, and what stands in the places of the executables is as it was. -/
structure Machine.Unaltered (s : Machine) (tree : Tree) : Prop where
  proper : tree.Proper
  rooted : tree.isDirectory s.config.webRoot = true
  pages : pageFiles tree s.config.webRoot ⊆ pageFiles s.tree s.config.webRoot
  executables : ∀ path ∈ s.slots.map (·.exePath), tree.standing? path = s.tree.standing? path

/-- Whoever makes the move leaves pages and executables alone, but for the ring itself, and no
shutdown begins. -/
def Machine.Spared (s : Machine) : Move → Prop
  | .beginStop => False
  | .change tree => s.Unaltered tree
  | _ => True

/-- The executable of a slot is one of those of the ring. -/
theorem Machine.exePath_slot_mem {i : ℕ} (h : i < s.slots.length) :
    (s.slot i).exePath ∈ s.slots.map (·.exePath) := by
  rw [slot, List.getD_eq_getElem?_getD, List.getElem?_eq_getElem h]
  exact List.mem_map_of_mem (List.getElem_mem h)

/-- The executables of slots with the same paths are the same. -/
theorem Machine.exePath_slot_congr (h : t.slots.map (·.exePath) = s.slots.map (·.exePath)) (i : ℕ) :
    (t.slot i).exePath = (s.slot i).exePath := by
  have hget := congrArg (·[i]?) h
  simp only [List.getElem?_map] at hget
  rw [slot, slot, List.getD_eq_getElem?_getD, List.getD_eq_getElem?_getD]
  cases ht : t.slots[i]? <;> cases hs : s.slots[i]? <;> simp_all

/-- The live backend is compared with the executable of its slot. -/
theorem Machine.builtLast_of_live {h : Handle} (hlive : s.live = some h) :
    s.builtLast = (s.slot h.slot).exePath := by
  rw [builtLast, hlive]

theorem Machine.builtLast_congr (hlive : t.live = s.live)
    (hposition : t.position = s.position)
    (hslots : t.slots.map (·.exePath) = s.slots.map (·.exePath)) : t.builtLast = s.builtLast := by
  rw [builtLast, builtLast, hlive, current, current, hposition]
  cases s.live with
  | none => exact Machine.exePath_slot_congr hslots _
  | some h => exact Machine.exePath_slot_congr hslots _

/-- The slot of the live backend is one of the ring. -/
theorem Machine.Sound.live_slot_lt (h : s.Sound) {g : Handle} (hlive : s.live = some g) :
    g.slot < s.slots.length :=
  Scene.lt_length_of_locked (h.owned.held _ (Machine.mem_possessions_of_live hlive)).locked

/-- A retirement that is about to delete an executable does not have the slot of the live
backend. -/
theorem Machine.Sound.slot_ne_of_delete (h : s.Sound) {g : Handle} (hlive : s.live = some g)
    {r : Retirement} (hr : r ∈ s.retirements) (hnext : r.next = .delete) :
    r.handle.slot ≠ g.slot ∧ r.handle.slot < s.slots.length := by
  have hpossession : r.handle.inStage [.cleaning] 4 ∈ s.possessions := by
    refine List.mem_append_right _ (List.mem_append_right _ (List.mem_filterMap.mpr ⟨r, hr, ?_⟩))
    rw [Retirement.possession?, hnext]
    rfl
  refine ⟨fun hslot => ?_, Scene.lt_length_of_locked (h.owned.held _ hpossession).locked⟩
  have hsame := h.owned.eq_of_slot_eq hpossession (Machine.mem_possessions_of_live hlive) hslot
  exact absurd (congrArg Possession.phases hsame) (by simp [Handle.inStage, Handle.live])

/-- Pages stay older than what they are compared with if none is new or has a new time, and neither
the executable nor the directory of the pages is missed. -/
theorem Machine.UpToDate.of_kept (h : s.UpToDate marker) (hconfig : t.config = s.config)
    (hslots : t.slots.map (·.exePath) = s.slots.map (·.exePath))
    (hbuilt : t.builtLast = s.builtLast) (hproper : t.tree.Proper)
    (hrooted : t.tree.isDirectory s.config.webRoot = true)
    (hpages : pageFiles t.tree s.config.webRoot ⊆ pageFiles s.tree s.config.webRoot)
    (hlinks : ∀ path ∈ s.slots.map (·.exePath), ∀ target,
      t.tree.standing? path = some (.link target) → s.tree.standing? path = some (.link target))
    (hmarked : t.tree.standing? s.builtLast = some marker) : t.UpToDate marker where
  proper := hproper
  rooted := hconfig ▸ hrooted
  unlinked := by
    rw [hslots]
    exact fun path hpath target hlink =>
      h.unlinked path hpath target (hlinks path hpath target hlink)
  marked := hbuilt ▸ hmarked
  fresh := by
    rw [hconfig]
    exact fun p hp => h.fresh p (hpages hp)

/-- Where nothing happens to the files they stay so. -/
theorem Machine.UpToDate.congr (h : s.UpToDate marker) (hconfig : t.config = s.config)
    (hslots : t.slots.map (·.exePath) = s.slots.map (·.exePath))
    (hbuilt : t.builtLast = s.builtLast) (htree : t.tree = s.tree) : t.UpToDate marker :=
  h.of_kept hconfig hslots hbuilt (htree ▸ h.proper) (htree ▸ h.rooted)
    (htree ▸ List.Subset.refl _) (htree ▸ fun _ _ _ => id) (htree ▸ h.marked)

/-- Whoever leaves pages and executables alone leaves them so. -/
theorem Machine.UpToDate.of_unaltered (h : s.UpToDate marker) (hconfig : t.config = s.config)
    (hslots : t.slots.map (·.exePath) = s.slots.map (·.exePath))
    (hbuilt : t.builtLast = s.builtLast) (hmem : s.builtLast ∈ s.slots.map (·.exePath))
    (hsame : s.Unaltered t.tree) : t.UpToDate marker := by
  refine h.of_kept hconfig hslots hbuilt hsame.proper hsame.rooted hsame.pages ?_ ?_
  · exact fun path hpath target hlink => hsame.executables path hpath ▸ hlink
  · rw [hsame.executables _ hmem, h.marked]

/-- **Deleting the executable of another slot leaves them so.** -/
theorem Machine.UpToDate.of_removeFile (h : s.UpToDate marker) (hcustody : s.Custody b)
    {g : Handle} (hlive : s.live = some g) {j : ℕ} (hj : j < s.slots.length) (hne : j ≠ g.slot)
    (hremove : s.tree.removeFile (s.slot j).exePath = .ok t.tree)
    (hconfig : t.config = s.config) (hslots : t.slots.map (·.exePath) = s.slots.map (·.exePath))
    (hbuilt : t.builtLast = s.builtLast) : t.UpToDate marker := by
  have hname (i : ℕ) : Files.Path.isName ("backend-" ++ toString i) = true :=
    Files.Path.isName_numbered (c := 'b') (by decide) (by decide) (by decide) i
  have hmarked := h.marked
  have hunlinked := h.unlinked _ (Machine.exePath_slot_mem hj)
  rw [Machine.builtLast_of_live hlive, hcustody.exePath_slot (hcustody.sound.live_slot_lt hlive)]
    at hmarked
  rw [hcustody.exePath_slot hj] at hremove hunlinked
  obtain ⟨parent, node, -, hnode, hfile, htree⟩ :=
    Files.Tree.exists_file_of_removeFile (hname j) hunlinked hremove
  have hpart : t.tree.PartOf s.tree := htree ▸ Files.Tree.partOf_erase s.tree _
  refine h.of_kept hconfig hslots hbuilt ?_ ?_ ?_ ?_ ?_
  · exact htree ▸ h.proper.erase _
  · exact htree ▸ Files.Tree.isDirectory_erase h.proper hnode hfile h.rooted
  · exact Site.pageFiles_subset hpart h.proper _
  · exact fun path _ target hlink => hpart.standing? h.proper hlink
  · rw [Machine.builtLast_of_live hlive, hcustody.exePath_slot (hcustody.sound.live_slot_lt hlive)]
    refine Files.Tree.standing?_removeFile (hname j) hunlinked hremove h.proper (hname g.slot) ?_
      hmarked
    exact fun heq => hne (Text.numbered_injective "backend-" heq).symm

/-- **No retirement makes pages younger than what they are compared with.** -/
theorem Machine.UpToDate.retireAt (h : s.UpToDate marker) (hcustody : s.Custody b)
    {g : Handle} (hlive : s.live = some g) {i : ℕ} (heq : s.retireAt i = some t) :
    t.config = s.config ∧ t.slots.map (·.exePath) = s.slots.map (·.exePath) ∧
      t.UpToDate marker := by
  obtain ⟨m, m', os, hstep⟩ := Machine.retireAt_step false (by simp) heq
  obtain ⟨r, following, u, hr, hu, rfl⟩ := Machine.exists_of_retireAt heq
  obtain ⟨hconfig, hfiles⟩ := Machine.retire_files hu
  have hslots := hstep.acts.exePaths
  have hbuilt := Machine.builtLast_congr hstep.live hstep.position hslots
  refine ⟨hconfig, hslots, ?_⟩
  rcases hfiles with htree | ⟨hnext, hremove⟩
  · exact h.congr hconfig hslots hbuilt htree
  · obtain ⟨hne, hlt⟩ := hcustody.sound.slot_ne_of_delete hlive (List.mem_of_getElem? hr) hnext
    exact h.of_removeFile hcustody hlive hlt hne hremove hconfig hslots hbuilt

/-! ### Rotations that come to nothing -/

/-- A statement of a rotation that comes to nothing: no page that it has found is younger. -/
def Statement.Idles (time : Files.Time) : Statement → Prop
  | .scan | .finish .idle => True
  | .check pages => ∀ p ∈ pages, p.modified ≤ time
  | _ => False

/-- How many statements of its task have been carried out. -/
def Machine.carriedOut (s : Machine) : ℕ :=
  match s.task with
  | some (.check _) => 1
  | some (.finish _) => 2
  | _ => 0

/-- The move is a statement of the task that has the ring. -/
def Move.isProceed : Move → Bool
  | .proceed _ => true
  | _ => false

/-- At rest, after a number of statements of rotations that have come to nothing. -/
structure Machine.Resting (s : Machine) (marker : Node) (n : ℕ) (u : Machine) : Prop where
  config : u.config = s.config
  slots : u.slots.map (·.exePath) = s.slots.map (·.exePath)
  live : u.live = s.live
  position : u.position = s.position
  shown : u.shown = s.shown
  published : u.published = s.published
  upToDate : u.UpToDate marker
  task : ∀ st, u.task = some st → st.Idles marker.modified
  /-- Every rotation has three statements. -/
  outcomes : u.outcomes = s.outcomes ++ List.replicate (n / 3) .idle
  carriedOut : u.carriedOut = n % 3

variable {n : ℕ} {g : Handle} {st : Statement} {world : World}

/-- If no page is younger than the executable, the live backend is up to date. -/
theorem Machine.UpToDate.check_eq (h : s.UpToDate marker) (hlive : s.live = some g)
    (hlink : ∀ target, marker ≠ .link target) {pages : List Site.PageFile}
    (hpages : ∀ p ∈ pages, p.modified ≤ marker.modified) :
    s.check pages = s.next (.finish .idle) := by
  have hstat := Files.Tree.stat_of_standing? h.marked hlink
  have hfresh : Site.isStale s.tree s.builtLast (pages.map (·.modified)) = false := by
    rw [Site.isStale, hstat]
    simpa using hpages
  rw [check, hfresh, hlive]
  rfl

/-- What the pages are compared with is no link. -/
theorem Machine.UpToDate.ne_link (h : s.UpToDate marker) (hsound : s.Sound)
    (hlive : s.live = some g) (target : String) : marker ≠ .link target := by
  rintro rfl
  refine h.unlinked _ (Machine.exePath_slot_mem (hsound.live_slot_lt hlive)) target ?_
  rw [← Machine.builtLast_of_live hlive, h.marked]

/-- **A statement of a rotation at rest** can be carried out and changes nothing but the log. -/
theorem Machine.Resting.exists_carryOut (h : s.Resting marker n u) (hlive : s.live = some g)
    (hsound : u.Sound) (htask : u.task = some st) (world : World) :
    ∃ task outcomes lines,
      u.carryOut world st = some { u with task, outcomes, log := u.log ++ lines } ∧
        s.Resting marker (n + 1) { u with task, outcomes, log := u.log ++ lines } := by
  have hidles := h.task st htask
  have hcarried := h.carriedOut
  have hlive' : u.live = some g := h.live.trans hlive
  rw [Machine.carriedOut, htask] at hcarried
  -- what all three statements leave as it was
  have hrest {task : Option Statement} {outcomes : List Outcome} {log : List Log.Line}
      (htask : ∀ next, task = some next → next.Idles marker.modified)
      (houtcomes : outcomes = s.outcomes ++ List.replicate ((n + 1) / 3) .idle)
      (hcarried : ({ u with task, outcomes, log } : Machine).carriedOut = (n + 1) % 3) :
      s.Resting marker (n + 1) { u with task, outcomes, log } :=
    ⟨h.config, h.slots, h.live, h.position, h.shown, h.published,
      h.upToDate.congr rfl rfl rfl rfl, htask, houtcomes, hcarried⟩
  cases st with
  | scan =>
      have hzero : n % 3 = 0 := hcarried.symm
      obtain ⟨found, hfound⟩ := Site.exists_scan_of_isDirectory h.upToDate.rooted
      refine ⟨some (.check found.pages), u.outcomes, found.log, ?_, hrest ?_ ?_ ?_⟩
      · rw [carryOut, hfound]
        rfl
      · intro next hnext
        obtain rfl := Option.some.inj hnext
        intro p hp
        obtain ⟨q, hq, heq⟩ := Site.exists_pageFile_of_mem_scan hfound hp
        exact heq ▸ h.upToDate.fresh q hq
      · have hsame : (n + 1) / 3 = n / 3 := by omega
        rw [hsame]
        exact h.outcomes
      · show 1 = (n + 1) % 3
        omega
  | check pages =>
      have hone : n % 3 = 1 := hcarried.symm
      refine ⟨some (.finish .idle), u.outcomes, [], ?_, hrest ?_ ?_ ?_⟩
      · rw [carryOut, h.upToDate.check_eq hlive' (h.upToDate.ne_link hsound hlive') hidles,
          List.append_nil]
        rfl
      · intro next hnext
        obtain rfl := Option.some.inj hnext
        trivial
      · have hsame : (n + 1) / 3 = n / 3 := by omega
        rw [hsame]
        exact h.outcomes
      · show 2 = (n + 1) % 3
        omega
  | finish outcome =>
      cases outcome with
      | idle =>
          have htwo : n % 3 = 2 := hcarried.symm
          refine ⟨none, u.outcomes ++ [.idle], [], ?_, hrest ?_ ?_ ?_⟩
          · rw [carryOut, List.append_nil]
            rfl
          · exact fun _ hnone => absurd hnone (by simp)
          · have hnext : (n + 1) / 3 = n / 3 + 1 := by omega
            rw [h.outcomes, hnext, List.replicate_succ', List.append_assoc]
          · show 0 = (n + 1) % 3
            omega
      | _ => exact absurd hidles id
  | _ => exact absurd hidles id

/-- Somebody else makes a move that leaves pages and executables alone. -/
theorem Machine.Resting.of_aside (h : s.Resting marker n u) (haside : u.Aside v)
    (hstop : u.task = none → v.task ≠ some .stop) (hconfig : v.config = u.config)
    (hslots : v.slots.map (·.exePath) = u.slots.map (·.exePath)) (hfiles : v.UpToDate marker) :
    s.Resting marker n v := by
  refine ⟨hconfig.trans h.config, hslots.trans h.slots, haside.steady.live.trans h.live,
    haside.steady.position.trans h.position, haside.steady.shown.trans h.shown,
    haside.published.trans h.published, hfiles, ?_, haside.outcomes.trans h.outcomes, ?_⟩
  all_goals
    have hcarried := h.carriedOut
    rcases haside.task with htask | ⟨hnone, htask | htask⟩
  · exact htask ▸ h.task
  · intro next hnext
    obtain rfl := Option.some.inj (htask.symm.trans hnext)
    trivial
  · exact absurd htask (hstop hnone)
  · rw [Machine.carriedOut, htask]
    exact hcarried
  · rw [Machine.carriedOut, hnone] at hcarried
    rw [Machine.carriedOut, htask]
    exact hcarried
  · exact absurd htask (hstop hnone)

/-- **A move leads from rest to rest.** -/
theorem Machine.Resting.apply (h : s.Resting marker n u) (hlive : s.live = some g)
    (hcustody : u.Custody b) (hspared : u.Spared m) (heq : u.apply m = some v) :
    s.Resting marker (if m.isProceed then n + 1 else n) v := by
  obtain ⟨w, hw, rfl⟩ := Option.map_eq_some_iff.mp heq
  cases m with
  | proceed world =>
      obtain ⟨st, htask, hcarry⟩ := Option.bind_eq_some_iff.mp hw
      obtain ⟨_, _, _, hcarry', hrest⟩ := h.exists_carryOut hlive hcustody.sound htask world
      obtain rfl := Option.some.inj (hcarry'.symm.trans hcarry)
      exact ⟨hrest.config, hrest.slots, hrest.live, hrest.position, hrest.shown, hrest.published,
        hrest.upToDate.congr rfl rfl rfl rfl, hrest.task, hrest.outcomes, hrest.carriedOut⟩
  | begin =>
      have haside := Machine.apply_aside (by simp) heq
      obtain ⟨hnone, hw⟩ := Option.ite_none_right_eq_some.mp hw
      obtain rfl := Option.some.inj hw
      exact h.of_aside haside (by simp [next]) rfl rfl (h.upToDate.congr rfl rfl rfl rfl)
  | beginStop => exact absurd hspared id
  | retire i =>
      have haside := Machine.apply_aside (by simp) heq
      obtain ⟨_, _, _, hstep⟩ := Machine.retireAt_step false (by simp) hw
      obtain ⟨hconfig, hslots, hfiles⟩ :=
        h.upToDate.retireAt hcustody (h.live.trans hlive) hw
      refine h.of_aside haside ?_ hconfig hslots (hfiles.congr rfl rfl rfl rfl)
      intro hnone hstop
      exact absurd (hnone.symm.trans (hstep.task.symm.trans hstop)) (by simp)
  | exit k status =>
      have haside := Machine.apply_aside (by simp) heq
      obtain ⟨B, -, hrest⟩ := Option.bind_eq_some_iff.mp hw
      split at hrest
      · exact absurd hrest (by simp)
      · obtain rfl := Option.some.inj hrest
        refine h.of_aside haside ?_ rfl rfl (h.upToDate.congr rfl rfl rfl rfl)
        intro hnone hstop
        exact absurd (hnone.symm.trans hstop) (by simp)
  | change tree =>
      have haside := Machine.apply_aside (by simp) heq
      obtain rfl := Option.some.inj hw
      have hlive' : u.live = some g := h.live.trans hlive
      have hmem : u.builtLast ∈ u.slots.map (·.exePath) := by
        rw [Machine.builtLast_of_live hlive']
        exact Machine.exePath_slot_mem (hcustody.sound.live_slot_lt hlive')
      refine h.of_aside haside ?_ rfl rfl (h.upToDate.of_unaltered rfl rfl rfl hmem hspared)
      intro hnone hstop
      exact absurd (hnone.symm.trans hstop) (by simp)

/-- **A run leads from rest to rest.** -/
theorem Machine.Resting.run (h : s.Resting marker n u) (hlive : s.live = some g)
    (hcustody : u.Custody b) (hspared : ∀ m v w, u.Passes moves m v w → v.Spared m)
    (hrun : u.run moves = some t) :
    s.Resting marker (n + moves.countP (·.isProceed)) t ∧ ∃ b, t.Custody b := by
  induction moves generalizing u n b with
  | nil =>
      obtain rfl := Option.some.inj hrun
      exact ⟨h, b, hcustody⟩
  | cons m moves ih =>
      obtain ⟨v, hv, hrest⟩ := Option.bind_eq_some_iff.mp hrun
      have hnext := h.apply hlive hcustody (hspared m u v ⟨[], moves, rfl, rfl, hv⟩) hv
      have hlater := ih hnext (hcustody.apply hv) ?_ hrest
      · cases hm : m.isProceed with
        | false => simpa [hm] using hlater
        | true => simpa [hm, Nat.add_assoc, Nat.add_comm 1] using hlater
      · rintro m' w w' ⟨first, rest, rfl, hfirst, happly⟩
        refine hspared m' w w' ⟨m :: first, rest, rfl, ?_, happly⟩
        rw [Machine.run, hv]
        exact hfirst

/-- A statement of a rotation at rest is a move. -/
theorem Machine.Resting.exists_apply (h : s.Resting marker n u) (hlive : s.live = some g)
    (hsound : u.Sound) (htask : u.task ≠ none) (world : World) :
    ∃ task outcomes lines, u.apply (.proceed world) =
      some { u with task, outcomes, log := u.log ++ lines, clock := u.clock + 1 } := by
  obtain ⟨st, hst⟩ := Option.ne_none_iff_exists'.mp htask
  obtain ⟨task, outcomes, lines, hcarry, -⟩ := h.exists_carryOut hlive hsound hst world
  refine ⟨task, outcomes, lines, ?_⟩
  simp only [Machine.apply, hst, Option.bind_some, hcarry, Option.map_some]

/-- **A rotation at rest has three statements** and comes to nothing. -/
theorem Machine.Resting.again (h : s.Resting marker n u) (hlive : s.live = some g)
    (hcustody : u.Custody b) (htask : u.task = none) (first second third : World) :
    ∃ lines, u.run [.begin, .proceed first, .proceed second, .proceed third] =
      some { u with
        outcomes := u.outcomes ++ [.idle], log := u.log ++ lines, clock := u.clock + 4 } := by
  have hzero : n % 3 = 0 := by
    rw [← h.carriedOut, Machine.carriedOut, htask]
  have hcount : (n + 2) / 3 = n / 3 := by omega
  have hbegin : u.apply .begin = some { u with task := some .scan, clock := u.clock + 1 } := by
    simp [Machine.apply, take, htask, next]
  have hrest₀ : s.Resting marker n _ := h.apply (m := .begin) hlive hcustody trivial hbegin
  have hcustody₀ := hcustody.apply hbegin
  obtain ⟨task₁, outcomes₁, lines₁, happly₁⟩ :=
    hrest₀.exists_apply hlive hcustody₀.sound (by simp) first
  have hrest₁ : s.Resting marker (n + 1) _ :=
    hrest₀.apply (m := .proceed first) hlive hcustody₀ trivial happly₁
  have hcustody₁ := hcustody₀.apply happly₁
  have htask₁ : task₁ ≠ none := by
    rintro rfl
    have hcarried : 0 = (n + 1) % 3 := hrest₁.carriedOut
    omega
  obtain ⟨task₂, outcomes₂, lines₂, happly₂⟩ :=
    hrest₁.exists_apply hlive hcustody₁.sound htask₁ second
  have hrest₂ : s.Resting marker (n + 2) _ :=
    hrest₁.apply (m := .proceed second) hlive hcustody₁ trivial happly₂
  -- after two statements the rotation is about to end
  obtain rfl : task₂ = some (.finish .idle) := by
    have hcarried : Machine.carriedOut _ = (n + 2) % 3 := hrest₂.carriedOut
    rw [Machine.carriedOut, Nat.add_mod, hzero] at hcarried
    dsimp only at hcarried
    split at hcarried
    · exact absurd hcarried (by decide)
    · next outcome =>
      have hidles := hrest₂.task _ rfl
      cases outcome with
      | idle => rfl
      | _ => exact absurd hidles id
    · exact absurd hcarried (by decide)
  have houtcomes : outcomes₂ = u.outcomes := by
    have hsame : outcomes₂ = s.outcomes ++ List.replicate ((n + 2) / 3) .idle := hrest₂.outcomes
    rw [hsame, h.outcomes, hcount]
  refine ⟨lines₁ ++ lines₂, ?_⟩
  rw [Machine.run, hbegin, Option.bind_some, Machine.run, happly₁, Option.bind_some, Machine.run,
    happly₂, houtcomes, ← List.append_assoc]
  simp only [Machine.run, Machine.apply, carryOut, finish, Option.bind_some, Option.map_some]
  rw [htask]

/-! ### Quiescence -/

/-- From one moment to another all rotations come to nothing. -/
structure Machine.Rests (s : Machine) (moves : List Move) (t : Machine) : Prop where
  /-- Every three statements of rotations one has ended, and has found nothing to do. -/
  outcomes : t.outcomes = s.outcomes ++ List.replicate (moves.countP (·.isProceed) / 3) .idle
  /-- A statement of a rotation changes nothing but the log. -/
  still : ∀ world u v, s.Passes moves (.proceed world) u v → ∃ task outcomes lines,
    v = { u with task, outcomes, log := u.log ++ lines, clock := u.clock + 1 }
  /-- Nobody else changes this either. -/
  kept : t.live = s.live ∧ t.position = s.position ∧ t.shown = s.shown ∧ t.published = s.published
  /-- No rotation waits for anything. -/
  goesOn : t.task ≠ none → ∀ world, ∃ u, t.apply (.proceed world) = some u
  /-- Another rotation comes to nothing as well. -/
  again : t.task = none → ∀ first second third, ∃ lines,
    t.run [.begin, .proceed first, .proceed second, .proceed third] = some { t with
      outcomes := t.outcomes ++ [.idle], log := t.log ++ lines, clock := t.clock + 4 }

/-- After a rotation that has succeeded there is a live backend, if no shutdown has begun. -/
theorem Machine.InTurn.exists_live {k : ℕ} (h : s.InTurn true k) (htask : s.task = none)
    (hrotated : s.outcomes.getLast? = some .rotated) : ∃ g, s.live = some g := by
  obtain ⟨outcomes, houtcomes⟩ := List.getLast?_eq_some_iff.mp hrotated
  have hlive := h.live.resolve_right (by simp)
  rw [Machine.turns_of_stage (Machine.stage_of_none htask), houtcomes, rotations_concat_rotated,
    if_neg (by decide), Nat.add_zero, Position.last_after_succ] at hlive
  obtain ⟨g, hg, -⟩ := Option.map_eq_some_iff.mp hlive
  exact ⟨g, hg⟩

/-- **After a rotation that has succeeded all others come to nothing**, as long as nobody else puts
a page into the site or changes one, the directory of the pages stays, and nobody else touches the
executables of the ring. In every state that the ring of an accepted configuration comes to without
a shutdown: if a rotation has succeeded last and no page is younger than the executable of the live
backend, then every later rotation goes on without waiting, ends after three statements, finds
nothing to do and changes nothing but the log, however far retirements have come and whatever they
delete meanwhile. -/
theorem quiescence {config : Config} {tree : Tree} {clock : Files.Time} {s₀ : Machine}
    {earlier : List Move} (hnew : Machine.new config tree clock = .ok s₀)
    (hearlier : s₀.run earlier = some s) (hgoing : .beginStop ∉ earlier) (htask : s.task = none)
    (hrotated : s.outcomes.getLast? = some .rotated) (hfiles : s.UpToDate marker)
    (hspared : ∀ m u v, s.Passes moves m u v → u.Spared m) (hrun : s.run moves = some t) :
    s.Rests moves t := by
  have hcustody := (Machine.Custody.new hnew).run hearlier
  obtain ⟨g, hlive⟩ :=
    (Machine.InTurn.of_run true hnew (fun _ => hgoing) hearlier).2.exists_live htask hrotated
  have hstart : s.Resting marker 0 s := by
    refine ⟨rfl, rfl, rfl, rfl, rfl, rfl, hfiles, ?_, (List.append_nil _).symm, ?_⟩
    · exact fun st hst => absurd (htask.symm.trans hst) (by simp)
    · rw [Machine.carriedOut, htask]
  obtain ⟨hrest, b, hcustody'⟩ := hstart.run hlive hcustody hspared hrun
  refine ⟨Nat.zero_add (moves.countP _) ▸ hrest.outcomes, ?_,
    ⟨hrest.live, hrest.position, hrest.shown, hrest.published⟩, ?_, ?_⟩
  · rintro world u v ⟨first, rest, rfl, hfirst, happly⟩
    have hbefore : ∀ m v w, s.Passes first m v w → v.Spared m := by
      rintro m v w ⟨front, back, rfl, hfront, hm⟩
      exact hspared m v w ⟨front, _, List.append_assoc front _ _, hfront, hm⟩
    obtain ⟨hrest', b', hcustody''⟩ := hstart.run hlive hcustody hbefore hfirst
    have htask' : u.task ≠ none := by
      intro hnone
      rw [Machine.apply, hnone] at happly
      exact absurd happly (by simp)
    obtain ⟨task, outcomes, lines, heq⟩ :=
      hrest'.exists_apply hlive hcustody''.sound htask' world
    exact ⟨task, outcomes, lines, Option.some.inj (happly.symm.trans heq)⟩
  · intro hgoes world
    obtain ⟨task, outcomes, lines, heq⟩ := hrest.exists_apply hlive hcustody'.sound hgoes world
    exact ⟨_, heq⟩
  · exact fun hnone => hrest.again hlive hcustody' hnone

/-- **A rotation that does not find the directory of the pages fails**, and does nothing else. -/
theorem Machine.run_rootless (htask : s.task = none)
    (hrootless : s.tree.isDirectory s.config.webRoot = false) (first second : World) :
    s.run [.begin, .proceed first, .proceed second] = some { s with
      outcomes := s.outcomes ++ [.failed (.config (.noWebRoot s.config.webRoot))]
      clock := s.clock + 3 } := by
  have hscan : Site.scan s.tree s.config.webRoot
      = .error (.config (.noWebRoot s.config.webRoot)) := by
    rw [Site.scan, hrootless]
    rfl
  simp [run, apply, take, next, htask, carryOut, hscan, finish]

namespace Sample

/-- A tree in order, as far as it is listed. -/
def IsOrderly (tree : Tree) : Prop :=
  ∀ p ∈ tree.nodes, ∀ name ∈ p.1.getLast?,
    (tree.get? p.1.dropLast).map Node.isDirectory = some true ∧
      Files.Path.isName name = true ∧ name.utf8ByteSize ≤ Tree.nameLimit

instance (tree : Tree) : Decidable (IsOrderly tree) :=
  inferInstanceAs (Decidable (∀ p ∈ tree.nodes, ∀ name ∈ p.1.getLast?, _))

/-- The page has been written again. The executable of the first slot is still there. -/
def rewritten : Tree where
  nodes := (site 'b' 34).nodes ++
    [(["exe"], .directory 34), (["exe", "backend-0"], .file (Text.Utf8.encode ['x']) 20 false)]

/-- Two rotations with a change of the page between them. -/
def rotations : List Move :=
  rotation ++ [.change rewritten] ++ rotation

/-- A file is put beside the page that is none. -/
def beside (s : Machine) : Tree :=
  s.tree.set ["web", "i.css"] (.file [] 99 false)

/-- The backend that was replaced is retired. -/
def retirement : List Move :=
  List.replicate 5 (.retire 0) ++ [.exit 0 (.killed 9)] ++ List.replicate 8 (.retire 0)

/-- It is retired while a rotation goes on. Another rotation begins. -/
def resting : List Move :=
  [.begin, .proceed Sample.world] ++ retirement ++
    [.proceed Sample.world, .proceed Sample.world, .begin, .proceed Sample.world]

/-- What has to be looked up to know that the files are up to date. -/
def LooksUpToDate (s : Machine) (marker : Node) : Prop :=
  IsOrderly s.tree ∧ s.tree.isDirectory s.config.webRoot = true ∧
    (∀ path ∈ s.slots.map (·.exePath), (s.tree.standing? path).all Node.isFile = true) ∧
    ∀ p ∈ pageFiles s.tree s.config.webRoot, p.modified ≤ marker.modified

/-- What has to be looked up to know that they are left alone. -/
def LooksUnaltered (s : Machine) (tree : Tree) : Prop :=
  IsOrderly tree ∧ tree.isDirectory s.config.webRoot = true ∧
    (∀ p ∈ pageFiles tree s.config.webRoot, p ∈ pageFiles s.tree s.config.webRoot) ∧
      ∀ path ∈ s.slots.map (·.exePath), tree.standing? path = s.tree.standing? path

instance (s : Machine) (marker : Node) : Decidable (LooksUpToDate s marker) :=
  inferInstanceAs (Decidable (IsOrderly _ ∧ _ = true ∧ (∀ path ∈ _, _) ∧ ∀ p ∈ pageFiles _ _, _))

instance (s : Machine) (tree : Tree) : Decidable (LooksUnaltered s tree) :=
  inferInstanceAs (Decidable (IsOrderly _ ∧ _ = true ∧ (∀ p ∈ pageFiles _ _, _) ∧ ∀ path ∈ _, _))

theorem upToDate_of_looks {s : Machine} {marker : Node} (h : LooksUpToDate s marker)
    (hmarked : s.tree.standing? s.builtLast = some marker) : s.UpToDate marker := by
  obtain ⟨horder, hrooted, hfiles, hfresh⟩ := h
  refine ⟨.of_nodes horder, hrooted, fun path hpath target hlink => ?_, hmarked, hfresh⟩
  have hfile := hfiles path hpath
  rw [hlink] at hfile
  exact absurd hfile Bool.false_ne_true

theorem unaltered_of_looks {s : Machine} {tree : Tree} (h : LooksUnaltered s tree) :
    s.Unaltered tree :=
  ⟨.of_nodes h.1, h.2.1, h.2.2.1, h.2.2.2⟩

theorem eq_rotated {outcome : Option Outcome} (h : outcome.any (·.isRotated) = true) :
    outcome = some .rotated := by
  obtain ⟨own, rfl, hown⟩ := (Option.any_eq_true ..).mp h
  cases own with
  | rotated => rfl
  | _ => exact absurd hown Bool.false_ne_true

/-- Two rotations, and what happens after them. -/
theorem exists_rest : ∃ s₀ s t marker, Machine.new config (site 'a' 3) 10 = .ok s₀ ∧
    s₀.run rotations = some s ∧ s.task = none ∧ s.outcomes.getLast? = some .rotated ∧
      s.UpToDate marker ∧ s.Unaltered (beside s) ∧
        s.run (.change (beside s) :: resting) = some t ∧
          s.tree.isFile "/exe/backend-0" = true ∧ t.tree.isFile "/exe/backend-0" = false := by
  obtain ⟨s₀, hs₀, s, hs, t, ht, marker, hmarked, htask, hrotated, hfiles, hsame, hbefore,
      hafter⟩ :
      ∃ s₀ ∈ (Machine.new config (site 'a' 3) 10).toOption, ∃ s ∈ s₀.run rotations,
        ∃ t ∈ s.run (.change (beside s) :: resting),
          ∃ marker ∈ s.tree.standing? s.builtLast, s.task.isNone = true ∧
            s.outcomes.getLast?.any (·.isRotated) = true ∧ LooksUpToDate s marker ∧
            LooksUnaltered s (beside s) ∧
            s.tree.isFile "/exe/backend-0" = true ∧ t.tree.isFile "/exe/backend-0" = false := by
    decide +kernel
  exact ⟨s₀, s, t, marker, Machine.new_of_mem_toOption hs₀, hs,
    Option.isNone_iff_eq_none.mp htask, eq_rotated hrotated, upToDate_of_looks hfiles hmarked,
    unaltered_of_looks hsame, ht, hbefore, hafter⟩

/-- Nobody but the ring touches anything while it rests, once the file is put beside the page. -/
theorem spared_of_passes {s u v : Machine} {m : Move} (hsame : s.Unaltered (beside s))
    (hpasses : s.Passes (.change (beside s) :: resting) m u v) : u.Spared m := by
  obtain ⟨first, rest, heq, hfirst, -⟩ := hpasses
  cases first with
  | nil =>
      obtain rfl := Option.some.inj hfirst
      obtain rfl : Move.change (beside s) = m := (List.cons.inj heq).1
      exact hsame
  | cons _ first =>
      have hmem : m ∈ resting := by
        rw [(List.cons.inj heq).2]
        simp
      simp only [resting, retirement, List.mem_append, List.mem_cons, List.mem_replicate] at hmem
      rcases hmem with ((rfl | rfl | h) | ((⟨-, rfl⟩ | (rfl | h)) | ⟨-, rfl⟩)) |
        (rfl | rfl | rfl | rfl | h) <;>
        trivial

/-- The site is gone. -/
def rootless (s : Machine) : Tree :=
  s.tree.erase ["web"]

/-- A rotation, and the files that are gone after it. -/
theorem exists_rootless : ∃ s₀ s marker, Machine.new config (site 'a' 3) 10 = .ok s₀ ∧
    s₀.run rotation = some s ∧ s.task = none ∧ s.outcomes.getLast? = some .rotated ∧
      s.UpToDate marker ∧ (rootless s).Proper ∧
        pageFiles (rootless s) s.config.webRoot ⊆ pageFiles s.tree s.config.webRoot ∧
          (∀ path ∈ s.slots.map (·.exePath),
            (rootless s).standing? path = s.tree.standing? path) ∧
          (rootless s).isDirectory s.config.webRoot = false := by
  obtain ⟨s₀, hs₀, s, hs, marker, hmarked, htask, hrotated, hfiles, horder, hpages, hexecutables,
      hrootless⟩ :
      ∃ s₀ ∈ (Machine.new config (site 'a' 3) 10).toOption, ∃ s ∈ s₀.run rotation,
        ∃ marker ∈ s.tree.standing? s.builtLast, s.task.isNone = true ∧
          s.outcomes.getLast?.any (·.isRotated) = true ∧ LooksUpToDate s marker ∧
          IsOrderly (rootless s) ∧
          (∀ p ∈ pageFiles (rootless s) s.config.webRoot,
            p ∈ pageFiles s.tree s.config.webRoot) ∧
          (∀ path ∈ s.slots.map (·.exePath),
            (rootless s).standing? path = s.tree.standing? path) ∧
          (rootless s).isDirectory s.config.webRoot = false := by
    decide +kernel
  exact ⟨s₀, s, marker, Machine.new_of_mem_toOption hs₀, hs,
    Option.isNone_iff_eq_none.mp htask, eq_rotated hrotated, upToDate_of_looks hfiles hmarked,
    .of_nodes horder, hpages, hexecutables, hrootless⟩

/-- The page has been written again, and a link stands in the place of the second executable. -/
def linked : Tree where
  nodes := (site 'b' 34).nodes ++
    [(["exe"], .directory 34), (["exe", "backend-1"], .link "backend-0")]

/-- The task waits for the lock of the slot to build anew. -/
def rebuilds : Option Statement → Bool
  | some (.acquire _ stale) => stale
  | _ => false

theorem exists_of_rebuilds {task : Option Statement} (h : rebuilds task = true) :
    ∃ pages, task = some (.acquire pages true) := by
  unfold rebuilds at h
  split at h
  · next pages stale => exact ⟨pages, by rw [h]⟩
  · exact absurd h Bool.false_ne_true

end Sample

/-- A rotation goes on while the backend that was replaced is retired, and its executable is
deleted. -/
theorem quiescence_retiring : ∃ s₀ s t, Machine.new Sample.config (Sample.site 'a' 3) 10 = .ok s₀ ∧
    s₀.run Sample.rotations = some s ∧
      s.run (.change (Sample.beside s) :: Sample.resting) = some t ∧
        s.tree.isFile "/exe/backend-0" = true ∧ t.tree.isFile "/exe/backend-0" = false ∧
          s.Rests (.change (Sample.beside s) :: Sample.resting) t := by
  obtain ⟨s₀, s, t, marker, hnew, hearlier, htask, hrotated, hfiles, hsame, hrun, hbefore,
    hafter⟩ := Sample.exists_rest
  exact ⟨s₀, s, t, hnew, hearlier, hrun, hbefore, hafter,
    quiescence hnew hearlier (by simp [Sample.rotations, Sample.rotation]) htask hrotated hfiles
      (fun _ _ _ => Sample.spared_of_passes hsame) hrun⟩

/-- **Without the directory of the pages a rotation fails**, although no page is new or has a new
time and the executables are untouched. -/
theorem quiescence_rootless : ∃ s₀ s t marker,
    Machine.new Sample.config (Sample.site 'a' 3) 10 = .ok s₀ ∧
      s₀.run Sample.rotation = some s ∧ s.task = none ∧
      s.outcomes.getLast? = some .rotated ∧ s.UpToDate marker ∧
      pageFiles (Sample.rootless s) s.config.webRoot ⊆ pageFiles s.tree s.config.webRoot ∧
      (∀ path ∈ s.slots.map (·.exePath),
        (Sample.rootless s).standing? path = s.tree.standing? path) ∧
      s.run [.change (Sample.rootless s), .begin, .proceed Sample.world, .proceed Sample.world]
        = some t ∧
      t.outcomes = s.outcomes ++ [.failed (.config (.noWebRoot s.config.webRoot))] := by
  obtain ⟨s₀, s, marker, hnew, hearlier, htask, hrotated, hfiles, -, hpages, hexecutables,
    hrootless⟩ := Sample.exists_rootless
  have hfails := Machine.run_rootless
    (s := { s with tree := Sample.rootless s, clock := s.clock + 1 }) htask hrootless
    Sample.world Sample.world
  exact ⟨s₀, s, _, marker, hnew, hearlier, htask, hrotated, hfiles, hpages, hexecutables, hfails,
    rfl⟩

/-- **Through a link two slots have one executable.** It is deleted when the backend of the first
slot is retired, and the rotation that follows builds anew for the one that was published last,
although nobody but the ring has touched anything since. -/
theorem rebuilds_linked : ∃ s₀ s t pages,
    Machine.new Sample.config (Sample.site 'a' 3) 10 = .ok s₀ ∧
      s₀.run (Sample.rotation ++ [.change Sample.linked] ++ Sample.rotation) = some s ∧
      s.task = none ∧ s.outcomes.getLast? = some .rotated ∧
      Site.isStale s.tree s.builtLast
        ((pageFiles s.tree s.config.webRoot).map (·.modified)) = false ∧
      s.run (Sample.retirement ++ [.begin, .proceed Sample.world, .proceed Sample.world]) = some t ∧
      t.task = some (.acquire pages true) := by
  obtain ⟨s₀, hs₀, s, hs, t, ht, htask, hrotated, hfresh, hrebuilds⟩ :
      ∃ s₀ ∈ (Machine.new Sample.config (Sample.site 'a' 3) 10).toOption,
        ∃ s ∈ s₀.run (Sample.rotation ++ [.change Sample.linked] ++ Sample.rotation),
        ∃ t ∈ s.run (Sample.retirement ++
          [.begin, .proceed Sample.world, .proceed Sample.world]),
          s.task.isNone = true ∧ s.outcomes.getLast?.any (·.isRotated) = true ∧
          Site.isStale s.tree s.builtLast
            ((pageFiles s.tree s.config.webRoot).map (·.modified)) = false ∧
          Sample.rebuilds t.task = true := by
    decide +kernel
  obtain ⟨pages, hpages⟩ := Sample.exists_of_rebuilds hrebuilds
  exact ⟨s₀, s, t, pages, Machine.new_of_mem_toOption hs₀, hs, Option.isNone_iff_eq_none.mp htask,
    Sample.eq_rotated hrotated, hfresh, ht, hpages⟩

end LivePages.Ring
