import LivePages.Files.Walk
import LivePages.Proofs.Files.Additions

/-!
# What Is Taken Out of a Tree

A file is deleted, or a directory with everything in it. Whatever is found afterwards was there
before, so a walk comes by nothing new. Whatever was found before a file was deleted is found
afterwards, unless it is the file itself, since no way leads on from a file.

The two directions rest on different facts. The first one holds of everything that may be taken out
of a tree. In the second one a link might be missed that others follow, so it is stated for files.

What has grown inside a directory is gone with it: without the directory the tree has only grown by
the other things.

## Main definitions

* `PartOf`: all that stands in one tree also stands in another one.
* `standing?`: what stands under a path, a link at its end not followed.

## Main results

* `PartOf.file_mem_walk`: a walk through a part of a tree comes by nothing new.
* `Grows.erase`, `EntryAt.removeDirs`: what is left without a directory.
* `LeadsTo.erase`, `goal_erase`: what is still found after a file has been taken out.
* `standing?_removeFile`: deleting a file leaves its neighbours alone.
-/

namespace LivePages.Files.Tree

open LivePages.Files.Path (isName join named)

variable {tree tree' : Tree} {place q gone : Place} {node : Node} {path : String}

/-! ### Taking out a place -/

/-- What does not stand below the place stays. -/
theorem get?_erase_of_not_below (h : ¬ gone <+: q) : (tree.erase gone).get? q = tree.get? q := by
  rw [get?, get?, erase]
  split
  · rfl
  · rw [List.find?_filter]
    congr 2
    funext p
    by_cases hp : p.1 = q
    · have hkept : gone.isPrefixOf q = false := by
        rw [← Bool.not_eq_true, List.isPrefixOf_iff_prefix]
        exact h
      simp [hp, hkept]
    · simp [hp]

/-- Nothing stands below the place any more. -/
theorem get?_erase_of_below (hne : q ≠ []) (h : gone <+: q) : (tree.erase gone).get? q = none := by
  rw [get?, erase, if_neg (by simpa using hne), List.find?_filter, Option.map_eq_none_iff,
    List.find?_eq_none]
  intro p _ hp
  simp only [Bool.not_eq_true', beq_iff_eq, decide_eq_true_eq] at hp
  obtain ⟨hgone, rfl⟩ := hp
  exact absurd (List.isPrefixOf_iff_prefix.mpr h) (by simp [hgone])

/-- What stands there after the place has been taken out stood there before, and not below it. -/
theorem of_get?_erase (h : (tree.erase gone).get? q = some node) :
    tree.get? q = some node ∧ (q = [] ∨ ¬ gone <+: q) := by
  rcases eq_or_ne q [] with rfl | hne
  · exact ⟨h, .inl rfl⟩
  · have hbelow : ¬ gone <+: q := by
      intro hbelow
      exact Option.some_ne_none node (h.symm.trans (get?_erase_of_below hne hbelow))
    exact ⟨get?_erase_of_not_below hbelow ▸ h, .inr hbelow⟩

/-- Whatever is taken out of it, a tree stays in order. -/
theorem Proper.erase (h : tree.Proper) (gone : Place) : (tree.erase gone).Proper where
  directory := by
    intro place name node hnode
    obtain ⟨hnode, hkept⟩ := of_get?_erase hnode
    obtain ⟨m, hdir⟩ := h.directory hnode
    have hbelow : ¬ gone <+: place := by
      intro hbelow
      exact hkept.resolve_left (by simp) (hbelow.trans (List.prefix_append place [name]))
    exact ⟨m, (get?_erase_of_not_below hbelow).trans hdir⟩
  plain := fun hnode => h.plain (of_get?_erase hnode).1
  fits := fun hnode => h.fits (of_get?_erase hnode).1

/-- If nothing stands there nothing is taken out. -/
theorem erase_eq_self (hempty : ∀ way, tree.get? (gone ++ way) = none) :
    tree.erase gone = tree := by
  have hnodes : tree.nodes.filter (fun p => !gone.isPrefixOf p.1) = tree.nodes := by
    refine List.filter_eq_self.mpr fun p hp => ?_
    rw [Bool.not_eq_true', ← Bool.not_eq_true, List.isPrefixOf_iff_prefix]
    rintro ⟨way, hway⟩
    have hnone := hway ▸ hempty way
    rw [get?] at hnone
    split at hnone
    · exact Option.some_ne_none _ hnone
    · exact List.find?_eq_none.mp (Option.map_eq_none_iff.mp hnone) p hp (beq_self_eq_true p.1)
  rw [erase, hnodes]

/-- A tree has grown outside a place if it has grown by what is inside and by other things. -/
theorem Grows.erase {own own' : Place → Node → Prop} (h : Grows own tree tree')
    (hproper : tree'.Proper) (hne : gone ≠ [])
    (hown : ∀ place node, own place node → gone <+: place ∨ own' place node) :
    Grows own' (tree.erase gone) (tree'.erase gone) := by
  have houtside {tree : Tree} {q : Place} {node : Node}
      (h : (tree.erase gone).get? q = some node) : tree.get? q = some node ∧ ¬ gone <+: q := by
    obtain ⟨hnode, rfl | hq⟩ := of_get?_erase h
    · exact ⟨hnode, fun hbelow => hne (List.prefix_nil.mp hbelow)⟩
    · exact ⟨hnode, hq⟩
  refine ⟨h.here, ?_, ?_, fun _ => hproper.erase gone⟩
  · intro q node hnode
    obtain ⟨hnode, hq⟩ := houtside hnode
    rw [get?_erase_of_not_below hq]
    rcases h.kept hnode with hkept | ⟨hfile, node', hnode', hfile', howned⟩
    · exact .inl hkept
    · exact .inr ⟨hfile, node', hnode', hfile', (hown q node' howned).resolve_left hq⟩
  · intro q node hnode
    obtain ⟨hnode, hq⟩ := houtside hnode
    rw [get?_erase_of_not_below hq]
    rcases h.new hnode with hold | hdir | howned
    · exact .inl hold
    · exact .inr (.inl hdir)
    · exact .inr (.inr ((hown q node howned).resolve_left hq))

/-! ### Parts of trees -/

/-- All that stands in one tree also stands in another one. -/
structure PartOf (tree' tree : Tree) : Prop where
  /-- Relative paths start from the same place. -/
  here : tree'.here = tree.here
  /-- What stands there stands there. -/
  get? : ∀ {place node}, tree'.get? place = some node → tree.get? place = some node
  /-- Nothing more is listed. -/
  nodes : tree'.nodes.Sublist tree.nodes

theorem partOf_erase (tree : Tree) (gone : Place) : (tree.erase gone).PartOf tree where
  here := rfl
  get? := fun h => (of_get?_erase h).1
  nodes := List.filter_sublist

/-- A tree has grown from its parts. -/
theorem PartOf.grows (h : tree'.PartOf tree) (hproper : tree.Proper) :
    Grows (fun _ _ => True) tree' tree where
  here := h.here.symm
  kept := fun hnode => .inl (h.get? hnode)
  new := fun _ => .inr (.inr trivial)
  proper := fun _ => hproper

/-- What is found in a part of a tree is found in the tree. -/
theorem PartOf.goal (h : tree'.PartOf tree) (hproper : tree.Proper) {last : Bool}
    (hgoal : tree'.goal last path = .ok (.found place)) :
    tree.goal last path = .ok (.found place) :=
  goal_of_grows (h.grows hproper) hgoal

theorem place_eq_ok_iff : tree.place path = .ok place ↔
    tree.goal true path = .ok (.found place) := by
  constructor
  · intro h
    obtain ⟨goal, hgoal, h⟩ := bind_eq_ok_iff.mp h
    cases goal with
    | found q => rwa [← Except.ok.inj h]
    | missing q => exact absurd h (by simp)
  · exact place_eq_of_goal

theorem stat_eq_ok_iff : tree.stat path = .ok node ↔
    ∃ place, tree.place path = .ok place ∧ tree.get? place = some node := by
  constructor
  · intro h
    obtain ⟨place, hplace, h⟩ := bind_eq_ok_iff.mp h
    split at h
    · next found hfound => exact ⟨place, hplace, hfound.trans (congrArg _ (Except.ok.inj h))⟩
    · exact absurd h (by simp)
  · rintro ⟨place, hplace, hnode⟩
    simp only [stat, hplace, hnode, bind, Except.bind]

theorem linkGoal_eq_ok_iff : tree.linkGoal place = .ok q ↔
    LeadsTo tree true linkLimit place.dropLast place.getLast?.toList (.found q) := by
  rw [← follow_eq_ok_iff]
  constructor
  · intro h
    obtain ⟨goal, hgoal, h⟩ := bind_eq_ok_iff.mp h
    cases goal with
    | found p => rwa [← Except.ok.inj h]
    | missing p => exact absurd h (by simp)
  · intro h
    rw [linkGoal, h]
    rfl

/-- Nothing more stands in a directory. -/
theorem PartOf.names_subset (h : tree'.PartOf tree) (place : Place) :
    tree'.names place ⊆ tree.names place :=
  (h.nodes.filterMap _).subset

/-- **A walk through a part of a tree comes by no other files**, nor by other versions of them. -/
theorem PartOf.file_mem_walkFrom (h : tree'.PartOf tree) (hproper : tree.Proper) {m : Time}
    {fuel fuel' : ℕ} (hle : fuel ≤ fuel') {way : List (Place × String)} {start : String}
    (hvisit : .file path m ∈ tree'.walkFrom fuel way place start) :
    .file path m ∈ tree.walkFrom fuel' way place start := by
  induction fuel generalizing fuel' way place start with
  | zero => exact absurd hvisit List.not_mem_nil
  | succ fuel ih =>
      obtain ⟨fuel', rfl⟩ := Nat.exists_eq_add_of_le' (Nat.one_le_of_lt hle)
      have hle' : fuel ≤ fuel' := Nat.le_of_succ_le_succ hle
      rw [walkFrom] at hvisit ⊢
      obtain ⟨name, hname, hvisit⟩ := List.mem_flatMap.mp hvisit
      have hname' : name ∈ (tree.names place).reverse :=
        List.mem_reverse.mpr (h.names_subset place (List.mem_reverse.mp hname))
      refine List.mem_flatMap.mpr ⟨name, hname', ?_⟩
      dsimp only at hvisit ⊢
      cases hnode : tree'.get? (place ++ [name]) with
      | none =>
          rw [hnode] at hvisit
          exact absurd hvisit List.not_mem_nil
      | some node =>
          rw [hnode] at hvisit
          rw [h.get? hnode]
          cases node with
          | file content modified runnable => exact hvisit
          | directory modified => exact ih hle' hvisit
          | link target =>
              dsimp only at hvisit ⊢
              cases hlink : tree'.linkGoal (place ++ [name]) with
              | error e =>
                  rw [hlink] at hvisit
                  exact absurd hvisit (by simp)
              | ok goal =>
                  have hlink' : tree.linkGoal (place ++ [name]) = .ok goal :=
                    linkGoal_eq_ok_iff.mpr
                      ((linkGoal_eq_ok_iff.mp hlink).of_grows (h.grows hproper))
                  rw [hlink] at hvisit
                  rw [hlink']
                  dsimp only at hvisit ⊢
                  cases hgoal : tree'.get? goal with
                  | none =>
                      rw [hgoal] at hvisit
                      exact absurd hvisit List.not_mem_nil
                  | some found =>
                      rw [hgoal] at hvisit
                      rw [h.get? hgoal]
                      cases found with
                      | file | link => exact hvisit
                      | directory =>
                          -- the directories on the way are the same, so a loop stays a loop
                          dsimp only at hvisit ⊢
                          split at hvisit
                          · exact absurd hvisit (by simp)
                          · exact ih hle' hvisit

theorem PartOf.file_mem_walk (h : tree'.PartOf tree) (hproper : tree.Proper) {m : Time}
    {root : String} (hvisit : .file path m ∈ tree'.walk root) : .file path m ∈ tree.walk root := by
  rw [walk] at hvisit
  split at hvisit
  · next place hplace =>
    have hplace' : tree.place root = .ok place :=
      place_eq_ok_iff.mpr (h.goal hproper (place_eq_ok_iff.mp hplace))
    rw [walk, hplace']
    exact h.file_mem_walkFrom hproper (Nat.add_le_add_right h.nodes.length_le 2) hvisit
  · exact absurd hvisit List.not_mem_nil

/-! ### Taking out a file -/

section

variable (hproper : tree.Proper) (hgone : tree.get? gone = some node) (hfile : node.isFile = true)
include hproper hgone hfile

/-- Nothing stands below a file, so all but the file stays. -/
theorem get?_erase_of_ne {other : Node} (hother : tree.get? q = some other) (hne : q ≠ gone) :
    (tree.erase gone).get? q = some other := by
  rw [get?_erase_of_not_below, hother]
  rintro ⟨way, rfl⟩
  have hway : way ≠ [] := by
    rintro rfl
    exact hne (List.append_nil gone)
  obtain ⟨m, hdir⟩ := hproper.directory_of_append hway hother
  obtain rfl := Option.some.inj (hgone.symm.trans hdir)
  exact absurd hfile Bool.false_ne_true

/-- **What was found is found without the file**, unless it is the file. -/
theorem LeadsTo.erase {last : Bool} {links : ℕ} {segments : List String}
    (h : LeadsTo tree last links place segments (.found q)) (hq : q ≠ gone) :
    LeadsTo (tree.erase gone) last links place segments (.found q) := by
  have hdirectory {place : Place} {m : Time} (hdir : tree.get? place = some (.directory m)) :
      (tree.erase gone).get? place = some (.directory m) := by
    refine get?_erase_of_ne hproper hgone hfile hdir ?_
    rintro rfl
    obtain rfl := Option.some.inj (hgone.symm.trans hdir)
    exact absurd hfile Bool.false_ne_true
  have hlinks {place : Place} {target : String} (hlink : tree.get? place = some (.link target)) :
      (tree.erase gone).get? place = some (.link target) := by
    refine get?_erase_of_ne hproper hgone hfile hlink ?_
    rintro rfl
    obtain rfl := Option.some.inj (hgone.symm.trans hlink)
    exact absurd hfile Bool.false_ne_true
  generalize hfound : Goal.found q = goal at h
  induction h with
  | done => exact .done
  | stay hdir _ ih => exact .stay (hdirectory hdir) (ih hfound)
  | up hdir _ ih => exact .up (hdirectory hdir) (ih hfound)
  | missing => exact absurd hfound (by simp)
  | stop hlast hdir hs hlink => exact .stop hlast (hdirectory hdir) hs (hlinks hlink)
  | hop hlast hdir hs hlink _ ih => exact .hop hlast (hdirectory hdir) hs (hlinks hlink) (ih hfound)
  | @enter links place m s other rest goal hdir hs hnode hlink hrest ih =>
      refine .enter (hdirectory hdir) hs ?_ hlink (ih hfound)
      refine get?_erase_of_ne hproper hgone hfile hnode ?_
      -- from the file no way leads on, and it is not what was found
      rintro rfl
      cases rest with
      | nil =>
          cases hrest
          exact hq (Goal.found.inj hfound)
      | cons r rest =>
          obtain ⟨m, hdir⟩ := hrest.exists_directory
          obtain rfl := Option.some.inj (hgone.symm.trans hdir)
          exact absurd hfile Bool.false_ne_true

theorem goal_erase {last : Bool} (h : tree.goal last path = .ok (.found q)) (hq : q ≠ gone) :
    (tree.erase gone).goal last path = .ok (.found q) := by
  obtain ⟨hlegal, hwalk⟩ := goal_eq_ok_iff.mp h
  exact goal_eq_ok_iff.mpr ⟨hlegal, hwalk.erase hproper hgone hfile hq⟩

/-- A directory is still one. -/
theorem isDirectory_erase (h : tree.isDirectory path = true) :
    (tree.erase gone).isDirectory path = true := by
  rw [isDirectory] at h
  split at h
  · next found hstat =>
    obtain ⟨q, hplace, hstat⟩ := bind_eq_ok_iff.mp hstat
    split at hstat
    · next other hother =>
      obtain rfl := Except.ok.inj hstat
      have hne : q ≠ gone := by
        rintro rfl
        obtain rfl := Option.some.inj (hgone.symm.trans hother)
        cases node <;> simp_all [Node.isFile, Node.isDirectory]
      have hplace' : (tree.erase gone).place path = .ok q :=
        place_eq_ok_iff.mpr (goal_erase hproper hgone hfile (place_eq_ok_iff.mp hplace) hne)
      simp only [isDirectory, stat, hplace', bind, Except.bind,
        get?_erase_of_ne hproper hgone hfile hother hne, h]
    · exact absurd hstat (by simp)
  · exact absurd h Bool.false_ne_true

end

/-! ### Taking out a directory -/

/-- **Removing a direct child** takes out its place, if anything stands there. -/
theorem EntryAt.removeDirs (h : tree.EntryAt path place) (hproper : tree.Proper) :
    (tree.removeDirs path).toOption.getD tree = tree.erase place := by
  cases hnode : tree.get? place with
  | none =>
      rw [erase_eq_self (hproper.get?_append_eq_none hnode), Tree.removeDirs,
        h.goal_of_none hnode]
      rfl
  | some node =>
      rw [Tree.removeDirs, h.goal_of_some hnode]
      rfl

/-! ### What stands under a path -/

/-- What stands under a path, a link at its end not followed. -/
def standing? (tree : Tree) (path : String) : Option Node :=
  match tree.goal false path with
  | .ok (.found place) => tree.get? place
  | _ => none

theorem standing?_eq_some_iff : tree.standing? path = some node ↔
    ∃ place, tree.goal false path = .ok (.found place) ∧ tree.get? place = some node := by
  rw [standing?]
  split
  · next place hgoal =>
    refine ⟨fun h => ⟨place, hgoal, h⟩, ?_⟩
    rintro ⟨q, hq, hnode⟩
    rwa [← Goal.found.inj (Except.ok.inj (hq.symm.trans hgoal))]
  · next hgoal =>
    refine ⟨fun h => absurd h (by simp), ?_⟩
    rintro ⟨place, hplace, -⟩
    exact absurd hplace (hgoal place)

/-- A link at the end makes no difference where there is none. -/
theorem LeadsTo.followed {links : ℕ} {segments : List String}
    (h : LeadsTo tree false links place segments (.found q))
    (hlink : ∀ target, tree.get? q ≠ some (.link target)) :
    LeadsTo tree true links place segments (.found q) := by
  generalize hfound : Goal.found q = goal at h
  induction h with
  | done => exact .done
  | stay hdir _ ih => exact .stay hdir (ih hfound)
  | up hdir _ ih => exact .up hdir (ih hfound)
  | missing => exact absurd hfound (by simp)
  | stop _ _ _ hstop =>
      obtain rfl := Goal.found.inj hfound
      exact absurd hstop (hlink _)
  | hop _ hdir hs hhop _ ih => exact .hop (.inr rfl) hdir hs hhop (ih hfound)
  | enter hdir hs hnode hnolink _ ih => exact .enter hdir hs hnode hnolink (ih hfound)

/-- What stands under a path is what it leads to, unless it is a link. -/
theorem stat_of_standing? (h : tree.standing? path = some node)
    (hlink : ∀ target, node ≠ .link target) : tree.stat path = .ok node := by
  obtain ⟨place, hgoal, hnode⟩ := standing?_eq_some_iff.mp h
  obtain ⟨hlegal, hwalk⟩ := goal_eq_ok_iff.mp hgoal
  have hfollowed : tree.goal true path = .ok (.found place) :=
    goal_eq_ok_iff.mpr ⟨hlegal, hwalk.followed (by simpa [hnode] using hlink)⟩
  simp only [stat, place_eq_of_goal hfollowed, hnode, bind, Except.bind]

/-- What stands in a part of a tree stands in the tree. -/
theorem PartOf.standing? (h : tree'.PartOf tree) (hproper : tree.Proper)
    (hnode : tree'.standing? path = some node) : tree.standing? path = some node := by
  obtain ⟨place, hgoal, hnode⟩ := standing?_eq_some_iff.mp hnode
  exact standing?_eq_some_iff.mpr ⟨place, h.goal hproper hgoal, h.get? hnode⟩

/-! ### Deleting a file -/

/-- What stands under the path is taken out, unless it is a directory. -/
theorem exists_of_removeFile (h : tree.removeFile path = .ok tree') :
    ∃ gone, tree.goal false path = .ok (.found gone) ∧ tree' = tree.erase gone ∧
      ∀ m, tree.get? gone ≠ some (.directory m) := by
  obtain ⟨goal, hgoal, h⟩ := bind_eq_ok_iff.mp h
  cases goal with
  | missing place => exact absurd h (by simp)
  | found gone =>
      dsimp only at h
      split at h
      · exact absurd h (by simp)
      · next hdir =>
        exact ⟨gone, hgoal, (Except.ok.inj h).symm, hdir⟩

/-- What stands under the path of a direct child stands in the directory, under its name. -/
theorem exists_opens_of_unfollowed {base name : String}
    (h : tree.goal false (join base name) = .ok (.found q)) (hname : isName name = true) :
    ∃ parent node, tree.Opens base parent ∧ q = parent ++ [name] ∧ tree.get? q = some node := by
  have hwalk := (goal_eq_ok_iff.mp h).2
  rw [start_join tree base hname, steps_join base hname] at hwalk
  obtain ⟨parent, n, hopens, hrest⟩ := hwalk.exists_split (List.cons_ne_nil name [])
  cases hrest with
  | stay | up => exact absurd hname (by decide)
  | stop _ _ _ hlink => exact ⟨parent, _, hopens, rfl, hlink⟩
  | hop hlast => exact absurd hlast (by simp)
  | enter _ _ hnode _ hrest =>
      cases hrest
      exact ⟨parent, _, hopens, rfl, hnode⟩

section

variable {base other : String} (hother : isName other = true)
  (hlink : ∀ target, tree.standing? (join base other) ≠ some (.link target))
  (hremove : tree.removeFile (join base other) = .ok tree')
include hother hlink hremove

/-- If no link stands under the path of a direct child, what is deleted there is a file. -/
theorem exists_file_of_removeFile : ∃ parent node, tree.Opens base parent ∧
    tree.get? (parent ++ [other]) = some node ∧ node.isFile = true ∧
      tree' = tree.erase (parent ++ [other]) := by
  obtain ⟨gone, hgoal, rfl, hdir⟩ := exists_of_removeFile hremove
  obtain ⟨parent, node, hopens, rfl, hnode⟩ := exists_opens_of_unfollowed hgoal hother
  refine ⟨parent, node, hopens, hnode, ?_, rfl⟩
  cases node with
  | file => rfl
  | directory m => exact absurd hnode (hdir m)
  | link target => exact absurd (standing?_eq_some_iff.mpr ⟨_, hgoal, hnode⟩) (hlink target)

/-- **Deleting a file leaves its neighbours alone.** -/
theorem standing?_removeFile {name : String} (hproper : tree.Proper) (hname : isName name = true)
    (hne : name ≠ other) (hnode : tree.standing? (join base name) = some node) :
    tree'.standing? (join base name) = some node := by
  obtain ⟨parent, old, hopens, hold, hfile, rfl⟩ := exists_file_of_removeFile hother hlink hremove
  obtain ⟨place, hgoal, hnode⟩ := standing?_eq_some_iff.mp hnode
  obtain ⟨parent', -, hopens', rfl, -⟩ := exists_opens_of_unfollowed hgoal hname
  obtain rfl := hopens.unique hopens'
  have hplace : parent ++ [name] ≠ parent ++ [other] := by simpa using hne
  exact standing?_eq_some_iff.mpr ⟨_, goal_erase hproper hold hfile hgoal hplace,
    get?_erase_of_ne hproper hold hfile hnode hplace⟩

end

end LivePages.Files.Tree
