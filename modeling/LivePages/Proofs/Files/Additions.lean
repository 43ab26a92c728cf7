import Mathlib.Data.List.Induction
import LivePages.Proofs.Files.Following
import LivePages.Proofs.Site.ScannedPaths

/-!
# What Is Added to a Tree

Files are written and copied, links and directories are made. None of this takes anything away: a
tree grows, and of what stood there only files change. So a path that has led somewhere still leads
there.

## Main definitions

* `Proper`: everything stands in a directory, under a name.
* `Grows`: a tree with more in it, and which things were put where.
* `Puts`: something is put where a path leads.

## Main results

* `LeadsTo.of_grows`: a path still leads where it did.
* `exists_puts_of_write`, `exists_puts_of_copy`, `exists_puts_of_makeLink`, `grows_makeDirs`: what
  the operations do.
* `opens_of_makeDir`: where a directory is made.
* `Proper.leadsTo_self`, `steps_pathOf`: a path to a place, without links.
-/

namespace LivePages.Files.Tree

open LivePages.Files.Path (isName join named)

variable {tree tree' tree'' : Tree} {place q : Place} {node : Node}

/-! ### Putting a node at a place -/

/-- Nodes that are replaced are found where they were. -/
theorem find?_replaced (nodes : List (Place × Node)) (place : Place) (node : Node) (q : Place) :
    (nodes.map fun p => if p.1 == place then (place, node) else p).find? (fun p => p.1 == q) =
      (nodes.find? fun p => p.1 == q).map fun p => if p.1 == place then (place, node) else p := by
  have hplaces : (fun p : Place × Node => p.1 == q) ∘
      (fun p => if p.1 == place then (place, node) else p) = fun p => p.1 == q := by
    funext p
    rw [Function.comp_apply]
    split
    next hp => rw [beq_iff_eq.mp hp]
    · rfl
  rw [List.find?_map, hplaces]

/-- What is put at a place stands there. -/
theorem get?_set_self (h : place ≠ []) : (tree.set place node).get? place = some node := by
  rw [get?, if_neg (by simpa using h), set]
  dsimp only
  split
  next hany =>
    have hsome : (tree.nodes.find? fun p => p.1 == place).isSome = true :=
      List.find?_isSome.mpr (List.any_eq_true.mp hany)
    obtain ⟨found, hfound⟩ := Option.isSome_iff_exists.mp hsome
    have hplace : found.1 = place := by simpa using List.find?_some hfound
    rw [find?_replaced, hfound, Option.map_some, Option.map_some,
      if_pos (beq_iff_eq.mpr hplace)]
  next hany =>
    have hnone : tree.nodes.find? (fun p => p.1 == place) = none :=
      List.find?_eq_none.mpr fun p hp heq => hany (List.any_eq_true.mpr ⟨p, hp, heq⟩)
    simp [List.find?_append, hnone]

/-- Nothing else changes. -/
theorem get?_set_of_ne (h : q ≠ place) : (tree.set place node).get? q = tree.get? q := by
  rw [get?, get?, set]
  dsimp only
  split
  · rfl
  split
  · rw [find?_replaced, Option.map_map]
    cases hfind : tree.nodes.find? fun p => p.1 == q with
    | none => rfl
    | some p =>
        have hq : p.1 = q := by simpa using List.find?_some hfind
        have hp : p.1 ≠ place := hq ▸ h
        simp [hp]
  · simp [List.find?_append, beq_eq_false_iff_ne.mpr (Ne.symm h)]

/-- The root is a directory. -/
@[simp] theorem get?_nil (tree : Tree) : tree.get? [] = some (.directory 0) :=
  rfl

/-! ### Trees that grow -/

/-- Everything stands in a directory, under a plain name that is not too long. -/
structure Proper (tree : Tree) : Prop where
  /-- What something stands in is a directory. -/
  directory : ∀ {place name node}, tree.get? (place ++ [name]) = some node →
    ∃ m, tree.get? place = some (.directory m)
  /-- It stands under a plain name. -/
  plain : ∀ {place name node}, tree.get? (place ++ [name]) = some node → isName name = true
  /-- The name is not too long. -/
  fits : ∀ {place : Place} {name node}, tree.get? (place ++ [name]) = some node →
    ¬ name.utf8ByteSize > nameLimit

/-- A tree is in order if its nodes are. -/
theorem Proper.of_nodes (h : ∀ p ∈ tree.nodes, ∀ name ∈ p.1.getLast?,
    (tree.get? p.1.dropLast).map Node.isDirectory = some true ∧ isName name = true ∧
      name.utf8ByteSize ≤ nameLimit) : tree.Proper := by
  have hnode {place : Place} {name : String} {node : Node}
      (hget : tree.get? (place ++ [name]) = some node) :
      (tree.get? place).map Node.isDirectory = some true ∧ isName name = true ∧
        name.utf8ByteSize ≤ nameLimit := by
    simpa using h _ (mem_nodes_of_get? hget (by simp)) name (by simp)
  refine ⟨fun hget => ?_, fun hget => (hnode hget).2.1,
    fun hget => Nat.not_lt.mpr (hnode hget).2.2⟩
  obtain ⟨node, hdir, hisdir⟩ := Option.map_eq_some_iff.mp (hnode hget).1
  cases node with
  | directory m => exact ⟨m, hdir⟩
  | file | link => exact absurd hisdir Bool.false_ne_true

/-- Something may be put at a place: its directory is there, and its name is free. -/
def Vacant (tree : Tree) (place : Place) : Prop :=
  ∃ parent name m, place = parent ++ [name] ∧ tree.get? parent = some (.directory m) ∧
    isName name = true ∧ ¬ name.utf8ByteSize > nameLimit ∧ tree.get? place = none

/-- What something stands below is a directory. -/
theorem Proper.directory_of_append (h : tree.Proper) {way : Place} (hway : way ≠ [])
    (hnode : tree.get? (place ++ way) = some node) :
    ∃ m, tree.get? place = some (.directory m) := by
  induction way using List.reverseRecOn generalizing node with
  | nil => exact absurd rfl hway
  | append_singleton way name ih =>
      rw [← List.append_assoc] at hnode
      obtain ⟨m, hdir⟩ := h.directory hnode
      rcases way with _ | ⟨s, way⟩
      · exact ⟨m, by rwa [List.append_nil] at hdir⟩
      · exact ih (List.cons_ne_nil s way) hdir

/-- Nothing stands below a place where nothing stands. -/
theorem Proper.get?_append_eq_none (h : tree.Proper) (hnone : tree.get? place = none)
    (way : Place) : tree.get? (place ++ way) = none := by
  rcases eq_or_ne way [] with rfl | hway
  · rw [List.append_nil, hnone]
  · by_contra hsome
    obtain ⟨node, hnode⟩ := Option.ne_none_iff_exists'.mp hsome
    obtain ⟨m, hdir⟩ := h.directory_of_append hway hnode
    exact absurd (hdir.symm.trans hnone) (Option.some_ne_none _)

/-- A tree has grown. What stood there stands there, but for files in place of files; whatever else
stands there now is a directory or one of the things put there. -/
structure Grows (own : Place → Node → Prop) (tree tree' : Tree) : Prop where
  /-- Relative paths start from the same place. -/
  here : tree'.here = tree.here
  /-- What stood there stands there, or a file does in place of a file. -/
  kept : ∀ {place node}, tree.get? place = some node → tree'.get? place = some node ∨
    node.isFile = true ∧ ∃ node', tree'.get? place = some node' ∧ node'.isFile = true ∧
      own place node'
  /-- What stands there is not new, or a directory, or put there. -/
  new : ∀ {place node}, tree'.get? place = some node → tree.get? place = some node ∨
    node.isDirectory = true ∨ own place node
  /-- It has grown by the rules. -/
  proper : tree.Proper → tree'.Proper

variable {own own' : Place → Node → Prop}

theorem Grows.refl (own : Place → Node → Prop) (tree : Tree) : Grows own tree tree where
  here := rfl
  kept := .inl
  new := .inl
  proper := id

theorem Grows.trans (h : Grows own tree tree') (h' : Grows own tree' tree'') :
    Grows own tree tree'' where
  here := h'.here.trans h.here
  kept := by
    intro place node hnode
    rcases h.kept hnode with hnode' | ⟨hfile, node', hnode', hfile', hown⟩
    · exact h'.kept hnode'
    · refine .inr ⟨hfile, ?_⟩
      rcases h'.kept hnode' with hnode'' | ⟨-, hnode''⟩
      · exact ⟨node', hnode'', hfile', hown⟩
      · exact hnode''
  new := by
    intro place node hnode
    rcases h'.new hnode with hnode' | hput
    · exact h.new hnode'
    · exact .inr hput
  proper := h'.proper ∘ h.proper

theorem Grows.mono (h : Grows own tree tree') (hown : ∀ place node, own place node →
    own' place node) : Grows own' tree tree' where
  here := h.here
  kept := by
    intro place node hnode
    rcases h.kept hnode with hnode' | ⟨hfile, node', hnode', hfile', howned⟩
    · exact .inl hnode'
    · exact .inr ⟨hfile, node', hnode', hfile', hown place node' howned⟩
  new := by
    intro place node hnode
    rcases h.new hnode with hnode' | hdir | howned
    · exact .inl hnode'
    · exact .inr (.inl hdir)
    · exact .inr (.inr (hown place node howned))
  proper := h.proper

/-- What is no file stays. -/
theorem Grows.get?_of_not_isFile (h : Grows own tree tree') (hnode : tree.get? place = some node)
    (hfile : node.isFile = false) : tree'.get? place = some node := by
  rcases h.kept hnode with hnode' | ⟨hfile', -⟩
  · exact hnode'
  · exact absurd (hfile.symm.trans hfile') Bool.false_ne_true

/-- What stands where nothing is put stays. -/
theorem Grows.get?_of_not_own (h : Grows own tree tree') (hnode : tree.get? place = some node)
    (hown : ∀ node', ¬ own place node') : tree'.get? place = some node := by
  rcases h.kept hnode with hnode' | ⟨-, node', -, -, howned⟩
  · exact hnode'
  · exact absurd howned (hown node')

/-- What is not followed stays so. -/
theorem Grows.exists_of_not_link (h : Grows own tree tree') (hnode : tree.get? place = some node)
    (hlink : ∀ target, node ≠ .link target) :
    ∃ node', tree'.get? place = some node' ∧ ∀ target, node' ≠ .link target := by
  rcases h.kept hnode with hnode' | ⟨-, node', hnode', hfile, -⟩
  · exact ⟨node, hnode', hlink⟩
  · refine ⟨node', hnode', ?_⟩
    rintro target rfl
    exact absurd hfile Bool.false_ne_true

/-- **A path still leads where it did.** -/
theorem LeadsTo.of_grows {last : Bool} {links : ℕ} {segments : List String}
    (hgrows : Grows own tree tree')
    (h : LeadsTo tree last links place segments (.found q)) :
    LeadsTo tree' last links place segments (.found q) := by
  have hdirectory {place : Place} {m : Time} (hdir : tree.get? place = some (.directory m)) :
      tree'.get? place = some (.directory m) :=
    hgrows.get?_of_not_isFile hdir rfl
  have hlinks {place : Place} {target : String} (hlink : tree.get? place = some (.link target)) :
      tree'.get? place = some (.link target) :=
    hgrows.get?_of_not_isFile hlink rfl
  generalize hfound : Goal.found q = goal at h
  induction h with
  | done => exact .done
  | stay hdir _ ih => exact .stay (hdirectory hdir) (ih hfound)
  | up hdir _ ih => exact .up (hdirectory hdir) (ih hfound)
  | missing => exact absurd hfound (by simp)
  | stop hlast hdir hs hlink => exact .stop hlast (hdirectory hdir) hs (hlinks hlink)
  | hop hlast hdir hs hlink _ ih => exact .hop hlast (hdirectory hdir) hs (hlinks hlink) (ih hfound)
  | enter hdir hs hnode hlink _ ih =>
      obtain ⟨node', hnode', hlink'⟩ := hgrows.exists_of_not_link hnode hlink
      exact .enter (hdirectory hdir) hs hnode' hlink' (ih hfound)

theorem Opens.of_grows {path : String} (hgrows : Grows own tree tree')
    (h : tree.Opens path place) : tree'.Opens path place := by
  have hstart : tree'.start path = tree.start path := by rw [start, start, hgrows.here]
  rw [Opens, hstart]
  exact LeadsTo.of_grows hgrows h

/-- What a path leads to is found again. -/
theorem goal_of_grows {last : Bool} {path : String} (hgrows : Grows own tree tree')
    (h : tree.goal last path = .ok (.found place)) : tree'.goal last path = .ok (.found place) := by
  have hstart : tree'.start path = tree.start path := by rw [start, start, hgrows.here]
  obtain ⟨hlegal, hwalk⟩ := goal_eq_ok_iff.mp h
  exact goal_eq_ok_iff.mpr ⟨hlegal, hstart ▸ hwalk.of_grows hgrows⟩

/-- What a path led to, or would have led to, is found when something stands there that is not
followed. -/
theorem LeadsTo.found_of_grows {links : ℕ} {segments : List String} {goal : Goal}
    (hgrows : Grows own tree tree') (hnode : tree'.get? goal.place = some node)
    (hlink : ∀ target, node ≠ .link target)
    (h : LeadsTo tree true links place segments goal) :
    LeadsTo tree' true links place segments (.found goal.place) := by
  have hdirectory {place : Place} {m : Time} (hdir : tree.get? place = some (.directory m)) :
      tree'.get? place = some (.directory m) :=
    hgrows.get?_of_not_isFile hdir rfl
  induction h with
  | done => exact .done
  | stay hdir _ ih => exact .stay (hdirectory hdir) (ih hnode)
  | up hdir _ ih => exact .up (hdirectory hdir) (ih hnode)
  | missing hdir hs => exact .enter (hdirectory hdir) hs hnode hlink .done
  | stop hlast => exact absurd hlast (by simp)
  | hop hlast hdir hs htarget _ ih =>
      exact .hop hlast (hdirectory hdir) hs (hgrows.get?_of_not_isFile htarget rfl) (ih hnode)
  | enter hdir hs hentered hfollowed _ ih =>
      obtain ⟨node', hnode', hlink'⟩ := hgrows.exists_of_not_link hentered hfollowed
      exact .enter (hdirectory hdir) hs hnode' hlink' (ih hnode)

/-! ### Putting something where a path leads -/

/-- What is missing may be put there. -/
theorem LeadsTo.vacant {last : Bool} {links : ℕ} {segments : List String}
    (h : LeadsTo tree last links place segments (.missing q))
    (hsegments : ∀ s ∈ segments, '/' ∉ s.toList ∧ s ≠ "") : tree.Vacant q := by
  generalize hmissing : Goal.missing q = goal at h
  induction h with
  | done | stop => exact absurd hmissing (by simp)
  | stay _ _ ih | up _ _ ih | enter _ _ _ _ _ ih =>
      exact ih (fun s hs => hsegments s (List.mem_cons_of_mem _ hs)) hmissing
  | @missing _ place m s hdir hs hnone =>
      obtain rfl := Goal.missing.inj hmissing
      exact ⟨place, s, m, rfl, hdir, hs.isName (hsegments s List.mem_cons_self), hs.fits, hnone⟩
  | hop _ _ _ _ _ ih =>
      refine ih (fun s hs => ?_) hmissing
      rcases List.mem_append.mp hs with hs | hs
      · exact slash_notMem_of_mem_steps hs
      · exact hsegments s (List.mem_cons_of_mem _ hs)

/-- A node may be put at a place: nothing stands there, or a file that it is to replace. -/
def Free (tree : Tree) (place : Place) (node : Node) : Prop :=
  tree.Vacant place ∨
    node.isFile = true ∧ ∃ old, tree.get? place = some old ∧ old.isFile = true

theorem Free.ne_nil (h : tree.Free place node) : place ≠ [] := by
  rintro rfl
  rcases h with ⟨parent, name, m, hplace, -⟩ | ⟨-, old, hold, hfile⟩
  · exact absurd hplace.symm (by simp)
  · obtain rfl := Option.some.inj hold
    exact absurd hfile Bool.false_ne_true

/-- No directory is replaced. -/
theorem Free.get?_ne (h : tree.Free place node) (m : Time) :
    tree.get? place ≠ some (.directory m) := by
  rcases h with ⟨-, -, -, -, -, -, -, hnone⟩ | ⟨-, old, hold, hfile⟩
  · rw [hnone]
    exact Option.some_ne_none _ |>.symm
  · rintro hdir
    obtain rfl := Option.some.inj (hold.symm.trans hdir)
    exact absurd hfile Bool.false_ne_true

/-- A node is put in order. -/
theorem Proper.set (h : tree.Proper) (hfree : tree.Free place node) :
    (tree.set place node).Proper := by
  -- wherever something stands now, something of that name was there or may be put there
  have hold {parent : Place} {name : String} {other : Node}
      (hother : (tree.set place node).get? (parent ++ [name]) = some other) :
      (∃ m, tree.get? parent = some (.directory m)) ∧ isName name = true ∧
        ¬ name.utf8ByteSize > nameLimit := by
    by_cases heq : parent ++ [name] = place
    · subst heq
      rcases hfree with ⟨parent', name', m, hplace, hdir, hname, hfits, -⟩ | ⟨-, old, hold, -⟩
      · obtain ⟨rfl, hsame⟩ := List.append_inj' hplace rfl
        obtain rfl := List.singleton_injective hsame
        exact ⟨⟨m, hdir⟩, hname, hfits⟩
      · exact ⟨h.directory hold, h.plain hold, h.fits hold⟩
    · rw [get?_set_of_ne heq] at hother
      exact ⟨h.directory hother, h.plain hother, h.fits hother⟩
  refine ⟨fun hother => ?_, fun hother => (hold hother).2.1, fun hother => (hold hother).2.2⟩
  obtain ⟨m, hdir⟩ := (hold hother).1
  refine ⟨m, ?_⟩
  rw [get?_set_of_ne, hdir]
  rintro rfl
  exact hfree.get?_ne m hdir

/-- Putting a node at a place makes the tree grow. -/
theorem Grows.set (hfree : tree.Free place node) (hown : node.isDirectory = true ∨ own place node) :
    Grows own tree (tree.set place node) where
  here := rfl
  kept := by
    intro p old hold
    by_cases hp : p = place
    · subst hp
      rcases hfree with ⟨-, -, -, -, -, -, -, hnone⟩ | ⟨hfile, old', hold', hfile'⟩
      · exact absurd (hold.symm.trans hnone) (by simp)
      · obtain rfl := Option.some.inj (hold.symm.trans hold')
        refine .inr ⟨hfile', node, get?_set_self (Free.ne_nil (.inr ⟨hfile, old, hold, hfile'⟩)),
          hfile, hown.resolve_left ?_⟩
        intro hdir
        cases node <;> simp_all [Node.isFile, Node.isDirectory]
    · exact .inl (by rwa [get?_set_of_ne hp])
  new := by
    intro p other hother
    by_cases hp : p = place
    · subst hp
      rw [get?_set_self hfree.ne_nil] at hother
      obtain rfl := Option.some.inj hother
      exact .inr hown
    · exact .inl (by rwa [get?_set_of_ne hp] at hother)
  proper := fun h => h.set hfree

/-- A node is put where a path leads. -/
structure Puts (tree : Tree) (last : Bool) (path : String) (node : Node) (tree' : Tree)
    (place : Place) : Prop where
  /-- The path leads there. -/
  leads : ∃ goal, tree.goal last path = .ok goal ∧ goal.place = place
  /-- The node is put there. -/
  eq : tree' = tree.set place node
  /-- It may be. -/
  free : tree.Free place node

section

variable {last : Bool} {path : String} {content : List UInt8} {now : Time}

theorem Puts.get?_self (h : tree.Puts last path node tree' place) :
    tree'.get? place = some node := by
  rw [h.eq, get?_set_self h.free.ne_nil]

theorem Puts.grows (h : tree.Puts last path node tree' place)
    (hown : node.isDirectory = true ∨ own place node) : Grows own tree tree' :=
  h.eq ▸ .set h.free hown

/-- A path leads to what has been put where it leads. -/
theorem Puts.goal_eq (h : tree.Puts true path node tree' place)
    (hlink : ∀ target, node ≠ .link target) : tree'.goal true path = .ok (.found place) := by
  obtain ⟨goal, hgoal, rfl⟩ := h.leads
  have hgrows : Grows (fun _ _ => True) tree tree' := h.grows (.inr trivial)
  have hstart : tree'.start path = tree.start path := by rw [start, start, hgrows.here]
  obtain ⟨hlegal, hwalk⟩ := goal_eq_ok_iff.mp hgoal
  exact goal_eq_ok_iff.mpr ⟨hlegal, hstart ▸ hwalk.found_of_grows hgrows h.get?_self hlink⟩

/-- A path that leads nowhere leads to where something may be put. -/
theorem vacant_of_goal (h : tree.goal last path = .ok (.missing place)) : tree.Vacant place :=
  (goal_eq_ok_iff.mp h).2.vacant fun _ hs => slash_notMem_of_mem_steps hs

/-- **A file is written** where its path leads. -/
theorem exists_puts_of_write (h : tree.write path content now = .ok tree') :
    ∃ place runnable, tree.Puts true path (.file content now runnable) tree' place := by
  obtain ⟨goal, hgoal, h⟩ := bind_eq_ok_iff.mp h
  cases goal with
  | missing place =>
      obtain rfl := Except.ok.inj h
      exact ⟨place, false, ⟨_, hgoal, rfl⟩, rfl, .inl (vacant_of_goal hgoal)⟩
  | found place =>
      dsimp only at h
      split at h
      next c m runnable hold =>
        obtain rfl := Except.ok.inj h
        exact ⟨place, runnable, ⟨_, hgoal, rfl⟩, rfl, .inr ⟨rfl, _, hold, rfl⟩⟩
      · exact absurd h (by simp)

/-- **A file is copied** to where the path of its copy leads. -/
theorem exists_puts_of_copy {source : String} (h : tree.copy source path now = .ok tree') :
    ∃ place content m runnable, tree.stat source = .ok (.file content m runnable) ∧
      tree.Puts true path (.file content now runnable) tree' place := by
  obtain ⟨old, hold, h⟩ := bind_eq_ok_iff.mp h
  cases old with
  | directory | link => exact absurd h (by simp)
  | file content m runnable =>
  obtain ⟨goal, hgoal, h⟩ := bind_eq_ok_iff.mp h
  cases goal with
  | missing place =>
      obtain rfl := Except.ok.inj h
      exact ⟨place, content, m, runnable, hold, ⟨_, hgoal, rfl⟩, rfl,
        .inl (vacant_of_goal hgoal)⟩
  | found place =>
      dsimp only at h
      split at h
      next c m' runnable' hreplaced =>
        obtain rfl := Except.ok.inj h
        exact ⟨place, content, m, runnable, hold, ⟨_, hgoal, rfl⟩, rfl,
          .inr ⟨rfl, _, hreplaced, rfl⟩⟩
      · exact absurd h (by simp)

/-- **A link is made** where its path leads. -/
theorem exists_puts_of_makeLink {target : String} (h : tree.makeLink path target = .ok tree') :
    ∃ place, tree.Puts false path (.link target) tree' place ∧ tree.Vacant place := by
  obtain ⟨goal, hgoal, h⟩ := bind_eq_ok_iff.mp h
  cases goal with
  | missing place =>
      obtain rfl := Except.ok.inj h
      exact ⟨place, ⟨⟨_, hgoal, rfl⟩, rfl, .inl (vacant_of_goal hgoal)⟩, vacant_of_goal hgoal⟩
  | found place => exact absurd h (by simp)

/-- The path without the slashes at its end, unless there is nothing else in it. -/
def bare (path : String) : String :=
  let bare := String.ofList (path.toList.reverse.dropWhile (· == '/')).reverse
  if bare = "" then path else bare

/-- **A directory is made** where its path leads. -/
theorem exists_puts_of_makeDir (h : tree.makeDir path now = .ok tree') :
    ∃ place, tree.Puts false (bare path) (.directory now) tree' place ∧
      tree.goal false (bare path) = .ok (.missing place) := by
  obtain ⟨goal, hgoal, h⟩ := bind_eq_ok_iff.mp h
  cases goal with
  | missing place =>
      obtain rfl := Except.ok.inj h
      exact ⟨place, ⟨⟨_, hgoal, rfl⟩, rfl, .inl (vacant_of_goal hgoal)⟩, hgoal⟩
  | found place => exact absurd h (by simp)

/-- **What making missing directories does**, one directory after the other. -/
theorem makeDirs_induction {R : Tree → Tree → Prop} (refl : ∀ tree, R tree tree)
    (trans : ∀ {tree tree' tree''}, R tree tree' → R tree' tree'' → R tree tree'')
    (makeDir : ∀ {tree tree' path now}, tree.makeDir path now = .ok tree' → R tree tree')
    (h : tree.makeDirs path now = .ok tree') : R tree tree' := by
  have hensure {tree tree' : Tree} {path : String} (h : tree.ensureDir path now = .ok tree') :
      R tree tree' := by
    rw [ensureDir] at h
    split at h
    next hmake =>
      obtain rfl := Except.ok.inj h
      exact makeDir hmake
    next =>
      split at h
      · obtain rfl := Except.ok.inj h
        exact refl tree
      · exact absurd h (by simp)
  have hbelow (above : List String) {tree' : Tree} {path : String}
      (h : tree.makeDirsBelow now path above = .ok tree') : R tree tree' := by
    induction above generalizing tree' path with
    | nil =>
        rw [makeDirsBelow] at h
        split at h
        · exact absurd h (by simp)
        · exact hensure h
    | cons p above ih =>
        rw [makeDirsBelow] at h
        split at h
        · obtain ⟨made, hmade, hrest⟩ := bind_eq_ok_iff.mp h
          exact trans (ih hmade) (hensure hrest)
        · exact hensure h
  rw [makeDirs] at h
  split at h
  · obtain rfl := Except.ok.inj h
    exact refl tree
  · exact hbelow _ h

/-- Directories are all that is made. -/
theorem grows_makeDirs (own : Place → Node → Prop) (h : tree.makeDirs path now = .ok tree') :
    Grows own tree tree' := by
  refine makeDirs_induction (.refl own) .trans (fun h => ?_) h
  obtain ⟨place, hputs, -⟩ := exists_puts_of_makeDir h
  exact hputs.grows (.inl rfl)

/-! ### Direct children -/

variable {base name : String}

/-- There is no slash at the end of the path of a direct child. -/
theorem bare_join (base : String) (h : isName name = true) :
    bare (join base name) = join base name := by
  have hlast := Path.getLast?_join_ne_slash base h
  have hkept : ((join base name).toList.reverse.dropWhile (· == '/')).reverse =
      (join base name).toList := by
    rw [← List.head?_reverse] at hlast
    cases hlist : (join base name).toList.reverse with
    | nil => rw [List.dropWhile_nil, ← hlist, List.reverse_reverse]
    | cons c rest =>
        rw [hlist, List.head?_cons] at hlast
        have hc : (c == '/') = false := beq_eq_false_iff_ne.mpr fun heq => hlast (heq ▸ rfl)
        rw [List.dropWhile_cons, hc, if_neg Bool.false_ne_true, ← hlist, List.reverse_reverse]
  rw [bare, hkept, String.ofList_toList]
  exact ite_self _

/-- A direct child that is found is what stands under its name. -/
theorem leadsTo_child {parent : Place} {m : Time} (hdir : tree.get? parent = some (.directory m))
    (hs : IsStep name) (hnode : tree.get? (parent ++ [name]) = some node)
    (hlink : ∀ target, node ≠ .link target) :
    LeadsTo tree last 0 parent [name] (.found (parent ++ [name])) :=
  .enter hdir hs hnode hlink .done

/-- A path of a direct child, whose place is known whatever stands there. -/
structure EntryAt (tree : Tree) (path : String) (place : Place) : Prop where
  /-- The path may be followed. -/
  legal : IsLegal path
  /-- Its directory is there, and its last name is a step from it. -/
  split : ∃ base name parent m, path = join base name ∧ isName name = true ∧ IsStep name ∧
    tree.Opens base parent ∧ tree.get? parent = some (.directory m) ∧ place = parent ++ [name]

/-- A direct child that is found or missed, a link not followed, has its place. -/
theorem entryAt_of_goal {goal : Goal} (h : tree.goal false (join base name) = .ok goal)
    (hname : isName name = true) : tree.EntryAt (join base name) goal.place := by
  obtain ⟨parent, m, hopens, hdir, hs, hplace⟩ := exists_opens_of_goal h hname
  have hlegal := (goal_eq_ok_iff.mp h).1
  refine ⟨hlegal, base, name, parent, m, rfl, hname, hs, hopens, hdir, ?_⟩
  by_cases hlink : ∃ target, tree.get? (parent ++ [name]) = some (.link target)
  · obtain ⟨target, hlink⟩ := hlink
    have hfound := hopens.goal_join hname hlegal (.stop rfl hdir hs hlink)
    rw [Except.ok.inj (h.symm.trans hfound)]
    rfl
  · exact hplace fun target htarget => hlink ⟨target, htarget⟩

/-- It keeps its place. -/
theorem EntryAt.of_grows (h : tree.EntryAt path place) (hgrows : Grows own tree tree') :
    tree'.EntryAt path place := by
  obtain ⟨hlegal, base, name, parent, m, hpath, hname, hs, hopens, hdir, hplace⟩ := h
  exact ⟨hlegal, base, name, parent, m, hpath, hname, hs, hopens.of_grows hgrows,
    hgrows.get?_of_not_isFile hdir rfl, hplace⟩

/-- It is not the root. -/
theorem EntryAt.ne_nil (h : tree.EntryAt path place) : place ≠ [] := by
  obtain ⟨-, _, _, _, _, -, -, -, -, -, rfl⟩ := h
  exact List.concat_ne_nil _ _

/-- What stands at its place is found. -/
theorem EntryAt.goal_of_some (h : tree.EntryAt path place) (hnode : tree.get? place = some node) :
    tree.goal false path = .ok (.found place) := by
  obtain ⟨hlegal, base, name, parent, m, rfl, hname, hs, hopens, hdir, rfl⟩ := h
  refine hopens.goal_join hname hlegal ?_
  cases node with
  | link target => exact .stop rfl hdir hs hnode
  | file | directory => exact .enter hdir hs hnode (by simp) .done

/-- If nothing stands there it is missed. -/
theorem EntryAt.goal_of_none (h : tree.EntryAt path place) (hnone : tree.get? place = none) :
    tree.goal false path = .ok (.missing place) := by
  obtain ⟨hlegal, base, name, parent, m, rfl, hname, hs, hopens, hdir, rfl⟩ := h
  exact hopens.goal_join hname hlegal (.missing hdir hs hnone)

/-- **A direct child that is made** stands in the directory, under its name, and paths below it are
looked for from there. -/
theorem opens_of_makeDir (h : tree.makeDir (join base name) now = .ok tree')
    (hname : isName name = true) :
    ∃ place, tree.EntryAt (join base name) place ∧
      tree.Puts false (join base name) (.directory now) tree' place ∧ tree.Vacant place ∧
      tree'.Opens (join base name) place := by
  obtain ⟨place, hputs, hgoal⟩ := exists_puts_of_makeDir h
  rw [bare_join base hname] at hputs hgoal
  have hentry : tree.EntryAt (join base name) place := entryAt_of_goal hgoal hname
  refine ⟨place, hentry, hputs, vacant_of_goal hgoal, ?_⟩
  obtain ⟨-, base, name, parent, m, hpath, hname, hs, hopens, hdir, rfl⟩ := hentry
  have hgrows : Grows (fun _ _ => False) tree tree' := hputs.grows (.inl rfl)
  rw [hpath, Opens, start_join tree' base hname, Path.named_join base hname]
  exact LeadsTo.append (List.cons_ne_nil name []) (hopens.of_grows hgrows)
    (leadsTo_child (hgrows.get?_of_not_isFile hdir rfl) hs hputs.get?_self (by simp))

end

/-! ### The path of a place -/

/-- **The names of a place lead to it** from the root, without any links. -/
theorem Proper.leadsTo_self {last : Bool} (h : tree.Proper) (hnode : tree.get? place = some node)
    (hlink : ∀ target, node ≠ .link target) :
    LeadsTo tree last 0 [] place (.found place) := by
  induction place using List.reverseRecOn generalizing node last with
  | nil => exact .done
  | append_singleton parent name ih =>
      obtain ⟨m, hdir⟩ := h.directory hnode
      have hs := isStep_of_isName (h.plain hnode) (h.fits hnode)
      exact LeadsTo.append (List.cons_ne_nil name []) (ih hdir (by simp))
        (leadsTo_child hdir hs hnode hlink)

/-- The names of a place are plain. -/
theorem Proper.isName_of_mem (h : tree.Proper) (hnode : tree.get? place = some node) {s : String}
    (hs : s ∈ place) : isName s = true := by
  induction place using List.reverseRecOn generalizing node with
  | nil => exact absurd hs List.not_mem_nil
  | append_singleton parent name ih =>
      rcases List.mem_append.mp hs with hs | hs
      · obtain ⟨m, hdir⟩ := h.directory hnode
        exact ih hdir hs
      · rw [List.mem_singleton.mp hs]
        exact h.plain hnode

/-- The absolute path of a place. -/
def pathOf (place : Place) : String :=
  "/" ++ Text.joined "/" place

/-- Its steps are the names of the place. -/
theorem steps_pathOf (hne : place ≠ []) (hnames : ∀ s ∈ place, isName s = true) :
    steps (pathOf place) = place := by
  have hslash : ∀ s ∈ place, '/' ∉ s.toList :=
    fun s hs => (Path.slash_notMem_of_isName (hnames s hs)).1
  have hsegments : Path.segments (Text.joined "/" place) = place := by
    rw [Path.segments, Path.splitOn_joined hne hslash, List.map_map]
    exact List.map_id'' (fun s => String.ofList_toList) place
  have hempty : "" ∉ place :=
    fun hmem => (Path.slash_notMem_of_isName (hnames "" hmem)).2 rfl
  have hpieces : Path.segments (pathOf place) = "" :: place := by
    have hpath : pathOf place = "" ++ "/" ++ Text.joined "/" place := by
      rw [pathOf, String.empty_append]
    rw [hpath, Path.segments_slash, hsegments]
    rfl
  have hlast : (pathOf place).toList.getLast? ≠ some '/' := by
    intro hlast
    obtain ⟨front, hfront⟩ := List.getLast?_eq_some_iff.mp hlast
    have hslashed : pathOf place = String.ofList front ++ "/" := by
      rw [← String.toList_inj, hfront]
      simp
    -- after the slash there would be an empty name
    rw [hslashed, Path.segments_append_slash, List.append_eq_cons_iff] at hpieces
    rcases hpieces with ⟨-, hnil⟩ | ⟨names, -, hplace⟩
    · exact hne (List.cons.inj hnil).2.symm
    · exact hempty (hplace ▸ List.mem_append_right _ List.mem_cons_self)
  rw [steps_eq_named hlast, named, hpieces, List.filter_cons_of_neg (by simp)]
  exact List.filter_eq_self.mpr fun s hs => by simpa using ne_of_mem_of_not_mem hs hempty

/-- It starts at the root. -/
theorem isAbsolute_pathOf (place : Place) : Path.isAbsolute (pathOf place) = true := by
  simp [Path.isAbsolute, pathOf]

/-- The place that a path leads to. -/
theorem place_eq_of_goal {path : String} (h : tree.goal true path = .ok (.found place)) :
    tree.place path = .ok place := by
  simp only [Tree.place, h, bind, Except.bind]

/-- What a path that leads somewhere is without links and dots. -/
theorem resolved_of_goal {path : String} (h : tree.goal true path = .ok (.found place)) :
    tree.resolved path = .ok (pathOf place) := by
  rw [resolved, place_eq_of_goal h]
  rfl

/-- A file that a path leads to is read. -/
theorem read_of_goal {path : String} {content : List UInt8} {m : Time} {runnable : Bool}
    (h : tree.goal true path = .ok (.found place))
    (hfile : tree.get? place = some (.file content m runnable)) :
    tree.read path = .ok content := by
  simp only [read, stat, place_eq_of_goal h, hfile, bind, Except.bind]

/-- **The absolute path of a place leads back to it.** -/
theorem Proper.eq_of_stat_pathOf (h : tree.Proper) {node' : Node}
    (hnode : tree.get? place = some node) (hne : place ≠ []) (hlink : ∀ target, node ≠ .link target)
    (hstat : tree.stat (pathOf place) = .ok node') : node' = node := by
  obtain ⟨q, hplace, hstat⟩ := bind_eq_ok_iff.mp hstat
  obtain ⟨goal, hgoal, hfound⟩ := bind_eq_ok_iff.mp hplace
  have hwalk := (goal_eq_ok_iff.mp hgoal).2
  rw [start, isAbsolute_pathOf, if_pos rfl,
    steps_pathOf hne fun s hs => h.isName_of_mem hnode hs] at hwalk
  obtain rfl := hwalk.unique (h.leadsTo_self hnode hlink)
  obtain rfl := Except.ok.inj hfound
  rw [hnode] at hstat
  exact (Except.ok.inj hstat).symm

end LivePages.Files.Tree
