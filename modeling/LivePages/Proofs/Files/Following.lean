import LivePages.Files.Tree
import LivePages.Proofs.Except
import LivePages.Proofs.Files.Join

/-!
# Where Paths Lead

`Tree.follow` walks a path through the tree and jumps at the links. `Tree.LeadsTo` says where it
comes to, with one rule for each kind of step, so that what is true of a walk is shown step by
step. A walk has two ends: the directory that a path begins with is found on the way, and what is
found from there on decides where the whole path leads.

## Main results

* `follow_eq_ok_iff`, `goal_eq_ok_iff`: the rules are those of the walk.
* `LeadsTo.unique`: a path leads to one place, however many links may be followed.
* `LeadsTo.exists_split`, `LeadsTo.append`: a path taken apart and put together.
* `LeadsTo.along`: without links a path leads where its names say.
* `Opens.place_of_goal`: what is below a directory is looked for from there.
-/

namespace LivePages.Files

namespace Path

/-! ### Segments that are followed -/

variable {base name : String}

/-- The segments of a path that are not empty. -/
def named (path : String) : List String :=
  (segments path).filter (· ≠ "")

/-- There is no slash in a plain name, and it is not empty. -/
theorem slash_notMem_of_isName (h : isName name = true) : '/' ∉ name.toList ∧ name ≠ "" := by
  rw [isName, Bool.and_eq_true, Bool.not_eq_true'] at h
  constructor
  · rw [← List.contains_iff_mem, h.1]
    exact Bool.false_ne_true
  · rintro rfl
    exact absurd h.2 (by decide)

/-- A plain name is no step to another directory. -/
theorem ne_dots_of_isName (h : isName name = true) : name ≠ "." ∧ name ≠ ".." := by
  constructor <;> rintro rfl <;> exact absurd h (by decide)

/-- A plain name is relative. -/
theorem isAbsolute_of_isName (h : isName name = true) : isAbsolute name = false := by
  rw [isAbsolute, beq_eq_false_iff_ne]
  intro hhead
  exact (slash_notMem_of_isName h).1 (List.mem_of_mem_head? hhead)

/-- The segments on both sides of a slash are followed one after the other. -/
theorem named_slash (base path : String) :
    named (base ++ "/" ++ path) = named base ++ named path := by
  rw [named, segments_slash, List.filter_append]
  rfl

/-- A slash at the end of a path is not followed. -/
theorem named_append_slash (base : String) : named (base ++ "/") = named base := by
  rw [named, segments_append_slash, List.filter_append]
  exact List.append_nil _

/-- A plain name is followed as it is. -/
theorem named_of_isName (h : isName name = true) : named name = [name] := by
  rw [named, segments_of_isName h]
  simp [(slash_notMem_of_isName h).2]

/-- The path of a direct child is that of the directory, a slash if one is missing, and the
name. -/
theorem exists_join_name (base : String) (h : isName name = true) :
    ∃ front, join base name = front ++ name ∧ (front = "" ∨ ∃ b, front = b ++ "/") ∧
      named front = named base ∧ isAbsolute front = isAbsolute base := by
  rw [join, isAbsolute_of_isName h, if_neg Bool.false_ne_true]
  by_cases hbase : base = ""
  · exact ⟨base, by rw [if_pos (Or.inl hbase)], .inl hbase, rfl, rfl⟩
  by_cases hslash : base.toList.getLast? = some '/'
  · refine ⟨base, by rw [if_pos (Or.inr hslash)], .inr ?_, rfl, rfl⟩
    obtain ⟨front, hfront⟩ := List.getLast?_eq_some_iff.mp hslash
    refine ⟨String.ofList front, ?_⟩
    rw [← String.toList_inj, hfront]
    simp
  · refine ⟨base ++ "/", by rw [if_neg (not_or.mpr ⟨hbase, hslash⟩)], .inr ⟨base, rfl⟩,
      named_append_slash base, ?_⟩
    rw [isAbsolute, isAbsolute]
    cases hlist : base.toList with
    | nil => exact absurd (String.toList_eq_nil_iff.mp hlist) hbase
    | cons c rest => simp [hlist]

/-- **A direct child is followed to the directory first and then by its name.** -/
theorem named_join (base : String) (h : isName name = true) :
    named (join base name) = named base ++ [name] := by
  obtain ⟨front, hjoin, hfront, hnamed, -⟩ := exists_join_name base h
  rw [hjoin, ← hnamed]
  rcases hfront with rfl | ⟨b, rfl⟩
  · rw [String.empty_append, named_of_isName h]
    rfl
  · rw [named_slash, named_append_slash, named_of_isName h]

/-- A direct child is looked for from where its directory is. -/
theorem isAbsolute_join (base : String) (h : isName name = true) :
    isAbsolute (join base name) = isAbsolute base := by
  obtain ⟨front, hjoin, hfront, -, habsolute⟩ := exists_join_name base h
  rw [hjoin, ← habsolute]
  rcases hfront with rfl | ⟨b, rfl⟩
  · rw [String.empty_append, isAbsolute_of_isName h]
    rfl
  · rw [isAbsolute, isAbsolute]
    cases hlist : b.toList <;> simp [hlist]

/-- There is no slash at the end of the path of a direct child. -/
theorem getLast?_join_ne_slash (base : String) (h : isName name = true) :
    (join base name).toList.getLast? ≠ some '/' := by
  obtain ⟨front, hjoin, -⟩ := exists_join_name base h
  obtain ⟨hslash, hne⟩ := slash_notMem_of_isName h
  rw [hjoin, String.toList_append,
    List.getLast?_append_of_ne_nil _ (mt String.toList_eq_nil_iff.mp hne)]
  exact fun hlast => hslash (List.mem_of_getLast? hlast)

end Path

namespace Tree

open LivePages.Files.Path (isName join named)

/-! ### Steps -/

variable {base name path : String}

/-- The segments of a path without a slash at its end are followed as they are. -/
theorem steps_eq_named (h : path.toList.getLast? ≠ some '/') : steps path = named path :=
  if_neg h

/-- The steps of a direct child. -/
theorem steps_join (base : String) (h : isName name = true) :
    steps (join base name) = named base ++ [name] := by
  rw [steps_eq_named (Path.getLast?_join_ne_slash base h), Path.named_join base h]

/-- The start of a direct child. -/
theorem start_join (tree : Tree) (base : String) (h : isName name = true) :
    tree.start (join base name) = tree.start base := by
  rw [start, start, Path.isAbsolute_join base h]

/-- There is no slash in a step, and none is empty. -/
theorem slash_notMem_of_mem_steps {s : String} (h : s ∈ steps path) :
    '/' ∉ s.toList ∧ s ≠ "" := by
  have hnamed : s ∈ named path → '/' ∉ s.toList ∧ s ≠ "" := by
    intro hs
    obtain ⟨hmem, hne⟩ := List.mem_filter.mp hs
    obtain ⟨piece, hpiece, rfl⟩ := List.mem_map.mp hmem
    exact ⟨by simpa using Text.notMem_of_mem_splitOn hpiece, by simpa using hne⟩
  rw [steps] at h
  split at h
  · rcases List.mem_append.mp h with h | h
    · exact hnamed h
    · rw [List.mem_singleton.mp h]
      exact ⟨by decide, by decide⟩
  · exact hnamed h

/-- A step to something in a directory. -/
structure IsStep (s : String) : Prop where
  /-- It is not the directory itself. -/
  ne_here : s ≠ "."
  /-- It is not the one above. -/
  ne_up : s ≠ ".."
  /-- It is not too long for a name. -/
  fits : ¬ s.utf8ByteSize > nameLimit

/-- Such a step is a plain name if it has no slash and is not empty. -/
theorem IsStep.isName {s : String} (h : IsStep s) (hs : '/' ∉ s.toList ∧ s ≠ "") :
    isName s = true := by
  have hslash : s.toList.contains '/' = false := by
    rw [← Bool.not_eq_true, List.contains_iff_mem]
    exact hs.1
  rw [Path.isName, hslash, Path.component?, if_neg (not_or.mpr ⟨hs.2, h.ne_here⟩),
    if_neg h.ne_up]
  exact beq_self_eq_true _

/-- A plain name that is not too long is such a step. -/
theorem isStep_of_isName {s : String} (h : isName s = true)
    (hfits : ¬ s.utf8ByteSize > nameLimit) : IsStep s :=
  ⟨(Path.ne_dots_of_isName h).1, (Path.ne_dots_of_isName h).2, hfits⟩

/-! ### Walks -/

/-- The place that a walk comes to. -/
def Goal.place : Goal → Place
  | .found place => place
  | .missing place => place

/-- Where segments lead from a place, with so many links that may be followed. If `last` does not
hold, a link at the end is not followed. -/
inductive LeadsTo (tree : Tree) (last : Bool) : ℕ → Place → List String → Goal → Prop
  /-- There is nothing more to follow. -/
  | done {links : ℕ} {place : Place} : LeadsTo tree last links place [] (.found place)
  /-- A dot stays where it is. -/
  | stay {links : ℕ} {place : Place} {m : Time} {rest : List String} {goal : Goal}
      (hdir : tree.get? place = some (.directory m))
      (h : LeadsTo tree last links place rest goal) :
      LeadsTo tree last links place ("." :: rest) goal
  /-- Two dots lead up. -/
  | up {links : ℕ} {place : Place} {m : Time} {rest : List String} {goal : Goal}
      (hdir : tree.get? place = some (.directory m))
      (h : LeadsTo tree last links place.dropLast rest goal) :
      LeadsTo tree last links place (".." :: rest) goal
  /-- Nothing stands at the end. -/
  | missing {links : ℕ} {place : Place} {m : Time} {s : String}
      (hdir : tree.get? place = some (.directory m)) (hs : IsStep s)
      (hnone : tree.get? (place ++ [s]) = none) :
      LeadsTo tree last links place [s] (.missing (place ++ [s]))
  /-- A link stands at the end and is not followed. -/
  | stop {links : ℕ} {place : Place} {m : Time} {s target : String} (hlast : last = false)
      (hdir : tree.get? place = some (.directory m)) (hs : IsStep s)
      (hlink : tree.get? (place ++ [s]) = some (.link target)) :
      LeadsTo tree last links place [s] (.found (place ++ [s]))
  /-- A link is followed. -/
  | hop {links : ℕ} {place : Place} {m : Time} {s target : String} {rest : List String}
      {goal : Goal} (hlast : rest ≠ [] ∨ last = true)
      (hdir : tree.get? place = some (.directory m)) (hs : IsStep s)
      (hlink : tree.get? (place ++ [s]) = some (.link target))
      (h : LeadsTo tree last links (if Path.isAbsolute target then [] else place)
        (steps target ++ rest) goal) :
      LeadsTo tree last (links + 1) place (s :: rest) goal
  /-- A file or directory is entered. -/
  | enter {links : ℕ} {place : Place} {m : Time} {s : String} {node : Node} {rest : List String}
      {goal : Goal} (hdir : tree.get? place = some (.directory m)) (hs : IsStep s)
      (hnode : tree.get? (place ++ [s]) = some node) (hlink : ∀ target, node ≠ .link target)
      (h : LeadsTo tree last links (place ++ [s]) rest goal) :
      LeadsTo tree last links place (s :: rest) goal

variable {tree : Tree} {last : Bool} {links : ℕ} {place : Place} {segments : List String}
  {goal : Goal}

/-- What a walk does at a link. -/
def jump (tree : Tree) (last : Bool) : ℕ → Place → List String → Except Error Goal
  | 0 => fun _ _ => .error .tooManyLinks
  | links + 1 => follow tree last links

/-- A walk from link to link. -/
theorem follow_eq_followWith (tree : Tree) (last : Bool) (links : ℕ) :
    follow tree last links = followWith tree last (jump tree last links) := by
  cases links <;> rfl

/-- A walk is one by the rules, if what it does at links is. -/
theorem LeadsTo.of_followWith
    (hjump : ∀ place segments goal, jump tree last links place segments = .ok goal →
      ∃ n, links = n + 1 ∧ LeadsTo tree last n place segments goal)
    (h : followWith tree last (jump tree last links) place segments = .ok goal) :
    LeadsTo tree last links place segments goal := by
  induction segments generalizing place with
  | nil =>
      obtain rfl := Except.ok.inj h
      exact .done
  | cons s rest ih =>
      rw [followWith] at h
      split at h
      · exact absurd h (by simp)
      · exact absurd h (by simp)
      · exact absurd h (by simp)
      next m hdir =>
      split at h
      next hhere => exact hhere ▸ .stay hdir (ih h)
      split at h
      next hup => exact hup ▸ .up hdir (ih h)
      split at h
      · exact absurd h (by simp)
      next hhere hup hlong =>
      have hs : IsStep s := ⟨hhere, hup, hlong⟩
      split at h
      next hnone =>
        split at h
        next hrest =>
          obtain rfl := Except.ok.inj h
          rw [List.isEmpty_iff.mp hrest]
          exact .missing hdir hs hnone
        · exact absurd h (by simp)
      next target hlink =>
        split at h
        next hstop =>
          obtain rfl := Except.ok.inj h
          rw [Bool.and_eq_true, Bool.not_eq_true'] at hstop
          rw [List.isEmpty_iff.mp hstop.1]
          exact .stop hstop.2 hdir hs hlink
        next hstop =>
          obtain ⟨n, rfl, hrest⟩ := hjump _ _ _ h
          refine .hop ?_ hdir hs hlink hrest
          rw [← List.isEmpty_eq_false_iff]
          revert hstop
          cases rest.isEmpty <;> simp
      next node hlink hnode => exact .enter hdir hs hnode hlink (ih h)

/-- A walk is one by the rules. -/
theorem LeadsTo.of_follow (h : follow tree last links place segments = .ok goal) :
    LeadsTo tree last links place segments goal := by
  induction links generalizing place segments goal with
  | zero => exact .of_followWith (fun _ _ _ h => absurd h (by simp [jump])) h
  | succ links ih => exact .of_followWith (fun _ _ _ h => ⟨links, rfl, ih h⟩) h

/-- A walk by the rules is made. -/
theorem LeadsTo.follow_eq (h : LeadsTo tree last links place segments goal) :
    follow tree last links place segments = .ok goal := by
  induction h with
  | done => rw [follow_eq_followWith]; rfl
  | stay hdir h ih =>
      rw [follow_eq_followWith] at ih ⊢
      simp only [followWith, hdir, if_true, ih]
  | up hdir h ih =>
      rw [follow_eq_followWith] at ih ⊢
      simp only [followWith, hdir, if_true, ih]
      rfl
  | missing hdir hs hnone =>
      rw [follow_eq_followWith]
      simp [followWith, hdir, hs.ne_here, hs.ne_up, hs.fits, hnone]
  | stop hlast hdir hs hlink =>
      rw [follow_eq_followWith]
      simp [followWith, hdir, hs.ne_here, hs.ne_up, hs.fits, hlink, hlast]
  | hop hlast hdir hs hlink h ih =>
      rw [follow_eq_followWith]
      simp only [followWith, hdir, hs.ne_here, hs.ne_up, hs.fits, hlink, if_false]
      rw [if_neg, jump, ih]
      rcases hlast with hrest | rfl
      · simp [List.isEmpty_eq_false_iff.mpr hrest]
      · simp
  | @enter links place m s node rest goal hdir hs hnode hlink h ih =>
      rw [follow_eq_followWith] at ih ⊢
      cases node with
      | link target => exact absurd rfl (hlink target)
      | file | directory =>
          simp only [followWith, hdir, hs.ne_here, hs.ne_up, hs.fits, hnode, if_false, ih]

/-- **Where a walk comes to.** -/
theorem follow_eq_ok_iff :
    follow tree last links place segments = .ok goal ↔
      LeadsTo tree last links place segments goal :=
  ⟨LeadsTo.of_follow, LeadsTo.follow_eq⟩

/-! ### What a walk comes to -/

variable {links' : ℕ} {goal' : Goal} {q : Place}

/-- More links may be followed. -/
theorem LeadsTo.mono (h : LeadsTo tree last links place segments goal) (hle : links ≤ links') :
    LeadsTo tree last links' place segments goal := by
  induction h generalizing links' with
  | done => exact .done
  | stay hdir _ ih => exact .stay hdir (ih hle)
  | up hdir _ ih => exact .up hdir (ih hle)
  | missing hdir hs hnone => exact .missing hdir hs hnone
  | stop hlast hdir hs hlink => exact .stop hlast hdir hs hlink
  | hop hlast hdir hs hlink _ ih =>
      obtain ⟨n, rfl⟩ := Nat.exists_eq_add_of_le' (Nat.one_le_of_lt hle)
      exact .hop hlast hdir hs hlink (ih (Nat.le_of_succ_le_succ hle))
  | enter hdir hs hnode hlink _ ih => exact .enter hdir hs hnode hlink (ih hle)

/-- **Segments lead to one place**, however many links may be followed. -/
theorem LeadsTo.unique (h : LeadsTo tree last links place segments goal)
    (h' : LeadsTo tree last links' place segments goal') : goal = goal' := by
  have hmost := (h.mono (le_max_left links links')).follow_eq
  rw [(h'.mono (le_max_right links links')).follow_eq] at hmost
  exact (Except.ok.inj hmost).symm

/-- Only a directory is left by a step. -/
theorem LeadsTo.exists_directory {s : String} {rest : List String}
    (h : LeadsTo tree last links place (s :: rest) goal) :
    ∃ m, tree.get? place = some (.directory m) := by
  cases h with
  | stay hdir | up hdir | missing hdir | stop _ hdir | hop _ hdir | enter hdir => exact ⟨_, hdir⟩

/-- A step by a plain name is one to something in a directory. -/
theorem LeadsTo.isStep {s : String} {rest : List String}
    (h : LeadsTo tree last links place (s :: rest) goal) (hs : isName s = true) : IsStep s := by
  cases h with
  | stay | up => exact absurd hs (by decide)
  | missing _ hs | stop _ _ hs | hop _ _ hs | enter _ hs => exact hs

/-- **A walk has two ends.** The segments at its beginning are followed to a place from which the
others are. -/
theorem LeadsTo.exists_split {base rest : List String} (hrest : rest ≠ [])
    (h : LeadsTo tree last links place (base ++ rest) goal) :
    ∃ parent n, LeadsTo tree true links place base (.found parent) ∧
      LeadsTo tree last n parent rest goal := by
  generalize hsegments : base ++ rest = segments at h
  induction h generalizing base with
  | done => exact absurd (List.append_eq_nil_iff.mp hsegments).2 hrest
  | @stay links place m segments goal hdir h ih =>
      rcases List.append_eq_cons_iff.mp hsegments with ⟨rfl, rfl⟩ | ⟨base', rfl, hbase⟩
      · exact ⟨place, links, .done, .stay hdir h⟩
      · obtain ⟨parent, n, hbase, hrest⟩ := ih hbase.symm
        exact ⟨parent, n, .stay hdir hbase, hrest⟩
  | @up links place m segments goal hdir h ih =>
      rcases List.append_eq_cons_iff.mp hsegments with ⟨rfl, rfl⟩ | ⟨base', rfl, hbase⟩
      · exact ⟨place, links, .done, .up hdir h⟩
      · obtain ⟨parent, n, hbase, hrest⟩ := ih hbase.symm
        exact ⟨parent, n, .up hdir hbase, hrest⟩
  | @missing links place m s hdir hs hnone =>
      rcases List.append_eq_cons_iff.mp hsegments with ⟨rfl, rfl⟩ | ⟨base', -, hbase⟩
      · exact ⟨place, links, .done, .missing hdir hs hnone⟩
      · exact absurd (List.append_eq_nil_iff.mp hbase.symm).2 hrest
  | @stop links place m s target hlast hdir hs hlink =>
      rcases List.append_eq_cons_iff.mp hsegments with ⟨rfl, rfl⟩ | ⟨base', -, hbase⟩
      · exact ⟨place, links, .done, .stop hlast hdir hs hlink⟩
      · exact absurd (List.append_eq_nil_iff.mp hbase.symm).2 hrest
  | @hop links place m s target segments goal hlast hdir hs hlink h ih =>
      rcases List.append_eq_cons_iff.mp hsegments with ⟨rfl, rfl⟩ | ⟨base', rfl, rfl⟩
      · exact ⟨place, links + 1, .done, .hop hlast hdir hs hlink h⟩
      · obtain ⟨parent, n, hbase, hrest⟩ := ih (List.append_assoc ..)
        exact ⟨parent, n, .hop (.inr rfl) hdir hs hlink hbase, hrest⟩
  | @enter links place m s node segments goal hdir hs hnode hlink h ih =>
      rcases List.append_eq_cons_iff.mp hsegments with ⟨rfl, rfl⟩ | ⟨base', rfl, hbase⟩
      · exact ⟨place, links, .done, .enter hdir hs hnode hlink h⟩
      · obtain ⟨parent, n, hbase, hrest⟩ := ih hbase.symm
        exact ⟨parent, n, .enter hdir hs hnode hlink hbase, hrest⟩

/-- **Two ends make a walk**, if the second one needs no link to be followed. -/
theorem LeadsTo.append {base rest : List String} {parent : Place} (hrest : rest ≠ [])
    (h : LeadsTo tree true links place base (.found parent))
    (h' : LeadsTo tree last 0 parent rest goal) :
    LeadsTo tree last links place (base ++ rest) goal := by
  generalize hfound : Goal.found parent = end' at h
  induction h with
  | done =>
      obtain rfl := Goal.found.inj hfound
      exact h'.mono (Nat.zero_le _)
  | stay hdir _ ih => exact .stay hdir (ih hfound)
  | up hdir _ ih => exact .up hdir (ih hfound)
  | missing => exact absurd hfound (by simp)
  | stop hlast => exact absurd hlast (by simp)
  | hop _ hdir hs hlink _ ih =>
      refine .hop (.inl (List.append_ne_nil_of_right_ne_nil _ hrest)) hdir hs hlink ?_
      have hrest := ih hfound
      rwa [List.append_assoc] at hrest
  | enter hdir hs hnode hlink _ ih => exact .enter hdir hs hnode hlink (ih hfound)

/-- **Without links a path leads where its names say.** -/
theorem LeadsTo.along (h : LeadsTo tree last links place segments goal)
    (hnames : ∀ s ∈ segments, isName s = true)
    (hlinks : ∀ way, way ≠ [] → way <+: segments →
      ∀ target, tree.get? (place ++ way) ≠ some (.link target)) :
    goal.place = place ++ segments := by
  induction h with
  | done => exact (List.append_nil _).symm
  | stay | up => exact absurd (hnames _ List.mem_cons_self) (by decide)
  | missing => rfl
  | @stop _ _ _ s _ _ _ _ hlink =>
      exact absurd hlink (hlinks [s] (by simp) (List.prefix_rfl) _)
  | @hop _ _ _ s _ rest _ _ _ _ hlink =>
      exact absurd hlink (hlinks [s] (by simp) ⟨rest, rfl⟩ _)
  | @enter _ place _ s _ rest _ _ _ _ _ _ ih =>
      rw [ih (fun t ht => hnames t (List.mem_cons_of_mem s ht)), List.append_assoc,
        List.singleton_append]
      intro way hne hway target
      rw [List.append_assoc, List.singleton_append]
      exact hlinks (s :: way) (by simp) (List.cons_prefix_cons.mpr ⟨rfl, hway⟩) target

/-- The last name of a path is looked for in the directory that the others lead to. -/
theorem LeadsTo.exists_parent {base : List String} {name : String}
    (h : LeadsTo tree last links place (base ++ [name]) goal) (hname : isName name = true) :
    ∃ parent m, LeadsTo tree true links place base (.found parent) ∧
      tree.get? parent = some (.directory m) ∧ IsStep name ∧
      ((∀ target, tree.get? (parent ++ [name]) ≠ some (.link target)) →
        goal.place = parent ++ [name]) := by
  obtain ⟨parent, n, hbase, hrest⟩ := h.exists_split (List.cons_ne_nil name [])
  obtain ⟨m, hdir⟩ := hrest.exists_directory
  refine ⟨parent, m, hbase, hdir, hrest.isStep hname,
    fun hlink => hrest.along (by simpa using hname) ?_⟩
  intro way hne hway
  rcases List.prefix_cons_iff.mp hway with rfl | ⟨t, rfl, ht⟩
  · exact absurd rfl hne
  · rwa [List.prefix_nil.mp ht]

/-! ### Paths -/

/-- A path that may be followed at all. -/
structure IsLegal (path : String) : Prop where
  /-- There is no NUL in it. -/
  nul : ¬ path.toList.contains '\x00' = true
  /-- It is not empty. -/
  nonempty : path ≠ ""
  /-- It is not too long. -/
  fits : ¬ path.utf8ByteSize > pathLimit

/-- There is no NUL in the name of a direct child either. -/
theorem IsLegal.nul_notMem (h : IsLegal (join base name)) (hname : isName name = true) :
    '\x00' ∉ name.toList := by
  obtain ⟨front, hjoin, -⟩ := Path.exists_join_name base hname
  intro hmem
  refine h.nul ?_
  rw [hjoin, String.toList_append, List.contains_iff_mem]
  exact List.mem_append_right _ hmem

/-- **Where a path leads.** -/
theorem goal_eq_ok_iff : tree.goal last path = .ok goal ↔
    IsLegal path ∧ LeadsTo tree last linkLimit (tree.start path) (steps path) goal := by
  rw [Tree.goal, ← follow_eq_ok_iff]
  constructor
  · intro h
    split_ifs at h with hnul hempty hlong
    exact ⟨⟨hnul, hempty, hlong⟩, h⟩
  · rintro ⟨hlegal, h⟩
    rw [if_neg hlegal.nul, if_neg hlegal.nonempty, if_neg hlegal.fits, h]

/-- The place from which everything below a path is looked for. -/
def Opens (tree : Tree) (path : String) (place : Place) : Prop :=
  LeadsTo tree true linkLimit (tree.start path) (named path) (.found place)

theorem Opens.unique {p q : Place} (h : tree.Opens path p) (h' : tree.Opens path q) : p = q :=
  Goal.found.inj (LeadsTo.unique h h')

/-- **A direct child is looked for in its directory**, and is found or missed there unless a link
leads elsewhere. -/
theorem exists_opens_of_goal (h : tree.goal last (join base name) = .ok goal)
    (hname : isName name = true) :
    ∃ parent m, tree.Opens base parent ∧ tree.get? parent = some (.directory m) ∧
      IsStep name ∧ ((∀ target, tree.get? (parent ++ [name]) ≠ some (.link target)) →
        goal.place = parent ++ [name]) := by
  have hwalk := (goal_eq_ok_iff.mp h).2
  rw [start_join tree base hname, steps_join base hname] at hwalk
  exact hwalk.exists_parent hname

/-- A path whose directory is known leads where its name does. -/
theorem Opens.goal_join {parent : Place} (h : tree.Opens base parent) (hname : isName name = true)
    (hlegal : IsLegal (join base name)) (h' : LeadsTo tree last 0 parent [name] goal) :
    tree.goal last (join base name) = .ok goal := by
  refine goal_eq_ok_iff.mpr ⟨hlegal, ?_⟩
  rw [start_join tree base hname, steps_join base hname]
  exact LeadsTo.append (List.cons_ne_nil name []) h h'

/-- A direct child from which everything below it is looked for is found there. -/
theorem Opens.goal_eq {p : Place} (h : tree.Opens (join base name) p) (hname : isName name = true)
    (hlegal : IsLegal (join base name)) : tree.goal true (join base name) = .ok (.found p) := by
  refine goal_eq_ok_iff.mpr ⟨hlegal, ?_⟩
  rwa [steps_eq_named (Path.getLast?_join_ne_slash base hname)]

/-- The path of something further below a directory, by the names on the way. -/
theorem named_foldl_join {way : List String} (hnames : ∀ s ∈ way, isName s = true)
    (base : String) : named (way.foldl join base) = named base ++ way := by
  induction way generalizing base with
  | nil => exact (List.append_nil _).symm
  | cons s way ih =>
      rw [List.foldl_cons, ih (fun t ht => hnames t (List.mem_cons_of_mem s ht)),
        Path.named_join base (hnames s List.mem_cons_self), List.append_assoc]
      rfl

/-- It is looked for from where its directory is. -/
theorem start_foldl_join {way : List String} (hnames : ∀ s ∈ way, isName s = true)
    (tree : Tree) (base : String) : tree.start (way.foldl join base) = tree.start base := by
  induction way generalizing base with
  | nil => rfl
  | cons s way ih =>
      rw [List.foldl_cons, ih (fun t ht => hnames t (List.mem_cons_of_mem s ht)),
        start_join tree base (hnames s List.mem_cons_self)]

/-- **Whatever is below a directory is looked for from there**, and is found or missed where the
names on the way say unless there is a link. -/
theorem Opens.place_of_goal {parent : Place} {way : List String} (hopens : tree.Opens base parent)
    (hne : way ≠ []) (hnames : ∀ s ∈ way, isName s = true)
    (h : tree.goal last (way.foldl join base) = .ok goal)
    (hlinks : ∀ w, w ≠ [] → w <+: way → ∀ target, tree.get? (parent ++ w) ≠ some (.link target)) :
    goal.place = parent ++ way := by
  have hsteps : steps (way.foldl join base) = named base ++ way := by
    obtain ⟨front, name, rfl⟩ := (List.eq_nil_or_concat' way).resolve_left hne
    rw [List.foldl_append, List.foldl_cons, List.foldl_nil,
      steps_join _ (hnames name (List.mem_append_right _ List.mem_cons_self)),
      named_foldl_join (fun s hs => hnames s (List.mem_append_left _ hs)), List.append_assoc]
  have hwalk := (goal_eq_ok_iff.mp h).2
  rw [hsteps, start_foldl_join hnames] at hwalk
  obtain ⟨parent', n, hbase, hrest⟩ := hwalk.exists_split hne
  obtain rfl := hopens.unique hbase
  exact hrest.along hnames hlinks

end Tree

end LivePages.Files
