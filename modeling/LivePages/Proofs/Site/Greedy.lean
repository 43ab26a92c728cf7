import Mathlib.Data.List.Nodup
import Mathlib.Data.List.Perm.Subperm
import Mathlib.Data.String.Basic
import Mathlib.Logic.Function.Basic
import LivePages.Site.Symbol

/-!
# The Greedy Assignment of Symbols

Who gets which symbol if the paths choose one after the other, the highest rank first: each
takes the first of its candidates that nobody before it took. The candidates of a path are its
base symbol and the base symbol with one, two, … underscores added.

This is the assignment that does not know of any queue. That the queue of requests ends with
it is the matter of `LivePages.Proofs.Site.Allocation`.

## Main results

* `outranks_trans`, `outranks_asymm`, `outranks_total`: rank is a strict total order.
* `exists_free`: of one candidate more than there are taken symbols, some candidate is free,
  so that every path finds a symbol (`firstFree_notMem`).
* `pairwise_ranked`: in the order of choosing each path outranks those after it.
* `exists_settled`: the greedy assignment without the order of choosing. Everybody is refused
  as often as it takes to come to the first candidate that nobody of higher rank has.
-/

namespace LivePages.Site

/-! ### Rank -/

/-- Rank compares lengths first and texts second. -/
theorem outranks_iff {a b : String} :
    outranks a b = true ↔
      b.utf8ByteSize < a.utf8ByteSize ∨ (a.utf8ByteSize = b.utf8ByteSize ∧ b < a) := by
  simp [outranks]

/-- No path outranks itself. -/
@[simp] theorem outranks_irrefl (a : String) : outranks a a = false := by
  rw [Bool.eq_false_iff, ne_eq, outranks_iff]
  rintro (h | ⟨-, h⟩)
  · exact lt_irrefl _ h
  · exact lt_irrefl _ h

/-- Rank is transitive. -/
theorem outranks_trans {a b c : String} (hab : outranks a b = true)
    (hbc : outranks b c = true) : outranks a c = true := by
  rw [outranks_iff] at hab hbc ⊢
  rcases hab with hab | ⟨hab, hab'⟩ <;> rcases hbc with hbc | ⟨hbc, hbc'⟩
  · exact Or.inl (hbc.trans hab)
  · exact Or.inl (hbc ▸ hab)
  · exact Or.inl (hab ▸ hbc)
  · exact Or.inr ⟨hab.trans hbc, hbc'.trans hab'⟩

/-- Of two paths at most one outranks the other. -/
theorem outranks_asymm {a b : String} (h : outranks a b = true) : outranks b a = false := by
  rw [Bool.eq_false_iff]
  intro h'
  have := outranks_trans h h'
  simp at this

/-- Of two different paths one outranks the other. -/
theorem outranks_total {a b : String} (h : a ≠ b) :
    outranks a b = true ∨ outranks b a = true := by
  rw [outranks_iff, outranks_iff]
  rcases Nat.lt_trichotomy a.utf8ByteSize b.utf8ByteSize with hlt | heq | hgt
  · exact Or.inr (Or.inl hlt)
  · rcases lt_or_gt_of_ne h with hlt | hgt
    · exact Or.inr (Or.inr ⟨heq.symm, hlt⟩)
    · exact Or.inl (Or.inr ⟨heq, hgt⟩)
  · exact Or.inl (Or.inl hgt)

/-! ### Candidates -/

/-- The candidate that a path asks for after so many refusals. -/
def candidate (path : String) : ℕ → String
  | 0 => baseSymbol path
  | k + 1 => candidate path k ++ "_"

/-- Every refusal makes the candidate longer by one. -/
theorem length_candidate (path : String) (k : ℕ) :
    (candidate path k).length = (baseSymbol path).length + k := by
  induction k with
  | zero => rfl
  | succ k ih =>
      rw [candidate, String.length_append, ih]
      rfl

/-- The candidates of a path are pairwise different. -/
theorem candidate_injective (path : String) : Function.Injective (candidate path) := by
  intro j k h
  have := congrArg String.length h
  rw [length_candidate, length_candidate] at this
  omega

/-- Among so many candidates of a path that there is one more of them than of the taken
symbols, some candidate is free. -/
theorem exists_free (taken : List String) (path : String) :
    ∃ k, k ≤ taken.length ∧ candidate path k ∉ taken := by
  by_contra hall
  push Not at hall
  have hnodup : ((List.range (taken.length + 1)).map (candidate path)).Nodup :=
    List.nodup_range.map (candidate_injective path)
  have hsub : (List.range (taken.length + 1)).map (candidate path) ⊆ taken := by
    intro s hs
    obtain ⟨k, hk, rfl⟩ := List.mem_map.mp hs
    exact hall k (by rw [List.mem_range] at hk; omega)
  have hlen := (hnodup.subperm hsub).length_le
  rw [List.length_map, List.length_range] at hlen
  omega

/-- How often a path is refused when such symbols are taken: it never takes more refusals than
there are symbols. -/
def refusals (taken : List String) (path : String) : ℕ :=
  (List.range (taken.length + 1)).findIdx fun k => candidate path k ∉ taken

/-- The first candidate of a path that is not taken. -/
def firstFree (taken : List String) (path : String) : String :=
  candidate path (refusals taken path)

/-- A path is refused at most once for every taken symbol. -/
theorem refusals_le (taken : List String) (path : String) :
    refusals taken path ≤ taken.length := by
  obtain ⟨k, hk, hfree⟩ := exists_free taken path
  have hlt : refusals taken path < (List.range (taken.length + 1)).length :=
    List.findIdx_lt_length_of_exists
      ⟨k, List.mem_range.mpr (Nat.lt_succ_of_le hk), decide_eq_true hfree⟩
  rw [List.length_range] at hlt
  exact Nat.lt_succ_iff.mp hlt

/-- The first free candidate is free. -/
theorem firstFree_notMem (taken : List String) (path : String) :
    firstFree taken path ∉ taken := by
  have hlt : refusals taken path < (List.range (taken.length + 1)).length := by
    rw [List.length_range]
    exact Nat.lt_succ_of_le (refusals_le taken path)
  have hget : (List.range (taken.length + 1))[refusals taken path] = refusals taken path :=
    List.getElem_range hlt
  have hfree := of_decide_eq_true
    (List.findIdx_getElem (p := fun k => decide (candidate path k ∉ taken)) (w := hlt))
  rw [firstFree, ← hget]
  exact hfree

/-- The candidates before the first free one are taken. -/
theorem candidate_mem_of_lt {taken : List String} {path : String} {k : ℕ}
    (h : k < refusals taken path) : candidate path k ∈ taken := by
  have := List.not_of_lt_findIdx h
  rw [List.getElem_range] at this
  simpa using this

/-! ### The greedy assignment -/

/-- Lets paths choose one after the other, when others have chosen before. -/
def chooseAfter (chosen : List Request) : List String → List Request
  | [] => chosen
  | path :: later =>
      chooseAfter (chosen ++ [⟨path, firstFree (chosen.map (·.symbol)) path⟩]) later

/-- The paths in decreasing rank. -/
def ranked (paths : List String) : List String :=
  paths.mergeSort fun a b => !outranks b a

/-- The **greedy assignment**: the paths choose in decreasing rank. -/
def greedy (paths : List String) : List Request :=
  chooseAfter [] (ranked paths)

/-- Different paths in decreasing rank: each outranks those after it. -/
theorem pairwise_ranked {paths : List String} (h : paths.Nodup) :
    (ranked paths).Pairwise fun a b => outranks a b = true := by
  have hsorted : (ranked paths).Pairwise fun a b => (!outranks b a) = true := by
    refine List.pairwise_mergeSort ?_ ?_ paths
    · intro a b c hab hbc
      rw [Bool.not_eq_true'] at hab hbc ⊢
      rw [Bool.eq_false_iff] at hab hbc ⊢
      intro hca
      by_cases hne : a = b
      · exact hbc (hne ▸ hca)
      · rcases outranks_total hne with h | h
        · exact hbc (outranks_trans hca h)
        · exact hab h
    · intro a b
      rw [Bool.or_eq_true, Bool.not_eq_true', Bool.not_eq_true']
      by_cases hab : outranks b a = true
      · exact Or.inr (outranks_asymm hab)
      · exact Or.inl (Bool.eq_false_iff.mpr hab)
  have hnodup : (ranked paths).Nodup := (List.mergeSort_perm paths _).nodup_iff.mpr h
  refine hsorted.imp₂ ?_ hnodup
  intro a b hab hne
  rw [Bool.not_eq_true'] at hab
  rcases outranks_total hne with h | h
  · exact h
  · rw [h] at hab
    exact absurd hab (by simp)

/-- The request that a path makes after so many refusals. -/
def Request.nth (path : String) (k : ℕ) : Request :=
  ⟨path, candidate path k⟩

@[simp] theorem Request.path_nth (path : String) (k : ℕ) : (Request.nth path k).path = path :=
  rfl

@[simp] theorem Request.symbol_nth (path : String) (k : ℕ) :
    (Request.nth path k).symbol = candidate path k :=
  rfl

/-- Numbers of refusals after which everybody is content: no two of the paths ask for the same
symbol, and what a path was refused is held by somebody of higher rank. -/
structure Settled (paths : List String) (count : String → ℕ) : Prop where
  /-- Nobody holds what somebody of higher rank holds. -/
  apart : ∀ p ∈ paths, ∀ q ∈ paths, outranks q p = true →
    candidate q (count q) ≠ candidate p (count p)
  /-- Every refusal is due to somebody of higher rank. -/
  refused : ∀ p ∈ paths, ∀ k < count p,
    ∃ q ∈ paths, outranks q p = true ∧ candidate q (count q) = candidate p k
  /-- There are fewer refusals than paths. -/
  bounded : ∀ p ∈ paths, count p < paths.length

/-- Refusals of a path that is not in a list do not matter to the list. -/
theorem Settled.congr {paths : List String} {count count' : String → ℕ}
    (h : Settled paths count) (heq : ∀ p ∈ paths, count' p = count p) :
    Settled paths count' where
  apart p hp q hq hqp := by
    rw [heq p hp, heq q hq]
    exact h.apart p hp q hq hqp
  refused p hp k hk := by
    rw [heq p hp] at hk
    obtain ⟨q, hq, hqp, hsym⟩ := h.refused p hp k hk
    exact ⟨q, hq, hqp, by rw [heq q hq, hsym]⟩
  bounded p hp := by
    rw [heq p hp]
    exact h.bounded p hp

/-- Somebody who is outranked by all who have chosen takes the first free candidate, and
everybody is content. -/
theorem Settled.concat {paths : List String} {count : String → ℕ} (h : Settled paths count)
    {path : String} (hlast : ∀ q ∈ paths, outranks q path = true)
    (hcount : count path = refusals (paths.map fun q => candidate q (count q)) path) :
    Settled (paths ++ [path]) count := by
  have hlen : (paths ++ [path]).length = paths.length + 1 := by simp
  have hmem : ∀ p, p ∈ paths ++ [path] ↔ p ∈ paths ∨ p = path := by simp
  refine ⟨?_, ?_, ?_⟩
  · intro p hp q hq hqp
    rcases (hmem p).mp hp with hp' | rfl <;> rcases (hmem q).mp hq with hq' | rfl
    · exact h.apart p hp' q hq' hqp
    · rw [outranks_asymm (hlast p hp')] at hqp
      exact absurd hqp (by simp)
    · intro heq
      refine firstFree_notMem (paths.map fun q => candidate q (count q)) p ?_
      rw [firstFree, ← hcount, ← heq]
      exact List.mem_map_of_mem hq'
    · simp at hqp
  · intro p hp k hk
    rcases (hmem p).mp hp with hp | rfl
    · obtain ⟨q, hq, hqp, hsym⟩ := h.refused p hp k hk
      exact ⟨q, (hmem q).mpr (Or.inl hq), hqp, hsym⟩
    · rw [hcount] at hk
      obtain ⟨q, hq, hsym⟩ := List.mem_map.mp (candidate_mem_of_lt hk)
      exact ⟨q, (hmem q).mpr (Or.inl hq), hlast q hq, hsym⟩
  · intro p hp
    rw [hlen]
    rcases (hmem p).mp hp with hp | rfl
    · exact (h.bounded p hp).trans (Nat.lt_succ_self _)
    · rw [hcount, Nat.lt_succ_iff]
      simpa using refusals_le (paths.map fun q => candidate q (count q)) p

/-- Whoever chooses in decreasing rank is content in the end. Induction on those who have not
chosen yet; the numbers of refusals of the others are kept. -/
theorem exists_settled_chooseAfter (later : List String) :
    ∀ (paths : List String) (count : String → ℕ), Settled paths count →
      (paths ++ later).Pairwise (fun a b => outranks a b = true) →
      ∃ count', Settled (paths ++ later) count' ∧
        chooseAfter (paths.map fun p => Request.nth p (count p)) later =
          (paths ++ later).map fun p => Request.nth p (count' p) := by
  induction later with
  | nil =>
      intro paths count h _
      rw [List.append_nil]
      exact ⟨count, h, rfl⟩
  | cons path later ih =>
      intro paths count h hpair
      have happ : paths ++ path :: later = (paths ++ [path]) ++ later := by simp
      have hlast : ∀ q ∈ paths, outranks q path = true := by
        intro q hq
        exact (List.pairwise_append.mp hpair).2.2 q hq path (by simp)
      have hnotMem : path ∉ paths := by
        intro hmem
        have := hlast path hmem
        simp at this
      set next := refusals (paths.map fun q => candidate q (count q)) path with hnext
      have hkeep : ∀ q ∈ paths, Function.update count path next q = count q := by
        intro q hq
        refine Function.update_of_ne ?_ _ _
        rintro rfl
        exact hnotMem hq
      have hmap : ∀ {β : Type} (f : String → ℕ → β),
          (paths.map fun q => f q (Function.update count path next q)) =
            paths.map fun q => f q (count q) := by
        intro β f
        refine List.map_congr_left ?_
        intro q hq
        rw [hkeep q hq]
      have hconcat : Settled (paths ++ [path]) (Function.update count path next) := by
        refine (h.congr hkeep).concat hlast ?_
        rw [hmap, Function.update_self]
      obtain ⟨count', hsettled, heq⟩ := ih (paths ++ [path]) _ hconcat (happ ▸ hpair)
      refine ⟨count', happ ▸ hsettled, ?_⟩
      rw [happ, ← heq, List.map_append, hmap, chooseAfter]
      congr 2
      simp only [List.map_cons, List.map_nil, Function.update_self, List.map_map]
      rfl

/-- The **greedy assignment without the order of choosing**: every path has the first of its
candidates that no path of higher rank has. -/
theorem exists_settled {paths : List String} (h : paths.Nodup) :
    ∃ count, Settled paths count ∧
      (greedy paths).Perm (paths.map fun p => Request.nth p (count p)) := by
  have hperm : (ranked paths).Perm paths := List.mergeSort_perm paths _
  have hnil : Settled [] fun _ => 0 := ⟨by simp, by simp, by simp⟩
  obtain ⟨count, hsettled, heq⟩ :=
    exists_settled_chooseAfter (ranked paths) [] _ hnil (pairwise_ranked h)
  rw [List.nil_append] at hsettled heq
  refine ⟨count, ?_, ?_⟩
  · refine ⟨?_, ?_, ?_⟩
    · intro p hp q hq
      exact hsettled.apart p (hperm.mem_iff.mpr hp) q (hperm.mem_iff.mpr hq)
    · intro p hp k hk
      obtain ⟨q, hq, hqp⟩ := hsettled.refused p (hperm.mem_iff.mpr hp) k hk
      exact ⟨q, hperm.mem_iff.mp hq, hqp⟩
    · intro p hp
      rw [← hperm.length_eq]
      exact hsettled.bounded p (hperm.mem_iff.mpr hp)
  · rw [greedy, show ([] : List Request) = [].map fun p => Request.nth p 0 from rfl, heq]
    exact hperm.map _

end LivePages.Site
