import Mathlib.Data.List.Basic
import LivePages.Http.Uri
import LivePages.Proofs.Except

/-!
# Targets

A target that is put together from an authority, a path and a query, or only from the last two, is
taken apart into these again, and the query of any target may be the query of another one.

## Main results

* `splitAuthority_append`: an authority ends where the path begins.
* `isQueryChar_of_mem_query`: the characters of a query.
* `parse_origin`, `parse_absolute`: a target is taken apart, if it is not too long.
-/

namespace LivePages.Http.Uri

/-- A test that holds up to a place and fails there. -/
theorem takeWhile_append {α : Type} {p : α → Bool} {s rest : List α} (hs : ∀ a ∈ s, p a = true)
    (hrest : ∀ a ∈ rest.head?, p a = false) : (s ++ rest).takeWhile p = s := by
  have hstop : rest.takeWhile p = [] := by
    cases rest with
    | nil => rfl
    | cons a rest => exact List.takeWhile_cons_of_neg (by simp [hrest a rfl])
  rw [List.takeWhile_append_of_pos hs, hstop, List.append_nil]

/-! ### Authorities -/

/-- The text is an authority and nothing else. -/
def IsAuthority (text : String) : Prop :=
  splitAuthority text.toList = .ok (text.toList, [])

/-- What is known about a whole authority allows it. -/
def IsAllowed (authority : List Char) : Prop :=
  ∃ s : AuthorityState, authority.foldlM AuthorityState.read {} = .ok s ∧
    (s.opened != s.closed || s.colons > 1 || authority.getLast? = some '@' || s.percent) = false

/-- How a text splits that begins with an authority. -/
theorem splitAuthority_eq_ok_iff {text authority rest : List Char} :
    splitAuthority text = .ok (authority, rest) ↔
      text ≠ [] ∧ authority = text.takeWhile (fun c => !endsAuthority c) ∧
        rest = text.drop authority.length ∧ IsAllowed authority := by
  unfold splitAuthority
  dsimp only
  rw [ite_throw_eq_ok_iff, bind_eq_ok_iff]
  simp only [ite_throw_eq_ok_iff, List.isEmpty_iff, Bool.not_eq_true, pure, Except.pure,
    Except.ok.injEq, Prod.mk.injEq]
  constructor
  · rintro ⟨hne, s, hs, hcheck, rfl, rfl⟩
    exact ⟨hne, rfl, rfl, s, hs, hcheck⟩
  · rintro ⟨hne, rfl, rfl, s, hs, hcheck⟩
    exact ⟨hne, s, hs, hcheck, rfl, rfl⟩

/-- An authority ends where the path begins. -/
theorem splitAuthority_append {text : String} (h : IsAuthority text) {rest : List Char}
    (hrest : rest.head? = some '/') :
    splitAuthority (text.toList ++ rest) = .ok (text.toList, rest) := by
  obtain ⟨hne, htake, -, hallowed⟩ := splitAuthority_eq_ok_iff.mp h
  have hall : ∀ c ∈ text.toList, (!endsAuthority c) = true := by
    rw [htake]
    exact List.all_eq_true.mp List.all_takeWhile
  have hend : ∀ c ∈ rest.head?, (!endsAuthority c) = false := by
    intro c hc
    obtain rfl := Option.some.inj (hrest.symm.trans hc)
    rfl
  exact splitAuthority_eq_ok_iff.mpr
    ⟨by simp [hne], (takeWhile_append hall hend).symm, by simp, hallowed⟩

/-- The character shows and is ASCII. -/
def IsVisible (c : Char) : Prop :=
  0x20 < c.toNat ∧ c.toNat < 0x7F

instance (c : Char) : Decidable (IsVisible c) :=
  inferInstanceAs (Decidable (_ ∧ _))

theorem isVisible_of_isAlphanum {c : Char} (h : c.isAlphanum = true) : IsVisible c := by
  have hrange : ((decide ('A'.val ≤ c.val ∧ c.val ≤ 'Z'.val) ||
      (decide ('a'.val ≤ c.val) && decide (c.val ≤ 'z'.val))) ||
      (decide ('0'.val ≤ c.val) && decide (c.val ≤ '9'.val))) = true := h
  simp only [Bool.or_eq_true, Bool.and_eq_true, decide_eq_true_eq, UInt32.le_iff_toNat_le]
    at hrange
  have hval : c.val.toNat = c.toNat := rfl
  rw [hval] at hrange
  simp at hrange
  unfold IsVisible
  omega

theorem isVisible_of_isAuthorityChar {c : Char} (h : isAuthorityChar c = true) :
    IsVisible c := by
  rw [isAuthorityChar, Bool.or_eq_true] at h
  rcases h with h | h
  · exact isVisible_of_isAlphanum h
  · have hlist : "!$&'()*+,-.:;=@[]_~".toList.all (IsVisible ·) = true := by decide
    exact of_decide_eq_true (List.all_eq_true.mp hlist c (List.contains_iff_mem.mp h))

/-- What is read of an authority is visible. -/
theorem AuthorityState.isVisible_of_read {s s' : AuthorityState} {c : Char}
    (h : s.read c = .ok s') : IsVisible c := by
  by_cases hpercent : c = '%'
  · subst hpercent
    exact ⟨by decide, by decide⟩
  · by_cases hc : isAuthorityChar c = true
    · exact isVisible_of_isAuthorityChar hc
    · -- the marks that are looked for are such characters, so none of them is read
      have hmark (d : Char) (hd : isAuthorityChar d = true) : c ≠ d := by
        rintro rfl
        exact hc hd
      rw [AuthorityState.read, if_neg (hmark ':' rfl), if_neg (hmark '[' rfl),
        if_neg (hmark ']' rfl), if_neg (hmark '@' rfl), if_neg hpercent, if_neg hc] at h
      exact absurd h (by simp)

theorem isVisible_of_foldlM_read {authority : List Char} {s s' : AuthorityState}
    (h : authority.foldlM AuthorityState.read s = .ok s') : ∀ c ∈ authority, IsVisible c := by
  induction authority generalizing s with
  | nil => exact fun c hc => absurd hc List.not_mem_nil
  | cons d rest ih =>
      rw [List.foldlM_cons, bind_eq_ok_iff] at h
      obtain ⟨t, ht, hrest⟩ := h
      intro c hc
      rcases List.mem_cons.mp hc with rfl | hc
      · exact AuthorityState.isVisible_of_read ht
      · exact ih hrest c hc

/-- An authority is visible. -/
theorem IsAuthority.isVisible {text : String} (h : IsAuthority text) :
    ∀ c ∈ text.toList, IsVisible c := by
  obtain ⟨-, -, -, s, hs, -⟩ := splitAuthority_eq_ok_iff.mp h
  exact isVisible_of_foldlM_read hs

/-! ### Paths and queries -/

/-- A query with its mark, or nothing. -/
def queryText : Option (List Char) → List Char
  | none => []
  | some query => '?' :: query

/-- A path and a query are taken apart again. -/
theorem parsePath_append {path : List Char} {query : Option (List Char)}
    (hpath : ∀ c ∈ path, isPathChar c = true)
    (hquery : ∀ q ∈ query, ∀ c ∈ q, isQueryChar c = true) :
    parsePath (path ++ queryText query) = .ok (path, query) := by
  have hmark : ∀ c ∈ path, decide (c ≠ '?' ∧ c ≠ '#') = true := by
    intro c hc
    refine decide_eq_true ⟨?_, ?_⟩ <;> rintro rfl <;> exact absurd (hpath _ hc) (by decide)
  have hend : ∀ c ∈ (queryText query).head?, decide (c ≠ '?' ∧ c ≠ '#') = false := by
    cases query with
    | none => exact fun c hc => absurd hc (by simp [queryText])
    | some q =>
        intro c hc
        obtain rfl := Option.some.inj hc
        rfl
  have htake := takeWhile_append hmark hend
  have hall : path.all isPathChar = true := List.all_eq_true.mpr hpath
  simp only [parsePath, htake, hall, List.drop_left]
  cases query with
  | none => rfl
  | some q =>
      have hchars := hquery q rfl
      have hwhole : q.takeWhile (fun c => decide (c ≠ '#')) = q := by
        have hfragment : ∀ c ∈ q, decide (c ≠ '#') = true := by
          intro c hc
          refine decide_eq_true ?_
          rintro rfl
          exact absurd (hchars _ hc) (by decide)
        have h : (q ++ []).takeWhile (fun c => decide (c ≠ '#')) = q :=
          takeWhile_append hfragment (by simp)
        rwa [List.append_nil] at h
      simp only [queryText, hwhole, List.all_eq_true.mpr hchars]
      rfl

/-- The query that is found consists of its characters. -/
theorem isQueryChar_of_parsePath {text path : List Char} {query : Option (List Char)}
    (h : parsePath text = .ok (path, query)) : ∀ q ∈ query, ∀ c ∈ q, isQueryChar c = true := by
  simp only [parsePath] at h
  split at h
  · exact absurd h (by simp)
  · split at h
    · split at h
      · next hall =>
        obtain ⟨-, rfl⟩ := Prod.mk.inj (Except.ok.inj h)
        intro q hq
        obtain rfl := Option.some.inj hq
        exact List.all_eq_true.mp hall
      · exact absurd h (by simp)
    · obtain ⟨-, rfl⟩ := Prod.mk.inj (Except.ok.inj h)
      exact fun q hq => absurd hq (by simp)

theorem isQueryChar_of_ofPath {scheme : Option String} {authority text : List Char} {uri : Uri}
    (h : ofPath scheme authority text = .ok uri) :
    ∀ q ∈ uri.query, ∀ c ∈ q.toList, isQueryChar c = true := by
  obtain ⟨⟨path, query⟩, hparse, huri⟩ := bind_eq_ok_iff.mp h
  obtain rfl := Except.ok.inj huri
  intro q hq c hc
  obtain ⟨chars, hchars, rfl⟩ := Option.map_eq_some_iff.mp hq
  rw [String.toList_ofList] at hc
  exact isQueryChar_of_parsePath hparse chars hchars c hc

/-- A target that is only an authority has no query. -/
theorem query_eq_none_of_bare {rest : List Char} {bare uri : Uri} {e : UriError}
    (hbare : bare.query = none)
    (h : (if rest.isEmpty then pure bare else throw e : Except UriError Uri) = .ok uri) :
    uri.query = none := by
  split at h
  · obtain rfl := Except.ok.inj h
    exact hbare
  · exact absurd (show Except.error e = Except.ok uri from h) (by simp)

/-- **The characters of a query.** -/
theorem isQueryChar_of_mem_query {text : String} {uri : Uri} (h : parse text = .ok uri) :
    ∀ q ∈ uri.query, ∀ c ∈ q.toList, isQueryChar c = true := by
  have hnone (hquery : uri.query = none) : ∀ q ∈ uri.query, ∀ c ∈ q.toList,
      isQueryChar c = true := fun q hq => absurd (hquery.symm.trans hq) (by simp)
  rw [parse] at h
  split at h
  · exact absurd h (by simp)
  · split at h
    · exact absurd h (by simp)
    · obtain rfl := Except.ok.inj h
      exact hnone rfl
    · exact isQueryChar_of_ofPath h
    · obtain ⟨⟨_, rest⟩, -, hrest⟩ := bind_eq_ok_iff.mp h
      exact hnone (query_eq_none_of_bare rfl hrest)
    · obtain ⟨found, -, hfound⟩ := bind_eq_ok_iff.mp h
      cases found with
      | none =>
          obtain ⟨⟨_, rest⟩, -, hrest⟩ := bind_eq_ok_iff.mp hfound
          exact hnone (query_eq_none_of_bare rfl hrest)
      | some found =>
          obtain ⟨⟨authority, rest⟩, -, hrest⟩ := bind_eq_ok_iff.mp hfound
          dsimp only at hrest
          split at hrest
          · exact absurd (show Except.error _ = Except.ok uri from hrest) (by simp)
          · exact isQueryChar_of_ofPath hrest

/-! ### Targets -/

/-- A target of a path and a query is taken apart, if it is not too long. -/
theorem parse_origin {path : List Char} {query : Option (List Char)}
    (hslash : path.head? = some '/') (hpath : ∀ c ∈ path, isPathChar c = true)
    (hquery : ∀ q ∈ query, ∀ c ∈ q, isQueryChar c = true) {text : String}
    (htext : text.toList = path ++ queryText query) (hshort : text.utf8ByteSize ≤ limit) :
    parse text =
      .ok { writtenPath := String.ofList path, query := query.map String.ofList } := by
  have hpaths := parsePath_append hpath hquery
  obtain ⟨rest, rfl⟩ := List.head?_eq_some_iff.mp hslash
  rw [parse, if_neg (Nat.not_lt.mpr hshort), htext]
  exact bind_eq_ok_iff.mpr ⟨_, hpaths, rfl⟩

theorem splitScheme_http (rest : List Char) :
    splitScheme ("http://".toList ++ rest) = .ok (some ("http", rest)) := by
  rfl

/-- **An absolute target is taken apart**, if it is not too long. -/
theorem parse_absolute {addr : String} (haddr : IsAuthority addr) {path : List Char}
    {query : Option (List Char)} (hslash : path.head? = some '/')
    (hpath : ∀ c ∈ path, isPathChar c = true)
    (hquery : ∀ q ∈ query, ∀ c ∈ q, isQueryChar c = true) {text : String}
    (htext : text.toList = "http://".toList ++ (addr.toList ++ (path ++ queryText query))) :
    parse text =
      if text.utf8ByteSize > limit then .error .tooLong
      else .ok ⟨some "http", addr, String.ofList path, query.map String.ofList⟩ := by
  have hhead : (path ++ queryText query).head? = some '/' :=
    List.head?_append_of_ne_nil path (by rintro rfl; simp at hslash) |>.trans hslash
  have hne : addr.toList.isEmpty = false := by
    obtain ⟨hne, -⟩ := splitAuthority_eq_ok_iff.mp haddr
    simpa using hne
  have hsplit := splitAuthority_append haddr hhead
  have hpaths := parsePath_append hpath hquery
  have hfull : parseFull text.toList =
      .ok ⟨some "http", addr, String.ofList path, query.map String.ofList⟩ := by
    rw [htext, parseFull, splitScheme_http]
    simp only [bind, Except.bind, hsplit, hne, ofPath, hpaths, pure, Except.pure,
      String.ofList_toList]
    rfl
  rw [parse]
  split
  · rfl
  · rw [← hfull, htext]
    rfl

end LivePages.Http.Uri
