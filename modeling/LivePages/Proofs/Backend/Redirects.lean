import LivePages.Backend.Reply
import LivePages.Proofs.Text.Utf8

/-!
# Redirects

A page sends its reader elsewhere by the status 302 and a header with the location. The status comes
first, and a location that is no legal header value is then left out. So a redirect that is refused
is not without effect: the reply keeps its headers and what is printed, but has the status of a
redirect, to nowhere or to where a location was set before. A redirect is all or nothing exactly if
its location is legal or the reply had that status already.

What is legal is said of characters: controls are not, but for the tab. That a redirect with another
location never counts as one needs that all headers of a reply are legal, which every operation of a
page keeps.

## Main results

* `isHeaderValue_ofString_iff`: the texts that are legal header values.
* `Reply.legal_afterAll`: the headers of a reply are legal, whatever the page does.
* `redirect_whole_iff`: what a redirect does, and when it is all or nothing.
* `redirect_halfway`: a redirect to a location with a line feed.
-/

namespace LivePages.Http

/-- The text has no control character but the tab. -/
def IsHeaderText (text : String) : Prop :=
  ∀ c ∈ text.toList, c = '\t' ∨ 0x20 ≤ c.toNat ∧ c.toNat ≠ 0x7F

theorem isHeaderByte_iff {b : UInt8} :
    isHeaderByte b = true ↔ b.toNat = 0x09 ∨ 0x20 ≤ b.toNat ∧ b.toNat ≠ 0x7F := by
  have hspace : 0x20 ≤ b ↔ 0x20 ≤ b.toNat := UInt8.le_iff_toNat_le
  have hdelete : b = 0x7F ↔ b.toNat = 0x7F := UInt8.toNat_inj.symm
  have htab : b = 0x09 ↔ b.toNat = 0x09 := UInt8.toNat_inj.symm
  simp [isHeaderByte, hspace, hdelete, htab, or_comm]

/-- Controls and no other characters have bytes that a header value must not have. -/
theorem forall_isHeaderByte_iff {c : Char} :
    (∀ b ∈ String.utf8EncodeChar c, isHeaderByte b = true) ↔
      c = '\t' ∨ 0x20 ≤ c.toNat ∧ c.toNat ≠ 0x7F := by
  have htab : c = '\t' ↔ c.toNat = 0x09 := Char.toNat_inj.symm
  rw [htab]
  constructor
  · intro h
    by_cases hascii : c.toNat ≤ 0x7F
    · have hbyte := h (UInt8.ofNat c.toNat) (by simp [Text.Utf8.utf8EncodeChar_of_le hascii])
      rwa [isHeaderByte_iff, UInt8.toNat_ofNat_of_lt' (Nat.lt_of_le_of_lt hascii (by decide))]
        at hbyte
    · omega
  · intro h b hb
    rw [isHeaderByte_iff]
    by_cases hlow : b.toNat < 0x80
    · rwa [← Text.Utf8.toNat_of_mem_utf8EncodeChar hlow hb]
    · omega

/-- **A text is a legal header value if it has no controls but tabs.** -/
theorem isHeaderValue_ofString_iff {text : String} :
    isHeaderValue (Text.Utf8.ofString text) = true ↔ IsHeaderText text := by
  rw [isHeaderValue, List.all_eq_true, Text.Utf8.ofString, Text.Utf8.encode, IsHeaderText]
  simp only [List.mem_flatMap, forall_exists_index, and_imp]
  constructor
  · exact fun h c hc => forall_isHeaderByte_iff.mp fun b hb => h b c hc hb
  · exact fun h b c hc hb => forall_isHeaderByte_iff.mpr (h c hc) b hb

namespace Headers

variable {headers : Headers} {name : String} {value : List UInt8}

/-- The fields of a name. -/
def named (headers : Headers) (name : String) : Headers :=
  headers.filter fun f => f.name == name

/-- A name that is given a value has that one. -/
theorem named_replace (headers : Headers) (name : String) (value : List UInt8) :
    (headers.replace name value).named name = [⟨name, value⟩] := by
  induction headers with
  | nil => simp [replace, add, named]
  | cons f headers ih =>
      rw [replace]
      split
      · next hany =>
        by_cases hf : f.name = name
        · simp [hf, named, List.filter_filter]
        · simp only [named] at ih ⊢
          simp [hf, ih]
      · next hnone =>
        simp only [List.any_eq_true, not_exists, not_and, Bool.not_eq_true] at hnone
        have hempty : (f :: headers).filter (fun g => g.name == name) = [] :=
          List.filter_eq_nil_iff.mpr fun g hg => by simp [hnone g hg]
        rw [named, add, List.filter_append, hempty]
        simp

/-- A header that is given a value is the only one that is new. -/
theorem mem_replace {f : Field} (h : f ∈ headers.replace name value) :
    f = ⟨name, value⟩ ∨ f ∈ headers := by
  induction headers with
  | nil => simpa [replace, add] using h
  | cons g headers ih =>
      rw [replace] at h
      split at h
      · by_cases hg : g.name = name
        · simp only [hg, beq_self_eq_true, if_true, List.mem_cons, List.mem_filter] at h
          exact h.imp_right fun hmem => List.mem_cons_of_mem g hmem.1
        · simp only [beq_iff_eq, hg, if_false, List.mem_cons] at h
          rcases h with rfl | h
          · exact .inr List.mem_cons_self
          · exact (ih h).imp_right (List.mem_cons_of_mem g)
      · rw [add, List.mem_append, List.mem_singleton] at h
        exact h.symm

end Headers

end LivePages.Http

namespace LivePages.Backend

open Http (IsHeaderText)

/-! ### What pages do -/

/-- What a page does to its reply. -/
inductive Operation where
  | print (text : String)
  | clear
  | setStatus (code : ℕ)
  | setHeader (name value : String)
  | redirect (location : String)

namespace Reply

/-- The reply after one operation. -/
def after (reply : Reply) : Operation → Reply
  | .print text => reply.print text
  | .clear => reply.clear
  | .setStatus code => reply.setStatus code
  | .setHeader name value => reply.setHeader name value
  | .redirect location => reply.redirect location

/-- The reply of a page after some operations. -/
def afterAll (operations : List Operation) : Reply :=
  operations.foldl after {}

/-- All headers have legal values. -/
def Legal (reply : Reply) : Prop :=
  ∀ f ∈ reply.headers, Http.isHeaderValue f.value = true

/-- The reply sends its reader to a location: it has the status, and this location and no other. -/
def SendsTo (reply : Reply) (location : String) : Prop :=
  reply.status = 302 ∧
    reply.headers.named "location" = [⟨"location", Text.Utf8.ofString location⟩]

/-- The two replies have the same status, headers and output. -/
def SameAs (reply other : Reply) : Prop :=
  reply.status = other.status ∧ reply.headers = other.headers ∧ reply.body = other.body

/-! ### One operation -/

theorem legal_setHeader {reply : Reply} (h : reply.Legal) (name value : String) :
    (reply.setHeader name value).Legal := by
  rw [setHeader]
  split
  · next hvalue =>
    intro f hf
    rcases Http.Headers.mem_replace hf with rfl | hf
    · exact hvalue
    · exact h f hf
  · exact h

/-- Every operation keeps the headers legal. -/
theorem legal_after {reply : Reply} (h : reply.Legal) (operation : Operation) :
    (reply.after operation).Legal := by
  cases operation with
  | print | clear | setStatus => exact h
  | setHeader name value => exact legal_setHeader h name value
  | redirect location =>
      have hstatus : (reply.setStatus 302).Legal := h
      exact legal_setHeader hstatus "location" location

/-- **The headers of a reply are legal**, whatever the page does. -/
theorem legal_afterAll (operations : List Operation) : (afterAll operations).Legal := by
  have hstart : ({} : Reply).Legal := by
    intro f hf
    rw [List.mem_singleton.mp hf]
    decide +kernel
  exact List.foldlRecOn operations after hstart fun reply h operation _ => legal_after h operation

/-- What is reported of a location that is refused. -/
def refusal (location : String) : Log.Line :=
  Log.warn ("Ignoring invalid header location: " ++ Text.Quoted.quote location)

/-- What a redirect does: the status is changed whatever the location. -/
theorem redirect_eq (reply : Reply) (location : String) :
    reply.redirect location =
      if Http.isHeaderValue (Text.Utf8.ofString location) then
        { reply with
          status := 302
          headers := reply.headers.replace "location" (Text.Utf8.ofString location) }
      else { reply with status := 302, log := reply.log ++ [refusal location] } := by
  have hname : Http.headerName? "location" = some "location" := by decide +kernel
  rw [redirect, setHeader, hname]
  by_cases hlegal : Http.isHeaderValue (Text.Utf8.ofString location) = true
  · rw [if_pos hlegal, hlegal]
    rfl
  · rw [if_neg hlegal, Bool.eq_false_iff.mpr hlegal]
    rfl

end Reply

/-! ### Redirects -/

/-- **A redirect, whatever the page did before.** It sends the reader to its location exactly if the
location has no controls but tabs. Otherwise it changes the status all the same, and nothing else
but the log. So it is all or nothing exactly if its location is legal or the reply had the status of
a redirect already. -/
theorem redirect_whole_iff (operations : List Operation) (location : String) :
    let before := Reply.afterAll operations
    let reply := before.redirect location
    (reply.SendsTo location ↔ IsHeaderText location) ∧
    (reply = { before with status := 302, log := before.log ++ [Reply.refusal location] } ↔
      ¬ IsHeaderText location) ∧
    ((reply.SendsTo location ∨ ¬ IsHeaderText location ∧ reply.SameAs before) ↔
      IsHeaderText location ∨ before.status = 302) := by
  intro before reply
  have hreply : reply = _ := Reply.redirect_eq before location
  by_cases hlegal : IsHeaderText location
  · rw [if_pos (Http.isHeaderValue_ofString_iff.mpr hlegal)] at hreply
    have hsends : reply.SendsTo location := by
      rw [hreply]
      exact ⟨rfl, Http.Headers.named_replace _ _ _⟩
    have hlog : before.log ≠ before.log ++ [Reply.refusal location] := by simp
    refine ⟨iff_of_true hsends hlegal, iff_of_false (fun heq => hlog ?_) (not_not.mpr hlegal),
      iff_of_true (.inl hsends) (.inl hlegal)⟩
    rw [hreply] at heq
    exact congrArg Reply.log heq
  · rw [if_neg (mt Http.isHeaderValue_ofString_iff.mp hlegal)] at hreply
    -- the value would be among the headers of the page, which are all legal
    have hsends : ¬ reply.SendsTo location := by
      rw [hreply]
      rintro ⟨-, hnamed⟩
      have hmem : (⟨"location", Text.Utf8.ofString location⟩ : Http.Field) ∈ before.headers :=
        List.mem_of_mem_filter (hnamed ▸ List.mem_singleton_self _)
      exact hlegal (Http.isHeaderValue_ofString_iff.mp (Reply.legal_afterAll operations _ hmem))
    have hsame : reply.SameAs before ↔ before.status = 302 := by
      rw [hreply]
      exact ⟨fun h => h.1.symm, fun h => ⟨h.symm, rfl, rfl⟩⟩
    refine ⟨iff_of_false hsends hlegal, iff_of_true hreply hlegal, ?_⟩
    simp [hsends, hlegal, hsame]

/-- **A redirect to a location with a line feed is done by half**: the reply has the status of a
redirect, and no location. -/
theorem redirect_halfway :
    (({} : Reply).redirect "/a\nb").status = 302 ∧
    (({} : Reply).redirect "/a\nb").headers.named "location" = [] ∧
    ¬ ∀ operations location, ((Reply.afterAll operations).redirect location).SendsTo location ∨
      ¬ IsHeaderText location ∧
        ((Reply.afterAll operations).redirect location).SameAs (Reply.afterAll operations) := by
  refine ⟨by decide +kernel, by decide +kernel, fun h => ?_⟩
  rcases h [] "/a\nb" with ⟨-, hnamed⟩ | ⟨-, hstatus, -⟩
  · exact absurd hnamed (by decide +kernel)
  · exact absurd hstatus (by decide +kernel)

end LivePages.Backend
