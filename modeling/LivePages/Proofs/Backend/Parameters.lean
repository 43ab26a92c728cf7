import LivePages.Backend.Request
import LivePages.Proofs.Text.Form

/-!
# Parameters of Requests

Whoever writes a link or posts a form escapes names and values as components of a query. A page
finds the value of a name again, in the query of the request as well as in the body.

## Main results

* `parameters_read`: the value of a name is that of the first pair with it.
-/

namespace LivePages.Http.Request

open Text (Form.write)

/-- A body of the type of forms is one. -/
theorem isForm_iff {request : Request} : request.isForm = true ↔
    ∃ type, request.header? "content-type" = some type ∧ formType.toList <+: type.toList := by
  rw [isForm]
  cases request.header? "content-type" with
  | none => simp
  | some type => simp

/-- **The value of a parameter is that of the first pair with its name.** It is none if there is no
such pair. This is so for all texts as names and values, when the pairs are the query of a request,
and when they are the body of a posted form without a query. -/
theorem parameters_read (request : Request) (pairs : List (String × String)) (name : String) :
    (request.query? = some (Form.write pairs) → request.queryParam? name = pairs.lookup name) ∧
      (request.query? = none →
        (∃ type, request.header? "content-type" = some type ∧
          formType.toList <+: type.toList) →
        request.body = Text.Utf8.ofString (Form.write pairs) →
        request.formValue? name = pairs.lookup name) := by
  refine ⟨fun hquery => ?_, fun hquery htype hbody => ?_⟩
  · rw [queryParam?, hquery]
    exact Text.Form.value?_ofString_write pairs name
  · have hnone : request.queryParam? name = none := by rw [queryParam?, hquery]; rfl
    rw [formValue?, hnone, hbody]
    simp only [isForm_iff.mpr htype, if_true, Text.Form.value?_ofString_write]

namespace Sample

/-- Names and values with what separates them, one name twice and one pair of nothing. -/
def pairs : List (String × String) :=
  [("c+d", "50%"), ("a b", "x=1&y"), ("é", ""), ("", ""), ("a b", "z")]

/-- A request with the pairs in its query, and one with the pairs in its body. -/
theorem exists_requests : ∃ asked posted : Request,
    asked.query? = some (Form.write pairs) ∧ posted.query? = none ∧
      posted.header? "content-type" = some "application/x-www-form-urlencoded; charset=utf-8" ∧
      posted.body = Text.Utf8.ofString (Form.write pairs) := by
  have hasked : ∃ r ∈ (build "GET" ("/p.rsp?" ++ Form.write pairs) [] []).toOption,
      r.query? = some (Form.write pairs) := by
    decide +kernel
  have hposted : ∃ r ∈ (build "POST" "/p.rsp" [("Content-Type",
        Text.Utf8.ofString "application/x-www-form-urlencoded; charset=utf-8")]
        (Text.Utf8.ofString (Form.write pairs))).toOption, r.query? = none ∧
      r.header? "content-type" = some "application/x-www-form-urlencoded; charset=utf-8" ∧
      r.body = Text.Utf8.ofString (Form.write pairs) := by
    decide +kernel
  obtain ⟨asked, -, hquery⟩ := hasked
  obtain ⟨posted, -, hposted⟩ := hposted
  exact ⟨asked, posted, hquery, hposted⟩

end Sample

/-- The first of two pairs with a name is found in a query and in a body. -/
theorem parameters_read_twice : ∃ asked posted : Request,
    asked.query? = some (Form.write Sample.pairs) ∧
      asked.queryParam? "a b" = some "x=1&y" ∧ posted.query? = none ∧
      (∃ type, posted.header? "content-type" = some type ∧
        formType.toList <+: type.toList) ∧
      posted.body = Text.Utf8.ofString (Form.write Sample.pairs) ∧
      posted.formValue? "a b" = some "x=1&y" := by
  obtain ⟨asked, posted, hasked, hnone, htype, hbody⟩ := Sample.exists_requests
  have hform : ∃ type, posted.header? "content-type" = some type ∧
      formType.toList <+: type.toList := ⟨_, htype, by decide⟩
  have hlookup : Sample.pairs.lookup "a b" = some "x=1&y" := by decide
  exact ⟨asked, posted, hasked,
    ((parameters_read asked Sample.pairs "a b").1 hasked).trans hlookup, hnone, hform, hbody,
    ((parameters_read posted Sample.pairs "a b").2 hnone hform hbody).trans hlookup⟩

end LivePages.Http.Request
