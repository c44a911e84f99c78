import SupplierGateway.Proofs.Call.Exchange

/-!
# Records without a header or a body

Concealing a header replaces its value by a fixed text.  Redaction conceals the header by itself iff
its name is sensitive.  The body of a request in the authentication phase is redacted as well.

* `Headers.conceal`, `Request.conceal` and `CallRecord.conceal` — the value of a header is
  concealed;
* `Headers.conceal_insert` — the result does not depend on the value of the header;
* `callRecord_conceal` — records of requests that differ in the header differ in nothing else;
* `callRecord_eq_of_isSensitive` — they are equal when the name is sensitive;
* `Request.concealBody` and `callRecord_eq_of_auth` — so are records of requests for authentication
  that differ in the texts of their bodies.
-/

namespace SupplierGateway

namespace Http
namespace Headers

theorem eq_of_entries {h h' : Headers} (hentries : h.entries = h'.entries) : h = h' := by
  cases h
  cases h'
  obtain rfl := hentries
  rfl

/-- Setting a header commutes with changing all values. -/
theorem mapValues_insert (f : String → String → String) (h : Headers) (name value : String) :
    (h.insert name value).mapValues f = (h.mapValues f).insert name (f name value) := by
  refine eq_of_entries ?_
  obtain ⟨entries, hascending⟩ := h
  simp only [insert, mapValues]
  clear hascending
  induction entries with
  | nil => rfl
  | cons entry rest ih =>
      obtain ⟨k, v⟩ := entry
      simp only [insertEntry, List.map_cons]
      split
      · rfl
      · split
        · rfl
        · rw [List.map_cons, ih]

/-- The headers with the value of one of them concealed. -/
def conceal (name : String) (h : Headers) : Headers :=
  h.mapValues fun other value => if other = name then Audit.redacted else value

/-- Concealed headers do not depend on the value of the concealed one. -/
theorem conceal_insert (h : Headers) (name value value' : String) :
    (h.insert name value).conceal name = (h.insert name value').conceal name := by
  rw [conceal, mapValues_insert, conceal, mapValues_insert, if_pos rfl, if_pos rfl]

end Headers

/-- A request with the value of one header concealed. -/
def Request.conceal (name : String) (q : Request) : Request :=
  { q with headers := q.headers.conceal name }

/-- A request with the text of its body concealed. -/
def Request.concealBody (q : Request) : Request :=
  { q with body := q.body.map fun _ => Audit.redacted }

end Http

namespace Audit

open Http (Headers)

/-- A record with the value of one header of its request concealed. -/
def CallRecord.conceal (name : String) (r : CallRecord) : CallRecord :=
  { r with request := { r.request with headers := r.request.headers.conceal name } }

/-- Concealing commutes with redacting. -/
theorem conceal_redactHeaders (name : String) (h : Headers) :
    (redactHeaders h).conceal name = redactHeaders (h.conceal name) := by
  refine Headers.eq_of_entries ?_
  simp only [Headers.conceal, redactHeaders, Headers.mapValues, List.map_map]
  refine List.map_congr_left fun entry _ => ?_
  simp only [Function.comp_apply]
  split
  · split <;> rfl
  · rfl

/-- Concealing a header that is redacted changes nothing. -/
theorem redactHeaders_conceal {name : String} (hsensitive : isSensitive name = true) (h : Headers) :
    redactHeaders (h.conceal name) = redactHeaders h := by
  refine Headers.eq_of_entries ?_
  simp only [Headers.conceal, redactHeaders, Headers.mapValues, List.map_map]
  refine List.map_congr_left fun entry _ => ?_
  simp only [Function.comp_apply]
  by_cases hname : entry.1 = name
  · rw [hname, hsensitive, if_pos rfl, if_pos rfl]
  · rw [if_neg hname]

end Audit

namespace Call

open Http (Request)
open Interceptor (callRecord)

variable {name : String} {q q' : Request}

theorem requestKey_eq_of_conceal (hrequest : q.conceal name = q'.conceal name) :
    requestKey q = requestKey q' := by
  have hkeys : requestKey (q.conceal name) = requestKey (q'.conceal name) :=
    congrArg requestKey hrequest
  exact hkeys

theorem requestKey_eq_of_concealBody (hrequest : q.concealBody = q'.concealBody) :
    requestKey q = requestKey q' := by
  have hkeys : requestKey q.concealBody = requestKey q'.concealBody := congrArg requestKey hrequest
  exact hkeys

/-- Records of requests that differ in a header differ in nothing else. -/
theorem callRecord_conceal (hrequest : q.conceal name = q'.conceal name) (ctx : Context)
    (startMs endMs : Nat) (response : Option Audit.RecordedResponse) (error : Option String) :
    (callRecord ctx { request := q, clockMs := startMs } endMs response error).conceal name =
      (callRecord ctx { request := q', clockMs := startMs } endMs response error).conceal name := by
  obtain ⟨method, url, headers, body, timeoutMs⟩ := q
  obtain ⟨method', url', headers', body', timeoutMs'⟩ := q'
  obtain ⟨rfl, rfl, hheaders, rfl, rfl⟩ := Request.mk.inj hrequest
  simp only [callRecord, Audit.CallRecord.conceal, Audit.RecordedRequest.of,
    Audit.conceal_redactHeaders]
  rw [hheaders]

/-- Records of requests that differ in a header with a sensitive name are equal. -/
theorem callRecord_eq_of_isSensitive (hsensitive : Audit.isSensitive name = true)
    (hrequest : q.conceal name = q'.conceal name) (ctx : Context) (startMs endMs : Nat)
    (response : Option Audit.RecordedResponse) (error : Option String) :
    callRecord ctx { request := q, clockMs := startMs } endMs response error =
      callRecord ctx { request := q', clockMs := startMs } endMs response error := by
  obtain ⟨method, url, headers, body, timeoutMs⟩ := q
  obtain ⟨method', url', headers', body', timeoutMs'⟩ := q'
  obtain ⟨rfl, rfl, hheaders, rfl, rfl⟩ := Request.mk.inj hrequest
  simp only [callRecord, Audit.RecordedRequest.of]
  rw [← Audit.redactHeaders_conceal hsensitive headers, hheaders,
    Audit.redactHeaders_conceal hsensitive]

/-- Records of requests for authentication that differ in the texts of their bodies are equal. -/
theorem callRecord_eq_of_auth {ctx : Context} (hphase : ctx.phase = .auth)
    (hrequest : q.concealBody = q'.concealBody) (startMs endMs : Nat)
    (response : Option Audit.RecordedResponse) (error : Option String) :
    callRecord ctx { request := q, clockMs := startMs } endMs response error =
      callRecord ctx { request := q', clockMs := startMs } endMs response error := by
  obtain ⟨method, url, headers, body, timeoutMs⟩ := q
  obtain ⟨method', url', headers', body', timeoutMs'⟩ := q'
  obtain ⟨rfl, rfl, rfl, hbody, rfl⟩ := Request.mk.inj hrequest
  simp only [callRecord, Audit.RecordedRequest.of, hphase, if_true]
  rw [hbody]

end Call
end SupplierGateway
