import WebListener.Http.AccessLog
import WebListener.Proofs.Http.Redirecting
-- What the redirector's answer depends on: the target, and the first Host header if the target has
-- no authority. Everything else that a request says is without effect, except that the answer to
-- HEAD has no body. Applications are handed the head of a request alone, so a body has none either.
namespace WebListener.Http

open Net (Port)

variable {request : Request} {name value : List UInt8} {header : Header}

def firstValue? (name : String) (headers : List (List UInt8 × List UInt8)) : Option (List UInt8) :=
  (headers.find? fun header => (asciiText header.1).toList.map Char.toLower = name.toList).map (·.2)

theorem readHeader_parts (read : readHeader name value = .ok header) :
    header = ⟨.ofList ((asciiText name).toList.map Char.toLower), value⟩ := by
  unfold readHeader at read
  split at read
  · cases read
  · split at read
    · cases read
    · cases read
      rfl

theorem headers_read {raw : List (List UInt8 × List UInt8)} {headers : List Header}
    (read : raw.mapM (fun (name, value) => readHeader name value) = .ok headers) (name : String) :
    (headers.find? (·.name = name)).map (·.value) = firstValue? name raw := by
  induction raw generalizing headers with
  | nil =>
    cases read
    rfl
  | cons first rest ih =>
    rw [List.mapM_cons] at read
    obtain ⟨header, own, read⟩ := bind_ok_iff.mp read
    obtain ⟨later, more, ⟨⟩⟩ := bind_ok_iff.mp read
    have tail := ih more
    have here : header.name = name ↔ (asciiText first.1).toList.map Char.toLower = name.toList := by
      rw [readHeader_parts own]
      rw [← String.toList_inj, String.toList_ofList]
    unfold firstValue? at tail ⊢
    by_cases same : header.name = name
    · rw [List.find?_cons_of_pos (by simpa using same),
        List.find?_cons_of_pos (by simpa using here.mp same), readHeader_parts own]
      rfl
    · rw [List.find?_cons_of_neg (by simpa using same),
        List.find?_cons_of_neg (by simpa using mt here.mpr same), tail]

theorem ofParts_host {parts : RequestParts} (read : Request.ofParts parts = .ok request) :
    request.header? "host" = firstValue? "host" parts.headers := by
  unfold Request.ofParts at read
  obtain ⟨uri, -, read⟩ := bind_ok_iff.mp read
  obtain ⟨method, -, read⟩ := bind_ok_iff.mp read
  obtain ⟨headers, found, read⟩ := bind_ok_iff.mp read
  have same : headers = request.headers := by
    dsimp only at read
    split at read
    · cases read
      rfl
    · split at read
      · cases read
        rfl
      · cases read
  rw [Request.header?, ← same]
  exact headers_read found "host"

theorem host?_same {first second : Request} (target : first.uri = second.uri)
    (host : first.uri.authority? = none → first.header? "host" = second.header? "host") :
    first.host? = second.host? := by
  unfold Request.host?
  rw [← target]
  cases own : first.uri.authority? with
  | some authority => rfl
  | none => rw [host own]

namespace Redirect

def reply (uri : Uri) (host? : Option (List Char)) (port : Port) : Response :=
  match host? with
  | some host => permanent (target host uri port)
  | none => missingHost

theorem application_reply (request : Request) (port : Port) :
    (application port request).response =
      (reply request.uri request.host? port).answering request := by
  unfold application reply
  cases request.host? with
  | some host => rfl
  | none => rfl

end Redirect

theorem around_response (application : Application) (enabled : Bool) (request : Request) :
    (AccessLog.around application enabled request).response = (application request).response := by
  unfold AccessLog.around
  split <;> rfl

theorem answering_body {first second : Request} (response : Response)
    (methods : first.method = "HEAD" ↔ second.method = "HEAD") :
    (response.answering first).body = (response.answering second).body := by
  unfold Response.answering
  simp only [methods]

open Redirect in
theorem redirector_heeds_target_and_host {first second : RequestParts} {left right : Request}
    (accepted : Request.ofParts first = .ok left) (other : Request.ofParts second = .ok right)
    (target : left.uri = right.uri)
    (host : left.uri.authority? ≠ none ∨
      firstValue? "host" first.headers = firstValue? "host" second.headers)
    (port : Port) (logged alsoLogged : Bool) :
    let answer := (AccessLog.around (application port) logged left).response
    let further := (AccessLog.around (application port) alsoLogged right).response
    answer.status = further.status ∧ answer.headers = further.headers ∧
      ((left.method = "HEAD" ↔ right.method = "HEAD") → answer.body = further.body) := by
  have named : left.host? = right.host? := by
    apply host?_same target
    intro without
    rcases host with own | same
    · exact absurd without own
    · rw [ofParts_host accepted, ofParts_host other, same]
  have unmoved : reply right.uri right.host? port = reply left.uri left.host? port := by
    rw [target, named]
  dsimp only
  rw [around_response, around_response, application_reply, application_reply, unmoved]
  obtain ⟨status, headers, -⟩ := answering_parts (reply left.uri left.host? port) left
  obtain ⟨sameStatus, sameHeaders, -⟩ := answering_parts (reply left.uri left.host? port) right
  refine ⟨status.trans sameStatus.symm, headers.trans sameHeaders.symm, ?_⟩
  exact answering_body (reply left.uri left.host? port)

def forwarded : RequestParts :=
  ⟨Text.utf8 "POST", Text.utf8 "/a?b", .v11,
    [(Text.utf8 "X-Forwarded-Host", Text.utf8 "other.example"), (Text.utf8 "HOST", Text.utf8 "[::1]:80")],
    none⟩

def probed : RequestParts :=
  ⟨Text.utf8 "HEAD", Text.utf8 "/a?b", .v10,
    [(Text.utf8 "hOsT", Text.utf8 "[::1]:80"), (Text.utf8 "host", Text.utf8 "other.example")],
    some "127.0.0.1:9"⟩

open Redirect in
theorem forwarded_and_probed_alike :
    ∃ left right, Request.ofParts forwarded = .ok left ∧ Request.ofParts probed = .ok right ∧
      left ≠ right ∧
      (AccessLog.around (application 8443) true left).response.headers =
        (AccessLog.around (application 8443) false right).response.headers := by
  have accepted : Request.ofParts forwarded = .ok ⟨"POST", .path ⟨"/a".toList, some "b".toList⟩, .v11,
      [⟨"x-forwarded-host", Text.utf8 "other.example"⟩, ⟨"host", Text.utf8 "[::1]:80"⟩], none⟩ :=
    ok_of_toOption (by decide +kernel)
  have other : Request.ofParts probed = .ok ⟨"HEAD", .path ⟨"/a".toList, some "b".toList⟩, .v10,
      [⟨"host", Text.utf8 "[::1]:80"⟩, ⟨"host", Text.utf8 "other.example"⟩],
      some ⟨.v4 ⟨127, 0, 0, 1⟩, 9⟩⟩ :=
    ok_of_toOption (by decide +kernel)
  have host : firstValue? "host" forwarded.headers = firstValue? "host" probed.headers := by
    decide +kernel
  refine ⟨_, _, accepted, other, by decide, ?_⟩
  exact (redirector_heeds_target_and_host accepted other rfl (.inr host) 8443 true false).2.1

end WebListener.Http
