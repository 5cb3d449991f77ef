import WebListener.Proofs.Http.Hosts
import WebListener.Proofs.Http.Targets
-- What the redirector answers: it turns away a request that names no host, and sends any other one
-- on to that host, whatever else the request says.
namespace WebListener.Http

open Net (Port)

variable {c : Char} {cs host bare : List Char} {request : Request} {uri : Uri}

def Writable (c : Char) : Prop := 0x20 ≤ c.toNat ∧ c.toNat ≠ 0x7F ∨ c.toNat = 9

instance : DecidablePred Writable := fun c =>
  inferInstanceAs (Decidable (0x20 ≤ c.toNat ∧ c.toNat ≠ 0x7F ∨ c.toNat = 9))

theorem Plain.writable (plain : Plain c) : Writable c := by
  unfold Plain at plain
  unfold Writable
  omega

theorem isValueByte_exact {b : UInt8} :
    isValueByte b = true ↔ 0x20 ≤ b.toNat ∧ b.toNat ≠ 0x7F ∨ b.toNat = 9 := by
  have tab : b = 9 ↔ b.toNat = 9 := UInt8.toNat_inj.symm
  have delete : b = 127 ↔ b.toNat = 127 := UInt8.toNat_inj.symm
  simp [isValueByte, tab, delete, UInt8.le_iff_toNat_le]

theorem value_written (writable : ∀ c ∈ cs, Writable c) :
    (Text.utf8 (.ofList cs)).all isValueByte = true := by
  rw [Text.utf8_ofList, List.all_eq_true]
  intro b present
  obtain ⟨c, inside, part⟩ := List.mem_flatMap.mp present
  have own := writable c inside
  unfold Writable at own
  rw [isValueByte_exact]
  rcases Text.encoded_byte part with ⟨same, ascii⟩ | ⟨beyond, byte⟩ <;> omega

theorem Names.writable (names : Names request host) (clean : request.uri.Clean) :
    ∀ c ∈ host, Writable c := by
  intro c present
  cases names with
  | authority own =>
    rcases clean.authority host own c present with allowed | rfl
    · exact (Uri.isAuthorityChar_plain allowed).writable
    · decide
  | header without first given visible =>
    obtain ⟨b, inside, rfl⟩ := List.mem_map.mp present
    have value : (Char.ofNat b.toNat).toNat = b.toNat :=
      Text.ofNat_value (by have bound := b.toNat_lt; omega)
    have shown := visible b inside
    have tab : b = 9 ↔ b.toNat = 9 := UInt8.toNat_inj.symm
    simp only [Visible, UInt8.le_iff_toNat_le, UInt8.lt_iff_toNat_lt, tab] at shown
    simp only [UInt8.reduceToNat] at shown
    unfold Writable
    omega

namespace Redirect

theorem portText_writable (port : Port) : ∀ c ∈ portText port, Writable c := by
  intro c present
  unfold portText at present
  split at present
  · cases present
  · rcases List.mem_cons.mp present with rfl | digit
    · decide
    · have range := Nat.isDigit_of_mem_toDigits (by decide) (by decide) digit
      unfold Char.isDigit at range
      have same : c.val.toNat = c.toNat := rfl
      simp only [Bool.and_eq_true, decide_eq_true_eq, ge_iff_le, UInt32.le_iff_toNat_le,
        Char.reduceVal, UInt32.reduceToNat, same] at range
      unfold Writable
      omega

theorem text_writable {path : PathQuery} (clean : uri.Clean) (found : uri.target? = some path) :
    ∀ c ∈ path.text, Writable c := by
  intro c present
  unfold PathQuery.text at present
  split at present
  · obtain rfl := List.mem_singleton.mp present
    decide
  · exact (clean.target _ found c present).writable

theorem target_writable (names : Names request host) (clean : request.uri.Clean) (port : Port) :
    ∀ c ∈ target host request.uri port, Writable c := by
  intro c present
  unfold target at present
  rcases List.mem_append.mp present with front | path
  · rcases List.mem_append.mp front with front | digits
    · rcases List.mem_append.mp front with scheme | own
      · have listed : ("https://".toList.all fun c => decide (Writable c)) = true := by decide
        exact of_decide_eq_true (List.all_eq_true.mp listed c scheme)
      · have part : WithoutPort host (stripPort host) := stripPort_exact.mp rfl
        exact names.writable clean c ((without_leads part).subset own)
    · exact portText_writable port c digits
  · split at path
    · rename_i own found
      exact text_writable clean found c path
    · obtain rfl := List.mem_singleton.mp path
      decide

-- The location of a request that names a host: that host without its port, the HTTPS port unless
-- it is the usual one, and the path and query.
def location (bare : List Char) (uri : Uri) (port : Port) : List Char :=
  "https://".toList ++ bare ++ (if port = 443 then [] else ':' :: Nat.toDigits 10 port.toNat) ++
    match uri.target? with
    | some target => target.text
    | none => ['/']

theorem application_hostless (hostless : Hostless request) (port : Port) :
    application port request = ⟨missingHost.answering request, []⟩ := by
  unfold application
  rw [hostless_exact.mpr hostless]

theorem application_named (names : Names request host) (port : Port) :
    (application port request).response =
      (permanent (target host request.uri port)).answering request := by
  unfold application
  rw [names_exact.mpr names]

theorem permanent_written (writable : ∀ c ∈ cs, Writable c) :
    permanent cs = ⟨308, [⟨"location", Text.utf8 (.ofList cs)⟩,
      ⟨"content-length", Text.utf8 (toString 0)⟩], []⟩ := by
  have value := value_written writable
  simp only [permanent, value, if_true]
  rfl

theorem answering_parts (response : Response) (request : Request) :
    (response.answering request).status = response.status ∧
      (response.answering request).headers = response.headers ∧
      (response.body = [] → (response.answering request).body = []) := by
  unfold Response.answering
  split
  · exact ⟨rfl, rfl, fun _ => rfl⟩
  · exact ⟨rfl, rfl, id⟩

theorem application_refuses (hostless : Hostless request) (port : Port) :
    (application port request).response.status = 400 := by
  rw [application_hostless hostless, (answering_parts _ _).1]
  rfl

theorem application_sends (names : Names request host) (clean : request.uri.Clean) (port : Port) :
    (application port request).response.status = 308 ∧
      (application port request).response.body = [] ∧
      (application port request).response.headers.filter (·.name = "location") =
        [⟨"location", Text.utf8 (.ofList (target host request.uri port))⟩] := by
  obtain ⟨status, headers, body⟩ := answering_parts (permanent (target host request.uri port)) request
  rw [application_named names, status, headers]
  rw [permanent_written (target_writable names clean port)] at body ⊢
  exact ⟨rfl, body rfl, rfl⟩

theorem application_sent (accepted : Uri.ofBytes bytes = .ok request.uri) (port : Port)
    (sent : (application port request).response.status = 308) :
    ∃ host bare, Names request host ∧ WithoutPort host bare ∧
      (application port request).response.headers.filter (·.name = "location") =
        [⟨"location", Text.utf8 (.ofList (location bare request.uri port))⟩] := by
  cases named : request.host? with
  | none =>
    rw [application_refuses (hostless_exact.mp named)] at sent
    cases sent
  | some host =>
    have names := names_exact.mp named
    obtain ⟨-, -, header⟩ := application_sends names (Uri.ofBytes_clean accepted) port
    exact ⟨host, stripPort host, names, stripPort_exact.mp rfl, header⟩

end Redirect

open Redirect in
-- Whatever its method, its version and its other headers are.
theorem redirector_sends_on_or_refuses (accepted : Uri.ofBytes bytes = .ok request.uri)
    (port : Port) :
    ((application port request).response.status = 400 ↔
      request.uri.authority? = none ∧ ∀ value, request.header? "host" = some value →
        value = [] ∨ ∃ b ∈ value, ¬(32 ≤ b ∧ b < 127 ∨ b = 9)) ∧
    ((application port request).response.status ≠ 400 →
      (application port request).response.status = 308 ∧
      (application port request).response.body = [] ∧
      ∃ host bare, Names request host ∧ WithoutPort host bare ∧
        (application port request).response.headers.filter (·.name = "location") =
          [⟨"location", Text.utf8 (.ofList (location bare request.uri port))⟩]) := by
  cases named : request.host? with
  | none =>
    have hostless := hostless_exact.mp named
    have refused := application_refuses hostless port
    exact ⟨⟨fun _ => hostless, fun _ => refused⟩, fun other => absurd refused other⟩
  | some host =>
    have names := names_exact.mp named
    have without : WithoutPort host (stripPort host) := stripPort_exact.mp rfl
    obtain ⟨status, body, sent⟩ := application_sends names (Uri.ofBytes_clean accepted) port
    constructor
    · constructor
      · intro refused
        rw [status] at refused
        cases refused
      · intro hostless
        rw [hostless_exact.mpr hostless] at named
        cases named
    · intro _
      exact ⟨status, body, host, stripPort host, names, without, sent⟩

def preflight : Request :=
  ⟨"OPTIONS", .path ⟨"/é".toList, some ['q']⟩, .v11,
    [⟨"accept", Text.utf8 "*/*"⟩, ⟨"host", Text.utf8 "[::1]:80"⟩, ⟨"host", []⟩], none⟩

open Redirect in
theorem preflight_sent_on :
    Uri.ofBytes (Text.utf8 "/é?q#f") = .ok preflight.uri ∧
      (application 8443 preflight).response.status = 308 ∧
      ∃ host bare, Names preflight host ∧ WithoutPort host bare ∧
        (application 8443 preflight).response.headers.filter (·.name = "location") =
          [⟨"location", Text.utf8 (.ofList (location bare preflight.uri 8443))⟩] := by
  have accepted : Uri.ofBytes (Text.utf8 "/é?q#f") = .ok preflight.uri := rfl
  have answered := (redirector_sends_on_or_refuses accepted 8443).2 (by decide)
  exact ⟨accepted, answered.1, answered.2.2⟩

example : Redirect.location "[::1]".toList preflight.uri 8443 = "https://[::1]:8443/é?q".toList := by
  decide

end WebListener.Http
