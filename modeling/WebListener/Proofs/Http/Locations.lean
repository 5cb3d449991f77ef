import WebListener.Proofs.Http.Paths
import WebListener.Proofs.Http.Redirecting
-- Whether a location leads where its request was sent. Host, port and path stand side by side in
-- it, so the host has to end where the port or the path begins.
namespace WebListener.Http

open Net (Port)

variable {bare cs : List Char} {request : Request} {uri : Uri}

def IsHost (cs : List Char) : Prop := cs ≠ [] ∧ ∀ c ∈ cs, Uri.endsAuthority c = false

instance : DecidablePred IsHost := fun cs =>
  decidable_of_iff ((cs ≠ []) ∧ (cs.all fun c => !Uri.endsAuthority c) = true) (by simp [IsHost])

inductive PortPart : List Char → Prop where
  | default : PortPart []
  | written {digits : List Char} (given : digits ≠ []) (decimal : ∀ c ∈ digits, c.isDigit = true) :
      PortPart (':' :: digits)

-- A location that names a host, perhaps a port, and then only a path or a query.
inductive LeadsTo (host : List Char) : List Char → Prop where
  | location {port rest : List Char} (named : IsHost host) (numbered : PortPart port)
      (follows : rest = [] ∨ Rooted rest) :
      LeadsTo host ("https://".toList ++ host ++ port ++ rest)

theorem PortPart.mem {c : Char} (numbered : PortPart cs) (present : c ∈ cs) :
    c = ':' ∨ c.isDigit = true := by
  cases numbered with
  | default => cases present
  | written given decimal =>
    rcases List.mem_cons.mp present with rfl | digit
    · exact .inl rfl
    · exact .inr (decimal c digit)

theorem PortPart.enclosed (numbered : PortPart cs) : ∀ c ∈ cs, Uri.endsAuthority c = false := by
  intro c present
  rw [Uri.endsAuthority_false]
  rcases numbered.mem present with rfl | digit
  · decide
  · refine ⟨?_, ?_, ?_⟩ <;> rintro rfl <;> cases digit

namespace Redirect

def sentPath (uri : Uri) : List Char :=
  match uri.target? with
  | some target => target.text
  | none => ['/']

theorem location_parts (bare : List Char) (uri : Uri) (port : Port) :
    location bare uri port = "https://".toList ++ bare ++ portText port ++ sentPath uri := rfl

theorem portText_part (port : Port) : PortPart (portText port) := by
  unfold portText
  split
  · exact .default
  · refine .written Nat.toDigits_ne_nil ?_
    intro c digit
    exact Nat.isDigit_of_mem_toDigits (by decide) (by decide) digit

theorem sentPath_rooted {bytes : List UInt8} (accepted : Uri.ofBytes bytes = .ok uri)
    (other : uri ≠ Uri.asterisk) : Rooted (sentPath uri) := by
  unfold sentPath
  split
  · rename_i target found
    rcases Uri.ofBytes_rooted accepted with same | rooted
    · exact absurd same other
    · exact rooted target found
  · exact Rooted.slash []

theorem asterisk_astray (bare : List Char) (port : Port) :
    ¬LeadsTo bare (location bare Uri.asterisk port) := by
  intro leads
  generalize same : location bare Uri.asterisk port = whole at leads
  cases leads with
  | @location written rest named numbered follows =>
    have tail : portText port ++ ['*'] = written ++ rest := by
      rw [location_parts] at same
      simpa [sentPath, Uri.asterisk, Uri.target?, PathQuery.text, PathQuery.queryText] using same
    have own : ∀ c ∈ written ++ rest, c = ':' ∨ c.isDigit = true ∨ c = '*' := by
      intro c present
      rw [← tail] at present
      rcases List.mem_append.mp present with digit | star
      · exact ((portText_part port).mem digit).imp id .inl
      · exact .inr (.inr (List.mem_singleton.mp star))
    rcases follows with rfl | rooted
    · have star : '*' ∈ written := by
        rw [List.append_nil] at tail
        simp [← tail]
      rcases numbered.mem star with colon | digit
      · cases colon
      · cases digit
    · obtain ⟨c, later, rfl, first⟩ := rooted.begins
      have seen := own c (by simp)
      rcases first with rfl | rfl <;> revert seen <;> decide

theorem location_leads (accepted : Uri.ofBytes bytes = .ok uri) (port : Port) :
    LeadsTo bare (location bare uri port) ↔ IsHost bare ∧ uri ≠ Uri.asterisk := by
  constructor
  · intro leads
    refine ⟨?_, ?_⟩
    · generalize same : location bare uri port = whole at leads
      cases leads with
      | location named numbered follows => exact named
    · rintro rfl
      exact asterisk_astray bare port leads
  · rintro ⟨named, other⟩
    rw [location_parts]
    exact .location named (portText_part port) (.inr (sentPath_rooted accepted other))

end Redirect

open Redirect in
-- A request that names a host is sent on even if that host is no more than a port, and then, as
-- with an asterisk or a host that has a path of its own, the location leads elsewhere.
theorem redirect_leads_to_host_iff (accepted : Uri.ofBytes bytes = .ok request.uri) (port : Port) :
    ((application port request).response.status = 308 ↔ ∃ host, Names request host) ∧
    ∀ host bare, Names request host → WithoutPort host bare →
      (application port request).response.headers.filter (·.name = "location") =
        [⟨"location", Text.utf8 (.ofList (location bare request.uri port))⟩] ∧
      (LeadsTo bare (location bare request.uri port) ↔
        (bare ≠ [] ∧ ∀ c ∈ bare, Uri.endsAuthority c = false) ∧ request.uri ≠ Uri.asterisk) := by
  have clean := Uri.ofBytes_clean accepted
  constructor
  · constructor
    · intro sent
      obtain ⟨host, bare, names, -⟩ := application_sent accepted port sent
      exact ⟨host, names⟩
    · rintro ⟨host, names⟩
      exact (application_sends names clean port).1
  · intro host bare names part
    obtain rfl := stripPort_exact.mpr part
    exact ⟨(application_sends names clean port).2.2, location_leads accepted port⟩

def searching : Request :=
  ⟨"GET", .absolute "http".toList "example.com:80".toList ⟨[], some "q".toList⟩, .v11, [], none⟩

open Redirect in
theorem absolute_target_leads_to_host :
    Uri.ofBytes (Text.utf8 "http://example.com:80?q") = .ok searching.uri ∧
      (application 8443 searching).response.status = 308 ∧
      LeadsTo "example.com".toList (location "example.com".toList searching.uri 8443) := by
  have accepted : Uri.ofBytes (Text.utf8 "http://example.com:80?q") = .ok searching.uri :=
    ok_of_toOption (by decide +kernel)
  have names : Names searching "example.com:80".toList := .authority rfl
  have part : WithoutPort "example.com:80".toList "example.com".toList :=
    .numbered "example.com".toList "80".toList (by decide) (by decide)
  obtain ⟨status, led⟩ := redirect_leads_to_host_iff accepted 8443
  have host : IsHost "example.com".toList := by decide
  exact ⟨accepted, status.mpr ⟨_, names⟩, (led _ _ names part).2.mpr ⟨host, by decide⟩⟩

def portOnly : Request :=
  ⟨"GET", .path ⟨"/a".toList, none⟩, .v11, [⟨"host", Text.utf8 ":80"⟩], none⟩

def serverProbe : Request :=
  ⟨"OPTIONS", Uri.asterisk, .v11, [⟨"host", Text.utf8 "example.com"⟩], none⟩

open Redirect in
theorem empty_host_and_asterisk_sent_astray :
    (Uri.ofBytes (Text.utf8 "/a") = .ok portOnly.uri ∧ Names portOnly ":80".toList ∧
      WithoutPort ":80".toList [] ∧
      (application 443 portOnly).response.status = 308 ∧
      (application 443 portOnly).response.headers.filter (·.name = "location") =
        [⟨"location", Text.utf8 "https:///a"⟩]) ∧
    Uri.ofBytes (Text.utf8 "*") = .ok serverProbe.uri ∧
      (application 443 serverProbe).response.headers.filter (·.name = "location") =
        [⟨"location", Text.utf8 "https://example.com*"⟩] ∧
      ¬LeadsTo "example.com".toList "https://example.com*".toList := by
  have pathAccepted : Uri.ofBytes (Text.utf8 "/a") = .ok portOnly.uri :=
    ok_of_toOption (by decide +kernel)
  have asteriskAccepted : Uri.ofBytes (Text.utf8 "*") = .ok serverProbe.uri :=
    ok_of_toOption (by decide +kernel)
  have portNames : Names portOnly ":80".toList := names_exact.mp (by decide +kernel)
  have hostNames : Names serverProbe "example.com".toList := names_exact.mp (by decide +kernel)
  have empty : WithoutPort ":80".toList [] := .numbered [] "80".toList (by decide) (by decide)
  obtain ⟨status, -, location⟩ := application_sends portNames (Uri.ofBytes_clean pathAccepted) 443
  obtain ⟨-, -, astray⟩ := application_sends hostNames (Uri.ofBytes_clean asteriskAccepted) 443
  exact ⟨⟨pathAccepted, portNames, empty, status, location⟩, asteriskAccepted, astray,
    asterisk_astray "example.com".toList 443⟩

end WebListener.Http
