import WebListener.Proofs.Http.Locations
import WebListener.Proofs.Net.PortNumeral
-- Reading a location back. Where the host is well formed, its location says which host, port and
-- path it was made from, so different ones never meet in one location, and a client that follows
-- it to another redirector is sent to where it is.
namespace WebListener.Http

open Net (Port)

variable {c : Char} {cs host path : List Char} {uri : Uri} {port : Port}

-- A name, or a literal address in brackets, that cannot run into what follows it.
inductive PlainHost : List Char → Prop where
  | name {cs : List Char} (given : cs ≠ []) (plain : ∀ c ∈ cs, c ∉ [':', '/', '?', '#', '@', '[']) :
      PlainHost cs
  | literal {inside : List Char} (enclosed : ∀ c ∈ inside, c ∉ [']', '/', '?']) :
      PlainHost ('[' :: inside ++ [']'])

inductive PortSuffix : List Char → Prop where
  | absent : PortSuffix []
  | present (text : List Char) : PortSuffix (':' :: text)

theorem PlainHost.whole (plain : PlainHost host) : ∀ c ∈ host, c ≠ '/' ∧ c ≠ '?' := by
  intro c present
  cases plain with
  | name given plain =>
    have free := plain c present
    simp only [List.mem_cons, not_or] at free
    exact ⟨free.2.1, free.2.2.1⟩
  | literal enclosed =>
    rename_i inside
    rcases List.mem_append.mp present with front | closing
    · rcases List.mem_cons.mp front with rfl | within
      · decide
      · have free := enclosed c within
        simp only [List.mem_cons, not_or] at free
        exact ⟨free.2.1, free.2.2.1⟩
    · rw [List.mem_singleton.mp closing]
      decide

theorem PlainHost.without (plain : PlainHost host) {suffix : List Char} (ported : PortSuffix suffix) :
    WithoutPort (host ++ suffix) host := by
  cases plain with
  | literal enclosed =>
    rename_i inside
    have closed : ']' ∉ inside := fun present => enclosed ']' present (by decide)
    rw [List.append_assoc]
    exact .bracketed inside suffix closed
  | name given plain =>
    have whole : ':' ∉ host := fun present => plain ':' present (by decide)
    have first : host.head? ≠ some '[' := fun bracket =>
      plain '[' (List.mem_of_head? bracket) (by decide)
    cases ported with
    | absent =>
      rw [List.append_nil]
      exact .name host first whole
    | present text => exact .numbered host text first whole

namespace Redirect

def endsHost (c : Char) : Bool := c = '/' || c = '?'

def cutLocation (location : List Char) : Option (List Char × List Char) :=
  (Text.readWord "https://".toList location).map fun read =>
    (read.2.takeWhile fun c => !endsHost c, read.2.dropWhile fun c => !endsHost c)

def readAuthorityPort (authority : List Char) : Option (List Char × Port) :=
  match authority.drop (stripPort authority).length with
  | [] => some (stripPort authority, 443)
  | ':' :: numeral => (Port.ofChars? numeral).map (stripPort authority, ·)
  | _ => none

structure Decoded where
  host : List Char
  port : Port
  path : List Char
deriving DecidableEq, Repr

def decode (location : List Char) : Option Decoded := do
  let (authority, path) ← cutLocation location
  let (host, port) ← readAuthorityPort authority
  some ⟨host, port, path⟩

theorem portText_suffix (port : Port) : PortSuffix (portText port) := by
  unfold portText
  split
  · exact .absent
  · exact .present _

theorem endsHost_false : endsHost c = false ↔ c ≠ '/' ∧ c ≠ '?' := by
  simp [endsHost]

theorem authority_whole (plain : PlainHost host) (port : Port) :
    ∀ c ∈ host ++ portText port, (!endsHost c) = true := by
  intro c present
  rw [Bool.not_eq_true', endsHost_false]
  rcases List.mem_append.mp present with own | digit
  · exact plain.whole c own
  · have free := Uri.endsAuthority_false.mp ((portText_part port).enclosed c digit)
    exact ⟨free.1, free.2.1⟩

theorem target_parts (plain : PlainHost host) {suffix : List Char} (ported : PortSuffix suffix)
    (uri : Uri) (port : Port) :
    target (host ++ suffix) uri port =
      "https://".toList ++ ((host ++ portText port) ++ sentPath uri) := by
  have bare := stripPort_exact.mpr (plain.without ported)
  change "https://".toList ++ stripPort (host ++ suffix) ++ portText port ++ sentPath uri = _
  rw [bare]
  simp only [List.append_assoc]

theorem cut_target (plain : PlainHost host) (rooted : Rooted path) (port : Port) :
    cutLocation ("https://".toList ++ ((host ++ portText port) ++ path)) =
      some (host ++ portText port, path) := by
  obtain ⟨c, rest, rfl, first⟩ := rooted.begins
  have ends : (!endsHost c) = false := by
    rcases first with rfl | rfl <;> rfl
  have whole := authority_whole plain port
  have word : Text.readWord "https://".toList
      ("https://".toList ++ ((host ++ portText port) ++ c :: rest)) =
      some ((), (host ++ portText port) ++ c :: rest) := by
    simp [Text.readWord]
  rw [cutLocation, word, Option.map_some]
  dsimp only
  rw [List.takeWhile_append_of_pos whole, List.dropWhile_append_of_pos whole]
  simp [ends]

theorem authority_read (plain : PlainHost host) (port : Port) :
    readAuthorityPort (host ++ portText port) = some (host, port) := by
  have bare := stripPort_exact.mpr (plain.without (portText_suffix port))
  unfold readAuthorityPort
  rw [bare, List.drop_left]
  unfold portText
  by_cases usual : port = Config.defaultHttpsPort
  · rw [if_pos usual, usual]
    rfl
  · rw [if_neg usual]
    simp [Net.port_written]

theorem decode_target (plain : PlainHost host) {suffix : List Char} (ported : PortSuffix suffix)
    (rooted : Rooted (sentPath uri)) (port : Port) :
    decode (target (host ++ suffix) uri port) = some ⟨host, port, sentPath uri⟩ := by
  rw [target_parts plain ported, decode, cut_target plain rooted]
  simp only [Option.bind_eq_bind, Option.bind_some, authority_read plain port]

theorem target_injective {other suffix ending : List Char} {reached : Uri} {way : Port}
    (plain : PlainHost host) (ported : PortSuffix suffix) (rooted : Rooted (sentPath uri))
    (otherPlain : PlainHost other) (otherPorted : PortSuffix ending)
    (otherRooted : Rooted (sentPath reached))
    (same : target (host ++ suffix) uri port = target (other ++ ending) reached way) :
    host = other ∧ port = way ∧ sentPath uri = sentPath reached := by
  have decoded := decode_target plain ported rooted port
  rw [same, decode_target otherPlain otherPorted otherRooted way] at decoded
  obtain ⟨hosts, ports, paths⟩ := Decoded.mk.inj (Option.some.inj decoded)
  exact ⟨hosts.symm, ports.symm, paths.symm⟩

theorem target_again (plain : PlainHost host) {suffix : List Char} (ported : PortSuffix suffix)
    (rooted : Rooted (sentPath uri)) (port : Port) :
    ∃ authority path, cutLocation (target (host ++ suffix) uri port) = some (authority, path) ∧
      ∀ next : Uri, sentPath next = path →
        target authority next port = target (host ++ suffix) uri port := by
  rw [target_parts plain ported]
  refine ⟨_, _, cut_target plain rooted port, fun next same => ?_⟩
  rw [target_parts plain (portText_suffix port), same]

def locationOf (port : Port) (request : Request) : List Header :=
  (application port request).response.headers.filter (·.name = "location")

end Redirect

def RootedUri (uri : Uri) : Prop := ∀ target, uri.target? = some target → Rooted target.text

theorem RootedUri.sentPath (rooted : RootedUri uri) : Rooted (Redirect.sentPath uri) := by
  unfold Redirect.sentPath
  split
  · rename_i target found
    exact rooted target found
  · exact Rooted.slash []

structure AsksHost (request : Request) (host : List Char) : Prop where
  accepted : ∃ bytes, Uri.ofBytes bytes = .ok request.uri
  rooted : RootedUri request.uri
  plain : PlainHost host
  named : ∃ suffix, PortSuffix suffix ∧ Names request (host ++ suffix)

open Redirect in
theorem location_sent {request : Request} {named : List Char} (names : Names request named)
    (accepted : ∃ bytes, Uri.ofBytes bytes = .ok request.uri) (port : Port) :
    locationOf port request =
      [⟨"location", Text.utf8 (.ofList (target named request.uri port))⟩] := by
  obtain ⟨bytes, read⟩ := accepted
  exact (application_sends names (Uri.ofBytes_clean read) port).2.2

theorem header_inj {first second : List Char}
    (same : [Header.mk "location" (Text.utf8 (.ofList first))] =
      [⟨"location", Text.utf8 (.ofList second)⟩]) : first = second := by
  have values : Text.utf8 (.ofList first) = Text.utf8 (.ofList second) :=
    (Header.mk.inj (List.cons.inj same).1).2
  simpa [← String.toList_inj] using Text.utf8_inj.mp values

open Redirect in
-- A location says all that it was made from and nothing of a port behind the host, so requests that
-- are sent to one place ask for the same, and a request made of a location is sent there again.
theorem location_decodes :
    (∀ host suffix uri port, PlainHost host → PortSuffix suffix → RootedUri uri →
      target (host ++ suffix) uri port = target host uri port ∧
      decode (target (host ++ suffix) uri port) = some ⟨host, port, sentPath uri⟩ ∧
      ∃ authority path, cutLocation (target (host ++ suffix) uri port) = some (authority, path) ∧
        ∀ next : Uri, sentPath next = path →
          target authority next port = target (host ++ suffix) uri port) ∧
    (∀ first second host other port way, AsksHost first host → AsksHost second other →
      locationOf port first = locationOf way second →
      host = other ∧ port = way ∧ sentPath first.uri = sentPath second.uri) ∧
    ∀ request host port, AsksHost request host →
      ∃ location authority path,
        locationOf port request = [⟨"location", Text.utf8 (.ofList location)⟩] ∧
        cutLocation location = some (authority, path) ∧
        ∀ next : Request, (∃ bytes, Uri.ofBytes bytes = .ok next.uri) → Names next authority →
          sentPath next.uri = path → locationOf port next = locationOf port request := by
  refine ⟨?_, ?_, ?_⟩
  · intro host suffix uri port plain ported rooted
    have alone := target_parts plain .absent uri port
    rw [List.append_nil] at alone
    exact ⟨(target_parts plain ported uri port).trans alone.symm,
      decode_target plain ported rooted.sentPath port,
      target_again plain ported rooted.sentPath port⟩
  · intro first second host other port way asks others same
    obtain ⟨suffix, ported, names⟩ := asks.named
    obtain ⟨ending, otherPorted, otherNames⟩ := others.named
    rw [location_sent names asks.accepted, location_sent otherNames others.accepted] at same
    exact target_injective asks.plain ported asks.rooted.sentPath others.plain otherPorted
      others.rooted.sentPath (header_inj same)
  · intro request host port asks
    obtain ⟨suffix, ported, names⟩ := asks.named
    obtain ⟨authority, path, cut, again⟩ :=
      target_again asks.plain ported asks.rooted.sentPath port
    refine ⟨_, authority, path, location_sent names asks.accepted port, cut, ?_⟩
    intro next accepted named same
    rw [location_sent named accepted, location_sent names asks.accepted, again next.uri same]

def asked : Request :=
  ⟨"GET", .absolute "http".toList "[fe80::1]:80".toList ⟨[], some ['q']⟩, .v11, [], none⟩

def followed : Request :=
  ⟨"GET", .absolute "https".toList "[fe80::1]:8443".toList ⟨[], some ['q']⟩, .v11, [], none⟩

theorem asked_host : AsksHost asked "[fe80::1]".toList where
  accepted := ⟨Text.utf8 "http://[fe80::1]:80?q", ok_of_toOption (by decide +kernel)⟩
  rooted := by
    rintro _ ⟨⟩
    exact .mark ['q']
  plain := by
    have literal : PlainHost ('[' :: "fe80::1".toList ++ [']']) := .literal (by simp)
    exact literal
  named := ⟨":80".toList, .present "80".toList, .authority rfl⟩

open Redirect in
theorem followed_sent_there_again :
    decode (target ("[fe80::1]".toList ++ ":80".toList) asked.uri 8443) =
        some ⟨"[fe80::1]".toList, 8443, "?q".toList⟩ ∧
      locationOf 8443 asked = [⟨"location", Text.utf8 (.ofList "https://[fe80::1]:8443?q".toList)⟩] ∧
      locationOf 8443 followed = locationOf 8443 asked := by
  obtain ⟨decodes, -, again⟩ := location_decodes
  have plain := asked_host.plain
  have decoded := (decodes _ ":80".toList asked.uri 8443 plain (.present _) asked_host.rooted).2.1
  have made : target "[fe80::1]:80".toList asked.uri 8443 = "https://[fe80::1]:8443?q".toList := by
    decide
  have sent : locationOf 8443 asked =
      [⟨"location", Text.utf8 (.ofList "https://[fe80::1]:8443?q".toList)⟩] := by
    rw [← made]
    exact location_sent (.authority rfl) asked_host.accepted 8443
  obtain ⟨location, authority, path, header, cut, same⟩ := again asked _ 8443 asked_host
  obtain rfl := header_inj (header.symm.trans sent)
  have parts : cutLocation "https://[fe80::1]:8443?q".toList =
      some ("[fe80::1]:8443".toList, "?q".toList) := by decide
  rw [parts] at cut
  obtain ⟨rfl, rfl⟩ := Prod.mk.inj (Option.some.inj cut)
  have accepted : ∃ bytes, Uri.ofBytes bytes = .ok followed.uri :=
    ⟨Text.utf8 "https://[fe80::1]:8443?q", ok_of_toOption (by decide +kernel)⟩
  exact ⟨decoded, sent, same followed accepted (.authority rfl) (by decide)⟩

end WebListener.Http
