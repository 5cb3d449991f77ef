import WebListener.ListenerError
import WebListener.Proofs.Net.AskedPort
import WebListener.Proofs.Outcomes
-- What comes of binding an address: a socket of the wanted family on the port that is written, or
-- an error that shows the address as it is configured and says what stood in the way.
namespace WebListener.Net

open Kernel (IoError)

variable {cs numeral : List Char} {address : ListenAddress} {family : IpFamily} {network : Network}
  {names : List (String × IpAddress)} {found : List SocketAddress} {wanted bound : SocketAddress}
  {cause : IoError} {port : Port}

def Numbered (cs numeral : List Char) : Prop := ∃ host, cs = host ++ ':' :: numeral ∧ ':' ∉ numeral

theorem numbered_exact :
    Numbered cs numeral ↔ (Text.splitLast ':' cs).map (·.2) = some numeral := by
  simp [Numbered, Option.map_eq_some_iff, Text.splitLast_eq_some_iff]

theorem numbered_completed : Numbered (Resolve.completed cs) numeral ↔ Numbered cs numeral := by
  rw [numbered_exact, numbered_exact, Resolve.completed_cut]

theorem colon_completed : ':' ∈ Resolve.completed cs ↔ ':' ∈ cs := by
  unfold Resolve.completed
  split
  · rename_i colon
    simp [List.mem_of_head? colon]
  · rfl

namespace Resolve

theorem resolve_uncut (absent : ':' ∉ cs) : resolve names cs = .error .invalidSocketAddress := by
  have uncut := Text.splitLast_eq_none_iff.mpr absent
  cases numeric : SocketAddress.ofChars? cs with
  | some address =>
    obtain ⟨before, digits, cut, -⟩ := numeric_port numeric
    rw [uncut] at cut
    cases cut
  | none => simp only [resolve, numeric, uncut]

theorem resolve_unported (numbered : Numbered cs numeral) (other : Port.ofChars? numeral = none) :
    resolve names cs = .error .invalidPort := by
  obtain ⟨host, shape, last⟩ := numbered
  have cut := Text.splitLast_eq_some_iff.mpr ⟨shape, last⟩
  cases numeric : SocketAddress.ofChars? cs with
  | some address =>
    obtain ⟨before, digits, own, read⟩ := numeric_port numeric
    rw [cut] at own
    cases own
    rw [other] at read
    cases read
  | none => simp only [resolve, numeric, cut, other]

theorem resolve_failure (failed : resolve names cs = .error cause) :
    cause = .invalidSocketAddress ∧ ':' ∉ cs ∨
      (cause = .invalidPort ∧ ∃ numeral, Numbered cs numeral ∧ Port.ofChars? numeral = none) ∨
      cause = .unknownHost := by
  unfold resolve at failed
  split at failed
  · cases failed
  · split at failed
    · rename_i uncut
      cases failed
      exact .inl ⟨rfl, Text.splitLast_eq_none_iff.mp uncut⟩
    · rename_i host numeral cut
      split at failed
      · rename_i other
        cases failed
        obtain ⟨shape, last⟩ := Text.splitLast_eq_some_iff.mp cut
        exact .inr (.inl ⟨rfl, numeral, ⟨host, shape, last⟩, other⟩)
      · split at failed
        · cases failed
          exact .inr (.inr rfl)
        · cases failed

end Resolve

namespace Network

theorem bindFirst_granted {addresses : List SocketAddress}
    (granted : network.bindFirst addresses = .ok bound) :
    ∃ wanted ∈ addresses, network.bindOne wanted = .ok bound := by
  induction addresses with
  | nil => cases granted
  | cons first others ih =>
    cases others with
    | nil => exact ⟨first, List.mem_cons_self, granted⟩
    | cons second rest =>
      unfold bindFirst at granted
      split at granted
      · rename_i own one
        cases granted
        exact ⟨first, List.mem_cons_self, one⟩
      · obtain ⟨wanted, present, one⟩ := ih granted
        exact ⟨wanted, List.mem_cons_of_mem _ present, one⟩

theorem bindOne_refused (refused : network.bindOne wanted = .error cause) :
    network.refusal network.held wanted = some cause := by
  unfold bindOne at refused
  split at refused
  · rename_i e refusal
    cases refused
    exact refusal
  · cases refused

theorem bindFirst_refused {addresses : List SocketAddress}
    (refused : network.bindFirst addresses = .error cause) :
    addresses = [] ∧ cause = .noAddresses ∨ ∃ wanted ∈ addresses, network.refusal network.held wanted = some cause := by
  induction addresses with
  | nil =>
    cases refused
    exact .inl ⟨rfl, rfl⟩
  | cons first others ih =>
    right
    cases others with
    | nil => exact ⟨first, List.mem_cons_self, bindOne_refused refused⟩
    | cons second rest =>
      unfold bindFirst at refused
      split at refused
      · cases refused
      · rcases ih refused with ⟨none, -⟩ | ⟨wanted, present, refusal⟩
        · cases none
        · exact ⟨wanted, List.mem_cons_of_mem _ present, refusal⟩

theorem bindOne_granted (granted : network.bindOne wanted = .ok bound) :
    bound.ip = wanted.ip ∧ (wanted.port ≠ 0 → bound.port = wanted.port) := by
  unfold bindOne at granted
  split at granted
  · cases granted
  · cases granted
    split
    · rename_i zero
      exact ⟨rfl, fun other => absurd zero other⟩
    · exact ⟨rfl, fun _ => rfl⟩

end Network

inductive InFamily : IpFamily → IpAddress → Prop where
  | any (ip : IpAddress) : InFamily .any ip
  | v4 (ip : Ipv4) : InFamily .v4 (.v4 ip)
  | v6 (ip : Ipv6) (scope : UInt32) : InFamily .v6 (.v6 ip scope)

theorem admits_exact : family.admits wanted = true ↔ InFamily family wanted.ip := by
  obtain ⟨ip, port⟩ := wanted
  constructor
  · intro admitted
    cases family with
    | any => exact .any ip
    | v4 =>
      cases ip with
      | v4 ip => exact .v4 ip
      | v6 ip scope => cases admitted
    | v6 =>
      cases ip with
      | v4 ip => cases admitted
      | v6 ip scope => exact .v6 ip scope
  · intro inside
    cases inside <;> rfl

def Stands (network : Network) (address : ListenAddress) (found : List SocketAddress) : Prop :=
  Resolve.resolve network.names (Resolve.completed address.address.toList) = .ok found

inductive Binds (address : ListenAddress) (family : IpFamily) (network : Network) :
    Except IoError SocketAddress → Prop where
  | unresolved {cause : IoError}
      (failed : Resolve.resolve network.names (Resolve.completed address.address.toList) =
        .error cause) :
      Binds address family network (.error cause)
  | excluded {found : List SocketAddress} (stands : Stands network address found)
      (outside : ∀ wanted ∈ found, ¬InFamily family wanted.ip) :
      Binds address family network (.error .noAddresses)
  | refused {wanted : SocketAddress} {cause : IoError}
      (refusal : network.refusal network.held wanted = some cause) :
      Binds address family network (.error cause)
  | stuck {bound : SocketAddress} {cause : IoError}
      (blocking : network.blocking bound = some cause) :
      Binds address family network (.error cause)
  | bound {found : List SocketAddress} {wanted bound : SocketAddress}
      (stands : Stands network address found) (present : wanted ∈ found)
      (inside : InFamily family wanted.ip) (granted : network.bindOne wanted = .ok bound) :
      Binds address family network (.ok bound)

theorem bindTcp_binds (address : ListenAddress) (family : IpFamily) (network : Network) :
    Binds address family network (address.bindTcp family network) := by
  unfold ListenAddress.bindTcp
  cases resolved : Resolve.resolve network.names (Resolve.completed address.address.toList) with
  | error cause => exact .unresolved resolved
  | ok found =>
    change Binds address family network (network.bindFirst (found.filter family.admits) >>= _)
    cases first : network.bindFirst (found.filter family.admits) with
    | error cause =>
      rcases Network.bindFirst_refused first with ⟨none, rfl⟩ | ⟨wanted, -, refusal⟩
      · refine .excluded resolved fun wanted present inside => ?_
        exact List.filter_eq_nil_iff.mp none wanted present (admits_exact.mpr inside)
      · exact .refused refusal
    | ok bound =>
      change Binds address family network (network.unblocked bound)
      unfold Network.unblocked
      split
      · rename_i cause blocking
        exact .stuck blocking
      · obtain ⟨wanted, chosen, granted⟩ := Network.bindFirst_granted first
        obtain ⟨present, admitted⟩ := List.mem_filter.mp chosen
        exact .bound resolved present (admits_exact.mp admitted) granted

theorem bindTcp_excluded (stands : Stands network address found)
    (outside : ∀ wanted ∈ found, ¬InFamily family wanted.ip) :
    address.bindTcp family network = .error .noAddresses := by
  have none : found.filter family.admits = [] :=
    List.filter_eq_nil_iff.mpr fun wanted present admitted =>
      outside wanted present (admits_exact.mp admitted)
  rw [ListenAddress.bindTcp, stands]
  change (network.bindFirst (found.filter family.admits) >>= _) = _
  rw [none]
  rfl

theorem bindTcp_unresolved
    (failed : Resolve.resolve network.names (Resolve.completed address.address.toList) =
      .error cause) :
    address.bindTcp family network = .error cause := by
  rw [ListenAddress.bindTcp, failed]
  rfl

-- What is known of every machine: the kernel refuses with an error number of its own, and the name
-- of a host has no colon in it.
structure Network.Ordinary (network : Network) : Prop where
  refusal : ∀ address cause, network.refusal network.held address = some cause →
    ∃ code, cause = .os code
  blocking : ∀ address cause, network.blocking address = some cause → ∃ code, cause = .os code
  names : ∀ entry ∈ network.names, ':' ∉ entry.1.toList

def FailsWith (address : ListenAddress) (family : IpFamily) (network : Network) (reason : String) :
    Prop :=
  ∃ cause, ListenerError.bindTcp address family network =
    .error (.bind address.network address.address cause) ∧ cause.message = reason

theorem bindTcp_error :
    ListenerError.bindTcp address family network =
      .error (.bind address.network address.address cause) ↔
    address.bindTcp family network = .error cause := by
  rw [ListenerError.bindTcp, mapError_error_iff]
  simp

theorem bindTcp_ok :
    ListenerError.bindTcp address family network = .ok bound ↔
      address.bindTcp family network = .ok bound :=
  mapError_ok_iff

-- What stands in the way of a bind on an ordinary machine.
inductive Reason (address : ListenAddress) (family : IpFamily) (network : Network) :
    IoError → Prop where
  | portless (absent : ':' ∉ address.address.toList) :
      Reason address family network .invalidSocketAddress
  | unreadable {numeral : List Char} (numbered : Numbered address.address.toList numeral)
      (other : ¬∃ port, PortNumeral numeral port) : Reason address family network .invalidPort
  | unknown : Reason address family network .unknownHost
  | excluded {found : List SocketAddress} (stands : Stands network address found)
      (outside : ∀ wanted ∈ found, ¬InFamily family wanted.ip) :
      Reason address family network .noAddresses
  | kernel (code : Kernel.Errno) : Reason address family network (.os code)

theorem Network.Ordinary.reason (ordinary : network.Ordinary)
    (failed : address.bindTcp family network = .error cause) :
    Reason address family network cause := by
  have binds := bindTcp_binds address family network
  rw [failed] at binds
  cases binds with
  | unresolved failed =>
    rcases Resolve.resolve_failure failed with ⟨rfl, absent⟩ | ⟨rfl, numeral, numbered, other⟩ | rfl
    · exact .portless (colon_completed.not.mp absent)
    · exact .unreadable (numbered_completed.mp numbered) (port_none.mp other)
    · exact .unknown
  | excluded stands outside => exact .excluded stands outside
  | refused refusal =>
    obtain ⟨code, rfl⟩ := ordinary.refusal _ _ refusal
    exact .kernel code
  | stuck blocking =>
    obtain ⟨code, rfl⟩ := ordinary.blocking _ _ blocking
    exact .kernel code

theorem failed_portless (ordinary : network.Ordinary) :
    address.bindTcp family network = .error .invalidSocketAddress ↔
      ':' ∉ address.address.toList := by
  constructor
  · intro failed
    cases ordinary.reason failed with
    | portless absent => exact absent
  · intro absent
    exact bindTcp_unresolved (Resolve.resolve_uncut (colon_completed.not.mpr absent))

theorem failed_unreadable (ordinary : network.Ordinary) :
    address.bindTcp family network = .error .invalidPort ↔
      ∃ numeral, Numbered address.address.toList numeral ∧ ¬∃ port, PortNumeral numeral port := by
  constructor
  · intro failed
    cases ordinary.reason failed with
    | unreadable numbered other => exact ⟨_, numbered, other⟩
  · rintro ⟨numeral, numbered, other⟩
    exact bindTcp_unresolved
      (Resolve.resolve_unported (numbered_completed.mpr numbered) (port_none.mpr other))

theorem failed_excluded (ordinary : network.Ordinary) :
    address.bindTcp family network = .error .noAddresses ↔
      ∃ found, Stands network address found ∧ ∀ wanted ∈ found, ¬InFamily family wanted.ip := by
  constructor
  · intro failed
    cases ordinary.reason failed with
    | excluded stands outside => exact ⟨_, stands, outside⟩
  · rintro ⟨found, stands, outside⟩
    exact bindTcp_excluded stands outside

theorem os_message (code : Kernel.Errno) :
    (IoError.os code).message.toList.getLast? = some ')' := by
  rw [IoError.message, String.toList_append, List.getLast?_append]
  rfl

theorem Reason.told (reason : Reason address family network cause) {other : IoError}
    (plain : other = .invalidSocketAddress ∨ other = .invalidPort ∨ other = .noAddresses)
    (same : cause.message = other.message) : cause = other := by
  cases reason with
  | kernel code =>
    have last := os_message code
    rw [same] at last
    rcases plain with rfl | rfl | rfl <;> cases last
  | portless | unreadable | unknown | excluded =>
    rcases plain with rfl | rfl | rfl <;> first | rfl | exact absurd same (by decide)

theorem failsWith_exact (ordinary : network.Ordinary) {other : IoError}
    (plain : other = .invalidSocketAddress ∨ other = .invalidPort ∨ other = .noAddresses) :
    FailsWith address family network other.message ↔
      address.bindTcp family network = .error other := by
  constructor
  · rintro ⟨cause, failed, same⟩
    have own := bindTcp_error.mp failed
    rwa [(ordinary.reason own).told plain same] at own
  · intro failed
    exact ⟨other, bindTcp_error.mpr failed, rfl⟩

namespace Resolve

theorem readV4_family (read : SocketAddress.readV4 cs = some (wanted, rest)) :
    ∃ ip, wanted.ip = .v4 ip := by
  obtain ⟨⟨ip, after⟩, -, read⟩ := Option.bind_eq_some_iff.mp read
  obtain ⟨⟨port, left⟩, -, ⟨⟩⟩ := Option.bind_eq_some_iff.mp read
  exact ⟨ip, rfl⟩

theorem ofChars_family (unbracketed : cs.head? ≠ some '[')
    (read : SocketAddress.ofChars? cs = some wanted) : ∃ ip, wanted.ip = .v4 ip := by
  have closed : SocketAddress.readV6 cs = none := by
    cases cs with
    | nil => rfl
    | cons c rest =>
      have other : c ≠ '[' := fun same => unbracketed (by rw [same]; rfl)
      simp [SocketAddress.readV6, Text.readChar, other]
  unfold SocketAddress.ofChars? at read
  rw [closed] at read
  split at read
  · rename_i found whole
    cases read
    cases numeric : SocketAddress.readV4 cs with
    | none =>
      rw [numeric] at whole
      cases whole
    | some parts =>
      rw [numeric] at whole
      cases whole
      exact readV4_family numeric
  · cases read

def unspecified : List Char := "0.0.0.0".toList

theorem unspecified_ipv6 (rest : List Char) : ipv6Host? (unspecified ++ ':' :: rest) = none := rfl

theorem lookup_family (plain : ∀ entry ∈ names, ':' ∉ entry.1.toList) {ip : IpAddress}
    (known : ip ∈ lookupHost names (unspecified ++ ':' :: rest)) : ∃ own, ip = .v4 own := by
  unfold lookupHost numericHost? at known
  rw [unspecified_ipv6] at known
  cases octets : ipv4Host? (unspecified ++ ':' :: rest) with
  | some own =>
    rw [octets] at known
    exact ⟨own, List.mem_singleton.mp known⟩
  | none =>
    rw [octets] at known
    obtain ⟨entry, listed, -⟩ := List.mem_map.mp known
    obtain ⟨present, named⟩ := List.mem_filter.mp listed
    have colon : ':' ∈ entry.1.toList := by simp [beq_iff_eq.mp named]
    exact absurd colon (plain entry present)

theorem unspecified_cut {host : List Char}
    (cut : Text.splitLast ':' (unspecified ++ ':' :: rest) = some (host, numeral)) :
    host = unspecified ∨ ∃ inner, host = unspecified ++ ':' :: inner := by
  obtain ⟨shape, last⟩ := Text.splitLast_eq_some_iff.mp cut
  rcases List.append_eq_append_iff.mp shape with ⟨inner, rfl, tail⟩ | ⟨inner, own, tail⟩
  · cases inner with
    | nil => exact .inl (List.append_nil _)
    | cons c inner =>
      obtain ⟨rfl, -⟩ := List.cons.inj tail
      exact .inr ⟨inner, rfl⟩
  · cases inner with
    | nil => exact .inl (own.trans (List.append_nil _)).symm
    | cons c inner =>
      obtain ⟨rfl, -⟩ := List.cons.inj tail
      have colon : ':' ∈ unspecified := by simp [own]
      exact absurd colon (by decide)

-- Whatever follows the host that stands for an empty one, it is never an IPv6 address.
theorem resolve_family (plain : ∀ entry ∈ names, ':' ∉ entry.1.toList)
    (resolved : resolve names (unspecified ++ ':' :: rest) = .ok found) :
    ∀ wanted ∈ found, ∃ ip, wanted.ip = .v4 ip := by
  unfold resolve at resolved
  split at resolved
  · rename_i address numeric
    cases resolved
    intro wanted present
    rw [List.mem_singleton.mp present]
    exact ofChars_family (fun bracket => by cases bracket) numeric
  · split at resolved
    · cases resolved
    · rename_i host numeral cut
      split at resolved
      · cases resolved
      · split at resolved
        · cases resolved
        · cases resolved
          intro wanted present
          obtain ⟨ip, known, rfl⟩ := List.mem_map.mp present
          rcases unspecified_cut cut with rfl | ⟨inner, rfl⟩
          · exact ⟨_, List.mem_singleton.mp known⟩
          · exact lookup_family plain known

end Resolve

theorem hostless_bind {rest : String} (hostless : address.address = ":" ++ rest)
    (plain : ∀ entry ∈ network.names, ':' ∉ entry.1.toList) :
    address.bindTcp family network =
      ListenAddress.bindTcp ⟨address.network, "0.0.0.0" ++ address.address⟩ family network ∧
    ∀ bound, address.bindTcp family network = .ok bound → ∃ ip, bound.ip = .v4 ip := by
  have given : address.address.toList = ':' :: rest.toList := by
    rw [hostless, String.toList_append]
    rfl
  have whole : Resolve.completed address.address.toList =
      Resolve.unspecified ++ ':' :: rest.toList := by
    rw [given]
    rfl
  constructor
  · unfold ListenAddress.bindTcp
    rw [whole, String.toList_append, given]
    rfl
  · intro bound done
    have binds := bindTcp_binds address family network
    rw [done] at binds
    cases binds with
    | bound stands present inside granted =>
      rw [Stands, whole] at stands
      rw [(Network.bindOne_granted granted).1]
      exact Resolve.resolve_family plain stands _ present

theorem bindTcp_failure {error : ListenerError}
    (failed : ListenerError.bindTcp address family network = .error error) :
    ∃ cause, error = .bind address.network address.address cause := by
  obtain ⟨cause, -, shown⟩ := mapError_error_iff.mp failed
  exact ⟨cause, shown.symm⟩

-- Every bind that succeeds is of the family and on the port that are asked for, unless any port is.
-- One that fails names the address as it is configured, with a reason of its own for each thing
-- that is wrong with the text, and an address without a host never leads to IPv6.
theorem bind_outcome (address : ListenAddress) (family : IpFamily) {network : Network}
    (ordinary : network.Ordinary) :
    (∀ bound, ListenerError.bindTcp address family network = .ok bound →
      InFamily family bound.ip ∧ ∃ numeral port, Numbered address.address.toList numeral ∧
        PortNumeral numeral port ∧ (port ≠ 0 → bound.port = port)) ∧
    (∀ error, ListenerError.bindTcp address family network = .error error →
      ∃ cause, error = .bind address.network address.address cause) ∧
    (FailsWith address family network "invalid socket address" ↔ ':' ∉ address.address.toList) ∧
    (FailsWith address family network "invalid port value" ↔
      ∃ numeral, Numbered address.address.toList numeral ∧ ¬∃ port, PortNumeral numeral port) ∧
    (FailsWith address family network "could not resolve to any addresses" ↔
      ∃ found, Stands network address found ∧ ∀ wanted ∈ found, ¬InFamily family wanted.ip) ∧
    ∀ rest, address.address = ":" ++ rest →
      address.bindTcp family network =
        ListenAddress.bindTcp ⟨address.network, "0.0.0.0" ++ address.address⟩ family network ∧
      ∀ bound, ListenerError.bindTcp address family network = .ok bound →
        ∃ ip, bound.ip = .v4 ip := by
  refine ⟨?_, ?_, ?_, ?_, ?_, ?_⟩
  · intro bound done
    have binds := bindTcp_binds address family network
    rw [bindTcp_ok.mp done] at binds
    cases binds with
    | bound stands present inside granted =>
      obtain ⟨ip, port⟩ := Network.bindOne_granted granted
      obtain ⟨before, numeral, cut, read⟩ := Resolve.resolve_port stands present
      have numbered := numbered_completed.mp (numbered_exact.mpr (by rw [cut]; rfl))
      exact ⟨ip ▸ inside, numeral, _, numbered, port_exact.mp read, port⟩
  · intro error failed
    exact bindTcp_failure failed
  · exact (failsWith_exact ordinary (.inl rfl)).trans (failed_portless ordinary)
  · exact (failsWith_exact ordinary (.inr (.inl rfl))).trans (failed_unreadable ordinary)
  · exact (failsWith_exact ordinary (.inr (.inr rfl))).trans (failed_excluded ordinary)
  · intro rest hostless
    obtain ⟨same, family⟩ := hostless_bind hostless ordinary.names
    exact ⟨same, fun bound done => family bound (bindTcp_ok.mp done)⟩

def dualStack : Network :=
  { Network.isolated with
    names := [("localhost", .v6 ⟨#v[0, 0, 0, 0, 0, 0, 0, 1]⟩ 0), ("localhost", .v4 ⟨127, 0, 0, 1⟩)]
    refusal := fun _ wanted =>
      if wanted.port = 80 then some (.os Kernel.Errno.permissionDenied) else none }

theorem dualStack_ordinary : dualStack.Ordinary where
  refusal := by
    intro address cause refused
    obtain ⟨-, same⟩ := Option.ite_none_right_eq_some.mp refused
    exact ⟨_, (Option.some.inj same).symm⟩
  blocking := nofun
  names := by
    intro entry listed
    rcases List.mem_cons.mp listed with rfl | later
    · decide
    · rw [List.mem_singleton.mp later]
      decide

theorem second_address_bound :
    ListenerError.bindTcp ⟨"tcp4", "localhost:+08443"⟩ .v4 dualStack =
        .ok ⟨.v4 ⟨127, 0, 0, 1⟩, 8443⟩ ∧
      dualStack.Ordinary ∧ InFamily .v4 (.v4 ⟨127, 0, 0, 1⟩) ∧
      FailsWith ⟨"tcp6", ":80"⟩ .v6 dualStack "could not resolve to any addresses" ∧
      FailsWith ⟨"tcp", "[::1]"⟩ .any dualStack "invalid port value" := by
  have done : ListenerError.bindTcp ⟨"tcp4", "localhost:+08443"⟩ .v4 dualStack =
      .ok ⟨.v4 ⟨127, 0, 0, 1⟩, 8443⟩ := rfl
  obtain ⟨bound, -⟩ := bind_outcome ⟨"tcp4", "localhost:+08443"⟩ .v4 dualStack_ordinary
  obtain ⟨-, -, -, -, excluded, -⟩ := bind_outcome ⟨"tcp6", ":80"⟩ .v6 dualStack_ordinary
  obtain ⟨-, -, -, unreadable, -⟩ := bind_outcome ⟨"tcp", "[::1]"⟩ .any dualStack_ordinary
  have stands : Stands dualStack ⟨"tcp6", ":80"⟩ [⟨.v4 .unspecified, 80⟩] := rfl
  refine ⟨done, dualStack_ordinary, (bound _ done).1, excluded.mpr ⟨_, stands, ?_⟩,
    unreadable.mpr ⟨"1]".toList, ⟨"[:".toList, by decide, by decide⟩, port_none.mp (by decide)⟩⟩
  intro wanted present inside
  rw [List.mem_singleton.mp present] at inside
  cases inside

end WebListener.Net
