import WebListener.Net.Resolve
import WebListener.Proofs.Net.PortNumeral
import WebListener.Proofs.Net.Readers
import WebListener.Proofs.Text.Blank
-- The port that a TCP address asks for: the number after the last colon of the trimmed text,
-- whether the address is numeric or its host has to be looked up.
namespace WebListener.Net

variable {cs before after : List Char} {port : Port}

theorem numeric_port {address : SocketAddress} (read : SocketAddress.ofChars? cs = some address) :
    ∃ before digits, Text.splitLast ':' cs = some (before, digits) ∧
      Port.ofChars? digits = some address.port := by
  obtain ⟨before, digits, n, shape, own, found, bound, port⟩ := SocketAddress.ofChars_ported read
  obtain ⟨given, decimal, value⟩ := Text.decimal_exact.mp found
  refine ⟨before, digits, Text.splitLast_eq_some_iff.mpr ⟨shape, ?_⟩, ?_⟩
  · intro colon
    exact absurd (own ':' colon) (by decide)
  · refine port_exact.mpr (.plain given decimal ?_)
    rw [value, port, UInt16.toNat_ofNat']
    omega

namespace Resolve

theorem resolve_port {names : List (String × IpAddress)} {found : List SocketAddress}
    (resolved : resolve names cs = .ok found) {socket : SocketAddress} (present : socket ∈ found) :
    ∃ before after, Text.splitLast ':' cs = some (before, after) ∧
      Port.ofChars? after = some socket.port := by
  unfold resolve at resolved
  split at resolved
  · rename_i address numeric
    cases resolved
    obtain rfl := List.mem_singleton.mp present
    exact numeric_port numeric
  · split at resolved
    · cases resolved
    · rename_i host port cut
      split at resolved
      · cases resolved
      · rename_i number read
        split at resolved
        · cases resolved
        · cases resolved
          obtain ⟨ip, -, rfl⟩ := List.mem_map.mp present
          exact ⟨host, port, cut, read⟩

theorem resolve_known (cut : Text.splitLast ':' cs = some (before, after))
    (read : Port.ofChars? after = some port) :
    ∃ names found, resolve names cs = .ok found ∧ ∃ socket ∈ found, socket.port = port := by
  cases numeric : SocketAddress.ofChars? cs with
  | some address =>
    obtain ⟨host, digits, own, number⟩ := numeric_port numeric
    rw [cut] at own
    cases own
    rw [read] at number
    refine ⟨[], [address], by simp [resolve, numeric], address, by simp, ?_⟩
    exact (Option.some.inj number).symm
  | none =>
    let known : List (String × IpAddress) := [(.ofList before, .v4 .unspecified)]
    have some_host : lookupHost known before ≠ [] := by
      unfold lookupHost
      split <;> simp [known]
    obtain ⟨ip, others, listed⟩ := List.exists_cons_of_ne_nil some_host
    refine ⟨known, (ip :: others).map (⟨·, port⟩), ?_, ⟨ip, port⟩, by simp, rfl⟩
    simp [resolve, numeric, cut, read, listed]

theorem completed_cut (cs : List Char) :
    (Text.splitLast ':' (completed cs)).map (·.2) = (Text.splitLast ':' cs).map (·.2) := by
  unfold completed
  split
  · rename_i colon
    have present : ':' ∈ cs := List.mem_of_head? colon
    cases cut : Text.splitLast ':' cs with
    | none => exact absurd present (Text.splitLast_eq_none_iff.mp cut)
    | some parts =>
      obtain ⟨shape, absent⟩ := Text.splitLast_eq_some_iff.mp cut
      have longer : Text.splitLast ':' ("0.0.0.0".toList ++ cs) =
          some ("0.0.0.0".toList ++ parts.1, parts.2) :=
        Text.splitLast_eq_some_iff.mpr ⟨by rw [List.append_assoc, ← shape], absent⟩
      rw [longer]
      rfl
  · rfl

end Resolve

-- A TCP address asks for a port if on some machine it stands for a socket address with that port.
def Asks (address : String) (port : Port) : Prop :=
  ∃ names found, Resolve.resolve names
      (Resolve.completed (ListenAddress.tcp address).address.toList) = .ok found ∧
    ∃ socket ∈ found, socket.port = port

theorem asks_exact {address : String} : Asks address port ↔
    ∃ before after, Text.splitLast ':' (Text.trimmed address.toList) = some (before, after) ∧
      Port.ofChars? after = some port := by
  have whole : (ListenAddress.tcp address).address.toList = Text.trimmed address.toList := by
    simp [ListenAddress.tcp, Text.trim]
  have same := Resolve.completed_cut (Text.trimmed address.toList)
  unfold Asks
  rw [whole]
  constructor
  · rintro ⟨names, found, resolved, socket, present, rfl⟩
    obtain ⟨before, after, cut, read⟩ := Resolve.resolve_port resolved present
    rw [cut] at same
    obtain ⟨⟨own, digits⟩, trimmedCut, rfl⟩ := Option.map_eq_some_iff.mp same.symm
    exact ⟨own, digits, trimmedCut, read⟩
  · rintro ⟨before, after, cut, read⟩
    rw [cut] at same
    obtain ⟨⟨own, digits⟩, completedCut, rfl⟩ := Option.map_eq_some_iff.mp same
    exact Resolve.resolve_known completedCut read

end WebListener.Net
