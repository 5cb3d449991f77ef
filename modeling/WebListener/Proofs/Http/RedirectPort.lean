import WebListener.Proofs.Http.Redirecting
import WebListener.Proofs.Net.AskedPort
-- Which port redirects name. The HTTPS listener trims its address before it reads the port and the
-- redirector does not, so they part where the address has blanks at its end.
namespace WebListener.Http

open Config (Options)
open Net (Asks Port)

variable {cs : List Char} {options : Options} {port : Port} {request : Request}

def EndsBlank (address : String) : Prop :=
  ∃ last, address.toList.getLast? = some last ∧ Text.isBlank last = true

theorem blank_unnumbered {c : Char} (present : c ∈ cs) (blank : Text.isBlank c = true) :
    Net.Port.ofChars? cs = none := by
  apply Net.port_none.mpr
  rintro ⟨port, numeral⟩
  have range := numeral.range c present
  have beyond := Text.blank_range blank
  omega

theorem httpsPort_asked (asks : Asks options.httpsAddress port) :
    (¬EndsBlank options.httpsAddress → options.httpsPort = port) ∧
      (EndsBlank options.httpsAddress → options.httpsPort = 443) := by
  obtain ⟨before, after, cut, read⟩ := Net.asks_exact.mp asks
  obtain ⟨lead, trail, own, blanks, ends⟩ := Text.splitLast_trimmed (by decide) cut
  unfold Options.httpsPort
  rw [own]
  constructor
  · intro visible
    rw [ends.mpr visible, List.append_nil]
    dsimp only
    rw [read]
    rfl
  · intro blank
    have some_blank : trail ≠ [] := fun none => ends.mp none blank
    obtain ⟨c, rest, rfl⟩ := List.exists_cons_of_ne_nil some_blank
    dsimp only
    rw [blank_unnumbered (c := c) (by simp) (blanks c List.mem_cons_self)]
    rfl

open Redirect in
-- Every location names the port that the redirector reads, and that is the one its listener asks
-- for unless blanks at the end of the address hide it.
theorem redirect_names_asked_port_iff (asks : Asks options.httpsAddress port) :
    (options.httpsPort = port ↔ port = 443 ∨ ¬EndsBlank options.httpsAddress) ∧
    (EndsBlank options.httpsAddress → options.httpsPort = 443) ∧
    ∀ bytes request, Uri.ofBytes bytes = .ok request.uri →
      (application options.httpsPort request).response.status = 308 →
      ∃ host bare, Names request host ∧ WithoutPort host bare ∧
        (application options.httpsPort request).response.headers.filter (·.name = "location") =
          [⟨"location", Text.utf8 (.ofList (location bare request.uri options.httpsPort))⟩] := by
  obtain ⟨visible, blank⟩ := httpsPort_asked asks
  refine ⟨⟨?_, ?_⟩, blank, ?_⟩
  · intro same
    by_cases ends : EndsBlank options.httpsAddress
    · exact .inl (same.symm.trans (blank ends))
    · exact .inr ends
  · rintro (usual | free)
    · by_cases ends : EndsBlank options.httpsAddress
      · exact (blank ends).trans usual.symm
      · exact visible ends
    · exact visible free
  · intro bytes request accepted sent
    exact application_sent accepted options.httpsPort sent

def onPort (address : String) : Options := { Options.standard with httpsAddress := address }

open Redirect in
theorem leading_blanks_harmless :
    Asks (onPort " [::1]:08443").httpsAddress 8443 ∧ (onPort " [::1]:08443").httpsPort = 8443 := by
  have asks : Asks (onPort " [::1]:08443").httpsAddress 8443 :=
    Net.asks_exact.mpr ⟨"[::1]".toList, "08443".toList, by decide, by decide⟩
  have free : ¬EndsBlank (onPort " [::1]:08443").httpsAddress := by
    rintro ⟨last, found, blank⟩
    obtain rfl : '3' = last := Option.some.inj found
    cases blank
  exact ⟨asks, (redirect_names_asked_port_iff asks).1.mpr (.inr free)⟩

theorem trailing_blank_hides_port :
    Asks (onPort "0.0.0.0:8443 ").httpsAddress 8443 ∧ (onPort "0.0.0.0:8443 ").httpsPort = 443 :=
  ⟨Net.asks_exact.mpr ⟨"0.0.0.0".toList, "8443".toList, by decide, by decide⟩, by decide⟩

end WebListener.Http
