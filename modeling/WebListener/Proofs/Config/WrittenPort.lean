import WebListener.Config.Options
import WebListener.Proofs.Net.PortDigits
-- The port that an HTTPS address means to the redirector: the number after its last colon, where
-- it is a number and fits, and the usual port everywhere else.
namespace WebListener.Config

open Net (Numeral Port)

variable {after before : List Char} {n : Nat} {options : Options}

inductive MeansPort (address : List Char) : Nat → Prop where
  | written {before after : List Char} {n : Nat} (cut : address = before ++ ':' :: after)
      (final : ':' ∉ after) (numeral : Numeral after n) (fits : n ≤ 65535) : MeansPort address n
  | colonless (none : ':' ∉ address) : MeansPort address 443
  | unreadable {before after : List Char} (cut : address = before ++ ':' :: after)
      (final : ':' ∉ after) (unlike : ∀ n, ¬Numeral after n) : MeansPort address 443
  | tooLarge {before after : List Char} {n : Nat} (cut : address = before ++ ':' :: after)
      (final : ':' ∉ after) (numeral : Numeral after n) (large : 65536 ≤ n) : MeansPort address 443

theorem httpsPort_cut (cut : options.httpsAddress.toList = before ++ ':' :: after)
    (final : ':' ∉ after) : options.httpsPort = (Port.ofChars? after).getD 443 := by
  unfold Options.httpsPort
  rw [Text.splitLast_eq_some_iff.mpr ⟨cut, final⟩]
  rfl

theorem httpsPort_colonless (none : ':' ∉ options.httpsAddress.toList) :
    options.httpsPort = 443 := by
  unfold Options.httpsPort
  rw [Text.splitLast_eq_none_iff.mpr none]
  rfl

theorem MeansPort.read (means : MeansPort options.httpsAddress.toList n) :
    options.httpsPort.toNat = n := by
  cases means with
  | written cut final numeral fits =>
    rw [httpsPort_cut cut final, numeral.fitting fits, Option.getD_some, UInt16.toNat_ofNat']
    omega
  | colonless none =>
    rw [httpsPort_colonless none]
    rfl
  | unreadable cut final unlike =>
    rw [httpsPort_cut cut final, Net.unlike_numeral unlike]
    rfl
  | tooLarge cut final numeral large =>
    rw [httpsPort_cut cut final, numeral.beyond large]
    rfl

theorem means_some (address : List Char) : ∃ n, MeansPort address n := by
  cases cut : Text.splitLast ':' address with
  | none => exact ⟨443, .colonless (Text.splitLast_eq_none_iff.mp cut)⟩
  | some parts =>
    obtain ⟨shape, final⟩ := Text.splitLast_eq_some_iff.mp cut
    cases value : Text.decimal? (Net.unsigned parts.2) with
    | none =>
      refine ⟨443, .unreadable shape final ?_⟩
      intro n numeral
      rw [Net.numeral_exact, value] at numeral
      cases numeral
    | some n =>
      have numeral : Numeral parts.2 n := Net.numeral_exact.mpr value
      by_cases fits : n ≤ 65535
      · exact ⟨n, .written shape final numeral fits⟩
      · exact ⟨443, .tooLarge shape final numeral (by omega)⟩

theorem means_exact :
    MeansPort options.httpsAddress.toList n ↔ options.httpsPort.toNat = n := by
  constructor
  · exact MeansPort.read
  · intro same
    obtain ⟨own, means⟩ := means_some options.httpsAddress.toList
    rw [← same, means.read]
    exact means

theorem written_final (port : Port) : ':' ∉ Text.decimalChars port.toNat := by
  intro colon
  obtain ⟨-, decimal, -⟩ := Text.decimal_exact.mp (Text.decimal_written port.toNat)
  exact absurd (decimal ':' colon) (by decide)

theorem httpsPort_written {host : String} {port : Port}
    (written : options.httpsAddress = host ++ ":" ++ port.text) : options.httpsPort = port := by
  have cut : options.httpsAddress.toList = host.toList ++ ':' :: Text.decimalChars port.toNat := by
    rw [written]
    simp [Port.text]
  rw [httpsPort_cut cut (written_final port), Net.port_written]
  rfl

-- The same port is read in sixteen bits, where a digit is taken only if there is room for it.
theorem https_port_means_number (options : Options) :
    (∀ n, MeansPort options.httpsAddress.toList n ↔ options.httpsPort.toNat = n) ∧
    (∀ (host : String) (port : Port), options.httpsAddress = host ++ ":" ++ port.text →
      options.httpsPort = port) ∧
    options.httpsPort = ((Text.splitLast ':' options.httpsAddress.toList).bind fun parts =>
      Port.byDigits? parts.2).getD 443 := by
  refine ⟨fun n => means_exact, fun host port => httpsPort_written, ?_⟩
  cases cut : Text.splitLast ':' options.httpsAddress.toList with
  | none =>
    rw [httpsPort_colonless (Text.splitLast_eq_none_iff.mp cut)]
    rfl
  | some parts =>
    obtain ⟨shape, final⟩ := Text.splitLast_eq_some_iff.mp cut
    rw [httpsPort_cut shape final, Option.bind_some, Port.byDigits_exact]

end WebListener.Config
