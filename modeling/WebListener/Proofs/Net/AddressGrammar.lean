import WebListener.ListenerError
import WebListener.Proofs.Outcomes
import WebListener.Proofs.Text.Blank
import WebListener.Proofs.Text.Split
-- Listen addresses by their grammar: a text without a separator is an address on TCP as it stands,
-- and any other one is a scheme, the first separator and an address that is not empty.
namespace WebListener.Net

open ListenAddress (separator networkOf)
open ListenerError (parseAddress transportOf)

variable {c : Char} {cs scheme rest : List Char} {raw : String} {address : ListenAddress}

def Letter (c : Char) : Prop := 'a' ≤ c ∧ c ≤ 'z' ∨ 'A' ≤ c ∧ c ≤ 'Z'

def SchemeMark (c : Char) : Prop := '0' ≤ c ∧ c ≤ '9' ∨ c = '+' ∨ c = '-' ∨ c = '.'

inductive Scheme : List Char → Prop where
  | letters {first : Char} {rest : List Char} (letter : Letter first)
      (others : ∀ c ∈ rest, Letter c ∨ SchemeMark c) : Scheme (first :: rest)

theorem isAlpha_letter : c.isAlpha = true ↔ Letter c := by
  unfold Char.isAlpha Char.isUpper Char.isLower Letter
  simp [Char.le_def, or_comm]

theorem isSchemeChar_exact : ListenAddress.isSchemeChar c = true ↔ Letter c ∨ SchemeMark c := by
  unfold ListenAddress.isSchemeChar Char.isAlphanum SchemeMark Char.isDigit
  simp [isAlpha_letter, Char.le_def, or_assoc]

theorem isScheme_exact : ListenAddress.isScheme cs = true ↔ Scheme cs := by
  cases cs with
  | nil => exact ⟨nofun, nofun⟩
  | cons first rest =>
    simp only [ListenAddress.isScheme, Bool.and_eq_true, List.all_eq_true, isAlpha_letter,
      isSchemeChar_exact]
    constructor
    · rintro ⟨letter, others⟩
      exact .letters letter others
    · rintro ⟨letter, others⟩
      exact ⟨letter, others⟩

theorem Scheme.colonless (valid : Scheme cs) : ':' ∉ cs := by
  have other : ¬(Letter ':' ∨ SchemeMark ':') := by
    rw [← isSchemeChar_exact]
    decide
  cases valid with
  | letters letter others =>
    intro present
    rcases List.mem_cons.mp present with rfl | later
    · exact other (.inl letter)
    · exact other (others ':' later)

theorem Scheme.cut (valid : Scheme scheme) (rest : List Char) :
    Text.splitFirst separator (scheme ++ separator ++ rest) = some (scheme, rest) :=
  Text.splitFirst_absent valid.colonless _ rest

inductive Spells : List Char → ListenAddress → Prop where
  | bare {cs : List Char} (given : cs ≠ []) (free : ¬separator <:+: cs) :
      Spells cs ⟨"tcp", .ofList cs⟩
  | schemed {scheme rest : List Char} (valid : Scheme scheme) (given : rest ≠ []) :
      Spells (scheme ++ separator ++ rest) ⟨.ofList (networkOf scheme), .ofList rest⟩

theorem ofTrimmed_bare (given : cs ≠ []) (free : ¬separator <:+: cs) :
    ListenAddress.ofTrimmed cs = .ok ⟨"tcp", .ofList cs⟩ := by
  have uncut := Text.splitFirst_eq_none_iff.mpr free
  simp [ListenAddress.ofTrimmed, given, uncut]

theorem ofTrimmed_cut (cut : Text.splitFirst separator cs = some (scheme, rest)) :
    (¬Scheme scheme → ListenAddress.ofTrimmed cs = .error .invalidScheme) ∧
    (Scheme scheme → rest = [] → ListenAddress.ofTrimmed cs = .error .missingAddress) ∧
    (Scheme scheme → rest ≠ [] →
      ListenAddress.ofTrimmed cs = .ok ⟨.ofList (networkOf scheme), .ofList rest⟩) := by
  have given : cs ≠ [] := by
    rintro rfl
    cases cut
  simp only [ListenAddress.ofTrimmed, List.isEmpty_iff, given, cut, ← isScheme_exact]
  refine ⟨?_, ?_, ?_⟩
  · intro invalid
    simp [invalid]
  · intro valid missing
    simp [valid, missing]
  · intro valid present
    simp [valid, present]

theorem ofTrimmed_exact : ListenAddress.ofTrimmed cs = .ok address ↔ Spells cs address := by
  constructor
  · intro read
    cases cut : Text.splitFirst separator cs with
    | none =>
      have free := Text.splitFirst_eq_none_iff.mp cut
      cases cs with
      | nil => cases read
      | cons first others =>
        rw [ofTrimmed_bare (List.cons_ne_nil _ _) free] at read
        cases read
        exact .bare (List.cons_ne_nil _ _) free
    | some parts =>
      obtain ⟨scheme, rest⟩ := parts
      obtain ⟨invalid, missing, valid⟩ := ofTrimmed_cut cut
      by_cases named : Scheme scheme
      · by_cases empty : rest = []
        · rw [missing named empty] at read
          cases read
        · rw [valid named empty] at read
          cases read
          rw [(Text.splitFirst_eq_some_iff.mp cut).1]
          exact .schemed named empty
      · rw [invalid named] at read
        cases read
  · intro spells
    cases spells with
    | bare given free => exact ofTrimmed_bare given free
    | schemed valid given => exact (ofTrimmed_cut (valid.cut _)).2.2 valid given

theorem parseAddress_exact :
    parseAddress raw = .ok address ↔ Spells (Text.trimmed raw.toList) address := by
  rw [← ofTrimmed_exact, parseAddress, mapError_ok_iff]
  rfl

theorem parseAddress_fault {fault : AddressFault}
    (refused : ListenAddress.ofTrimmed (Text.trimmed raw.toList) = .error fault) :
    parseAddress raw = .error (.address (Text.trim raw) fault) :=
  mapError_error_iff.mpr ⟨fault, refused, rfl⟩

theorem parseAddress_refusal {error : ListenerError} (refused : parseAddress raw = .error error) :
    ∃ fault, error = .address (Text.trim raw) fault := by
  obtain ⟨fault, -, shown⟩ := mapError_error_iff.mp refused
  exact ⟨fault, shown.symm⟩

theorem networkOf_http (http : scheme.map Char.toLower = "http".toList) :
    networkOf scheme = "tcp".toList := by
  rw [networkOf, http]
  rfl

theorem networkOf_other (other : scheme.map Char.toLower ≠ "http".toList) :
    networkOf scheme = scheme.map Char.toLower :=
  if_neg other

theorem networkOf_named (valid : Scheme scheme) :
    networkOf scheme ≠ [] ∧ networkOf scheme ≠ "http".toList := by
  by_cases http : scheme.map Char.toLower = "http".toList
  · rw [networkOf_http http]
    decide
  · rw [networkOf_other http]
    refine ⟨?_, http⟩
    cases valid with
    | letters letter others => exact List.cons_ne_nil _ _

-- What reaches a bind: neither part is empty, and "http" is no network.
theorem Spells.named (spells : Spells cs address) :
    address.network ≠ "" ∧ address.network ≠ "http" ∧ address.address ≠ "" := by
  cases spells with
  | bare given free =>
    refine ⟨(by decide : "tcp" ≠ ""), (by decide : "tcp" ≠ "http"), ?_⟩
    simpa [← String.toList_inj] using given
  | schemed valid given =>
    obtain ⟨network, other⟩ := networkOf_named valid
    simp only [ne_eq, ← String.toList_inj, String.toList_ofList]
    exact ⟨network, other, given⟩

theorem transport_path {path : String} (unix : transportOf address = .ok (.unix path)) :
    path = address.address := by
  unfold transportOf ListenAddress.transport? at unix
  split at unix
  · rename_i transport found
    split at found <;> cases found <;> cases unix
    rfl
  · cases unix

-- Every text is accepted or turned away by the grammar alone.
theorem address_grammar (raw : String) :
    (¬separator <:+: Text.trimmed raw.toList →
      (Text.trimmed raw.toList ≠ [] →
        parseAddress raw = .ok (ListenAddress.tcp raw) ∧
        (ListenAddress.tcp raw).network = "tcp" ∧
        (ListenAddress.tcp raw).address.toList = Text.trimmed raw.toList) ∧
      (Text.trimmed raw.toList = [] →
        parseAddress raw = .error (.address (Text.trim raw) .empty))) ∧
    (∀ scheme rest, Text.trimmed raw.toList = scheme ++ "://".toList ++ rest →
      (∀ before after, Text.trimmed raw.toList = before ++ "://".toList ++ after →
        scheme.length ≤ before.length) →
      (Scheme scheme → rest ≠ [] →
        ∃ network, parseAddress raw = .ok ⟨.ofList network, .ofList rest⟩ ∧
          (scheme.map Char.toLower = "http".toList → network = "tcp".toList) ∧
          (scheme.map Char.toLower ≠ "http".toList → network = scheme.map Char.toLower)) ∧
      (¬Scheme scheme → parseAddress raw = .error (.address (Text.trim raw) .invalidScheme)) ∧
      (Scheme scheme → rest = [] →
        parseAddress raw = .error (.address (Text.trim raw) .missingAddress))) ∧
    (∀ error, parseAddress raw = .error error → ∃ fault, error = .address (Text.trim raw) fault) ∧
    ∀ address, parseAddress raw = .ok address →
      address.network ≠ "" ∧ address.network ≠ "http" ∧ address.address ≠ "" ∧
      ∀ path, transportOf address = .ok (.unix path) → path = address.address := by
  refine ⟨fun free => ⟨fun given => ⟨?_, rfl, ?_⟩, fun empty => ?_⟩, ?_, ?_, ?_⟩
  · exact parseAddress_exact.mpr (.bare given free)
  · simp [ListenAddress.tcp, Text.trim]
  · apply parseAddress_fault
    rw [empty]
    rfl
  · intro scheme rest shape least
    have cut : Text.splitFirst separator (Text.trimmed raw.toList) = some (scheme, rest) :=
      Text.splitFirst_eq_some_iff.mpr ⟨shape, least⟩
    obtain ⟨invalid, missing, -⟩ := ofTrimmed_cut cut
    refine ⟨fun valid given => ?_, fun named => parseAddress_fault (invalid named),
      fun valid empty => parseAddress_fault (missing valid empty)⟩
    have spells : Spells (Text.trimmed raw.toList) ⟨.ofList (networkOf scheme), .ofList rest⟩ := by
      rw [shape]
      exact .schemed valid given
    exact ⟨_, parseAddress_exact.mpr spells, networkOf_http, networkOf_other⟩
  · intro error refused
    exact parseAddress_refusal refused
  · intro address accepted
    obtain ⟨network, other, given⟩ := (parseAddress_exact.mp accepted).named
    exact ⟨network, other, given, fun path unix => transport_path unix⟩

theorem later_separator_kept :
    parseAddress " HTTP+x://a://b\t" = .ok ⟨"http+x", "a://b"⟩ := by
  have cut : Text.splitFirst separator (Text.trimmed " HTTP+x://a://b\t".toList) =
      some ("HTTP+x".toList, "a://b".toList) := by decide
  obtain ⟨shape, least⟩ := Text.splitFirst_eq_some_iff.mp cut
  have valid : Scheme "HTTP+x".toList := isScheme_exact.mp (by decide)
  obtain ⟨network, accepted, -, other⟩ :=
    ((address_grammar " HTTP+x://a://b\t").2.1 _ _ shape least).1 valid (by decide)
  obtain rfl : network = "http+x".toList := other (by decide)
  exact accepted

end WebListener.Net
