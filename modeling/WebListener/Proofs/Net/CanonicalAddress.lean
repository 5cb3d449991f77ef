import Mathlib
import WebListener.Lifecycle.Startup
import WebListener.Proofs.Net.AddressGrammar
-- Network and address spell an accepted address again: the network is a scheme in lower case, and
-- neither letter case nor blanks around the text change what it stands for. To the plain listener
-- all spellings of one address are the same.
namespace WebListener.Net

open Lifecycle (Startup)
open ListenAddress (separator networkOf)
open ListenerError (parseAddress transportOf)

variable {c : Char} {cs scheme network rest : List Char} {address : ListenAddress}

theorem letter_lower : Letter c.toLower ↔ Letter c := by
  rw [← isAlpha_letter, ← isAlpha_letter, Char.isAlpha_toLower_eq_isAlpha]

theorem lower_other (other : ¬Letter c) : c.toLower = c := by
  apply Char.toLower_eq_of_not_isUpper
  intro upper
  exact other (isAlpha_letter.mp (by simp [Char.isAlpha, upper]))

theorem schemeChar_lower : Letter c.toLower ∨ SchemeMark c.toLower ↔ Letter c ∨ SchemeMark c := by
  by_cases letter : Letter c
  · simp [letter_lower, letter]
  · rw [lower_other letter]

theorem scheme_lower : Scheme (cs.map Char.toLower) ↔ Scheme cs := by
  cases cs with
  | nil => exact ⟨nofun, nofun⟩
  | cons first rest =>
    constructor
    · rintro ⟨letter, others⟩
      exact .letters (letter_lower.mp letter)
        (fun c present => schemeChar_lower.mp (others _ (List.mem_map_of_mem present)))
    · rintro ⟨letter, others⟩
      refine .letters (letter_lower.mpr letter) fun c present => ?_
      obtain ⟨own, inside, rfl⟩ := List.mem_map.mp present
      exact schemeChar_lower.mpr (others own inside)

structure Canonical (network : List Char) : Prop where
  valid : Scheme network
  lower : network.map Char.toLower = network
  other : network ≠ "http".toList

theorem tcp_canonical : Canonical "tcp".toList :=
  ⟨isScheme_exact.mp (by decide), by decide, by decide⟩

theorem networkOf_canonical (valid : Scheme scheme) : Canonical (networkOf scheme) := by
  by_cases http : scheme.map Char.toLower = "http".toList
  · rw [networkOf_http http]
    exact tcp_canonical
  · rw [networkOf_other http]
    exact ⟨scheme_lower.mpr valid, by simp, http⟩

theorem Canonical.respelled (canonical : Canonical network)
    (letters : cs.map Char.toLower = network.map Char.toLower) :
    Scheme cs ∧ networkOf cs = network := by
  rw [canonical.lower] at letters
  refine ⟨scheme_lower.mp (letters ▸ canonical.valid), ?_⟩
  rw [networkOf_other (letters ▸ canonical.other), letters]

theorem Spells.canonical (spells : Spells cs address) : Canonical address.network.toList := by
  cases spells with
  | bare given free => exact tcp_canonical
  | schemed valid given =>
    rw [String.toList_ofList]
    exact networkOf_canonical valid

theorem Spells.ends (spells : Spells cs address) :
    address.address.toList ≠ [] ∧ address.address.toList.getLast? = cs.getLast? := by
  cases spells with
  | bare given free => simpa using given
  | schemed valid given =>
    simp only [String.toList_ofList]
    exact ⟨given, by simp [List.getLast?_append, List.getLast?_eq_some_getLast given]⟩

theorem Letter.visible (letter : Letter c) : Text.isBlank c = false := by
  have range : 0x41 ≤ c.toNat ∧ c.toNat ≤ 0x7A := by
    rcases letter with ⟨low, high⟩ | ⟨low, high⟩
    · have least : 'a'.toNat ≤ c.toNat := low
      exact ⟨le_trans (by decide) least, high⟩
    · have most : c.toNat ≤ 'Z'.toNat := high
      exact ⟨low, le_trans most (by decide)⟩
  apply Bool.eq_false_iff.mpr
  intro blank
  have beyond := Text.blank_range blank
  omega

inductive Respells (address : ListenAddress) : String → Prop where
  | around (lead network trail : List Char) (leads : ∀ c ∈ lead, Text.isBlank c = true)
      (letters : network.map Char.toLower = address.network.toList.map Char.toLower)
      (trails : ∀ c ∈ trail, Text.isBlank c = true) :
      Respells address
        (.ofList (lead ++ (network ++ "://".toList ++ address.address.toList) ++ trail))

theorem schemed_trimmed (valid : Scheme scheme)
    (ends : ∀ c, (separator ++ rest).getLast? = some c → Text.isBlank c = false) :
    Text.trimmed (scheme ++ separator ++ rest) = scheme ++ separator ++ rest := by
  apply Text.trimmed_visible
  · cases valid with
    | letters letter others =>
      rintro _ ⟨⟩
      exact letter.visible
  · intro c last
    rw [List.append_assoc, List.getLast?_append_of_ne_nil _ (by simp [separator])] at last
    exact ends c last

theorem spells_around {lead trail : List Char} (leads : ∀ c ∈ lead, Text.isBlank c = true)
    (trails : ∀ c ∈ trail, Text.isBlank c = true) (valid : Scheme scheme) (given : rest ≠ [])
    (ends : ∀ c, rest.getLast? = some c → Text.isBlank c = false) :
    Spells (Text.trimmed (lead ++ (scheme ++ separator ++ rest) ++ trail))
      ⟨.ofList (networkOf scheme), .ofList rest⟩ := by
  rw [Text.trimmed_around leads trails, schemed_trimmed valid]
  · exact .schemed valid given
  · intro c last
    rw [List.getLast?_append_of_ne_nil _ given] at last
    exact ends c last

theorem Spells.respelled {spelled : String} (spells : Spells (Text.trimmed cs) address)
    (respells : Respells address spelled) : Spells (Text.trimmed spelled.toList) address := by
  obtain ⟨given, ends⟩ := spells.ends
  cases respells with
  | around lead network trail leads letters trails =>
    obtain ⟨valid, canonical⟩ := spells.canonical.respelled letters
    have same := spells_around leads trails valid given fun c last => Text.trimmed_last (ends ▸ last)
    rw [canonical, String.ofList_toList, String.ofList_toList] at same
    rwa [String.toList_ofList]

-- A text as it stands or behind a scheme that means TCP, with blanks around it.
inductive TcpSpelling (remainder : List Char) : String → Prop where
  | bare (lead trail : List Char) (leads : ∀ c ∈ lead, Text.isBlank c = true)
      (trails : ∀ c ∈ trail, Text.isBlank c = true) :
      TcpSpelling remainder (.ofList (lead ++ remainder ++ trail))
  | schemed (lead scheme trail : List Char) (leads : ∀ c ∈ lead, Text.isBlank c = true)
      (plain : scheme.map Char.toLower = "http".toList ∨ scheme.map Char.toLower = "tcp".toList)
      (trails : ∀ c ∈ trail, Text.isBlank c = true) :
      TcpSpelling remainder (.ofList (lead ++ (scheme ++ "://".toList ++ remainder) ++ trail))

theorem plain_scheme
    (plain : scheme.map Char.toLower = "http".toList ∨ scheme.map Char.toLower = "tcp".toList) :
    Scheme scheme ∧ networkOf scheme = "tcp".toList := by
  rcases plain with http | tcp
  · have valid : Scheme "http".toList := isScheme_exact.mp (by decide)
    exact ⟨scheme_lower.mp (http ▸ valid), networkOf_http http⟩
  · exact tcp_canonical.respelled (tcp.trans tcp_canonical.lower.symm)

theorem TcpSpelling.spells {spelled : String} (spelling : TcpSpelling rest spelled)
    (whole : Text.trimmed rest = rest) (free : ¬separator <:+: rest) (given : rest ≠ []) :
    Spells (Text.trimmed spelled.toList) ⟨"tcp", .ofList rest⟩ := by
  cases spelling with
  | bare lead trail leads trails =>
    rw [String.toList_ofList, Text.trimmed_around leads trails, whole]
    exact .bare given free
  | schemed lead scheme trail leads plain trails =>
    obtain ⟨valid, network⟩ := plain_scheme plain
    have visible : ∀ c, rest.getLast? = some c → Text.isBlank c = false := by
      intro c last
      rw [← whole] at last
      exact Text.trimmed_last last
    have same := spells_around leads trails valid given visible
    rw [network] at same
    rwa [String.toList_ofList]

theorem TcpSpelling.refused {spelled : String} (spelling : TcpSpelling [] spelled) :
    ∃ fault, ListenAddress.ofTrimmed (Text.trimmed spelled.toList) = .error fault := by
  cases spelling with
  | bare lead trail leads trails =>
    rw [String.toList_ofList, Text.trimmed_around leads trails]
    exact ⟨.empty, rfl⟩
  | schemed lead scheme trail leads plain trails =>
    obtain ⟨valid, -⟩ := plain_scheme plain
    have visible : ∀ c, (separator ++ []).getLast? = some c → Text.isBlank c = false := by
      rintro _ ⟨⟩
      decide
    have missing := (ofTrimmed_cut (valid.cut [])).2.1 valid rfl
    rw [← schemed_trimmed valid visible] at missing
    rw [String.toList_ofList, Text.trimmed_around leads trails]
    exact ⟨.missingAddress, missing⟩

theorem http_same {first second : String} (same : parseAddress first = parseAddress second)
    (environment : Lifecycle.Environment) :
    Startup.http first environment = Startup.http second environment := by
  unfold Startup.http
  rw [same]

-- Network and address are a spelling of their own, which names the same transport and starts the
-- plain listener in the same way, and a text without a separator may have a scheme for TCP or none.
theorem spellings_agree :
    (∀ raw address, parseAddress raw = .ok address → ∀ spelled, Respells address spelled →
      parseAddress spelled = .ok address ∧
      (parseAddress spelled >>= transportOf) = (parseAddress raw >>= transportOf) ∧
      ∀ environment, Startup.http spelled environment = Startup.http raw environment) ∧
    (∀ remainder, Text.trimmed remainder = remainder → ¬"://".toList <:+: remainder →
      ∀ first second, TcpSpelling remainder first → TcpSpelling remainder second →
        (remainder ≠ [] → parseAddress first = .ok ⟨"tcp", .ofList remainder⟩ ∧
          ∀ environment, Startup.http first environment = Startup.http second environment) ∧
        (remainder = [] → ∃ fault, parseAddress first = .error (.address (Text.trim first) fault))) := by
  constructor
  · intro raw address accepted spelled respells
    have again : parseAddress spelled = .ok address :=
      parseAddress_exact.mpr ((parseAddress_exact.mp accepted).respelled respells)
    have same : parseAddress spelled = parseAddress raw := again.trans accepted.symm
    exact ⟨again, by rw [same], http_same same⟩
  · intro remainder whole free first second one other
    constructor
    · intro given
      have parsed := parseAddress_exact.mpr (one.spells whole free given)
      have same := parseAddress_exact.mpr (other.spells whole free given)
      exact ⟨parsed, http_same (parsed.trans same.symm)⟩
    · rintro rfl
      obtain ⟨fault, refused⟩ := one.refused
      exact ⟨fault, parseAddress_fault refused⟩

theorem shouted_network_same :
    parseAddress "unix:///run/a b.sock" = .ok ⟨"unix", "/run/a b.sock"⟩ ∧
      parseAddress " UniX:///run/a b.sock\n" = .ok ⟨"unix", "/run/a b.sock"⟩ ∧
      ∀ environment, Startup.http "\tHTTP://[::1]:80" environment =
        Startup.http "[::1]:80" environment := by
  have accepted : parseAddress "unix:///run/a b.sock" = .ok ⟨"unix", "/run/a b.sock"⟩ := rfl
  have blanks {cs : List Char} (all : cs.all Text.isBlank = true) :
      ∀ c ∈ cs, Text.isBlank c = true := List.all_eq_true.mp all
  have shouted : Respells ⟨"unix", "/run/a b.sock"⟩
      (.ofList ([' '] ++ ("UniX".toList ++ "://".toList ++ "/run/a b.sock".toList) ++ ['\n'])) :=
    .around [' '] "UniX".toList ['\n'] (blanks rfl) (by decide) (blanks rfl)
  have schemed : TcpSpelling "[::1]:80".toList
      (.ofList (['\t'] ++ ("HTTP".toList ++ "://".toList ++ "[::1]:80".toList) ++ [])) :=
    .schemed ['\t'] "HTTP".toList [] (blanks rfl) (by decide) (blanks rfl)
  have bare : TcpSpelling "[::1]:80".toList (.ofList ([] ++ "[::1]:80".toList ++ [])) :=
    .bare [] [] (blanks rfl) (blanks rfl)
  obtain ⟨canonical, plain⟩ := spellings_agree
  have free : ¬"://".toList <:+: "[::1]:80".toList := Text.splitFirst_eq_none_iff.mp (by decide)
  exact ⟨accepted, (canonical _ _ accepted _ shouted).1,
    ((plain _ (by decide) free _ _ schemed bare).1 (by decide)).2⟩

end WebListener.Net
