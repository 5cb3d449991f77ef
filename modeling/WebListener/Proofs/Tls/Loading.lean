import WebListener.Lifecycle.Startup
import WebListener.Proofs.Outcomes
-- A certificate and its key are loaded from two files under conditions that are looked at one
-- after another. What is loaded meets them all; otherwise the first one that fails is told.
namespace WebListener.Tls

open Kernel (FileTree Path)
open Lifecycle (Startup)
open Material (Sections certificates ofChain privateKey sectionsOf)
open Net (Network)
open Pem (Section)

def intact (whole : List Section) : Sections := whole.map .ok

def chainOf (whole : List Section) : List (List UInt8) :=
  (whole.filter (·.kind = .certificate)).map (·.der)

def Keyless (whole : List Section) : Prop := ∀ s ∈ whole, s.kind.isPrivateKey = false

-- Sections are passed over until the file ends, one is faulty, or one is what is looked for.
theorem sections_cases (passed : Section → Bool) (sections : Sections) :
    ∃ before rest, sections = intact before ++ rest ∧ (∀ s ∈ before, passed s = true) ∧
      (rest = [] ∨ (∃ fault after, rest = .error fault :: after) ∨
        ∃ s after, rest = .ok s :: after ∧ passed s = false) := by
  induction sections with
  | nil => exact ⟨[], [], rfl, nofun, .inl rfl⟩
  | cons first rest ih =>
    cases first with
    | error fault => exact ⟨[], _, rfl, nofun, .inr (.inl ⟨fault, rest, rfl⟩)⟩
    | ok s =>
      cases own : passed s with
      | false => exact ⟨[], _, rfl, nofun, .inr (.inr ⟨s, rest, rfl, own⟩)⟩
      | true =>
        obtain ⟨before, left, rfl, passes, stop⟩ := ih
        exact ⟨s :: before, left, rfl, List.forall_mem_cons.mpr ⟨own, passes⟩, stop⟩

theorem certificates_append (before : List Section) (rest : Sections) :
    certificates (intact before ++ rest) = (certificates rest).map (chainOf before ++ ·) := by
  induction before with
  | nil =>
    rw [intact, List.map_nil, List.nil_append]
    cases certificates rest <;> rfl
  | cons s before ih =>
    rw [intact, List.map_cons, List.cons_append, certificates, ← intact, ih]
    cases certificates rest with
    | error fault => split <;> rfl
    | ok chain =>
      split
      · rename_i own
        simp [Except.map, chainOf, own]
      · rename_i other
        simp [Except.map, chainOf, other]

theorem certificates_intact (whole : List Section) :
    certificates (intact whole) = .ok (chainOf whole) := by
  have read := certificates_append whole []
  rw [List.append_nil] at read
  rw [read, certificates, Except.map, List.append_nil]

theorem privateKey_append (keyless : Keyless before) (rest : Sections) :
    privateKey (intact before ++ rest) = privateKey rest := by
  induction before with
  | nil => rfl
  | cons s before ih =>
    obtain ⟨own, others⟩ := List.forall_mem_cons.mp keyless
    rw [intact, List.map_cons, List.cons_append, privateKey, ← intact, own, ih others]
    rfl

abbrev PemReader := Path → Except PemFault Sections

def HasChain (reader : PemReader) (file : Option Path) (chain : List (List UInt8)) : Prop :=
  ∃ path, file = some path ∧ ∃ whole, reader path = .ok (intact whole) ∧ chainOf whole = chain

def HasKey (reader : PemReader) (file : Option Path) (key : Section) : Prop :=
  ∃ path, file = some path ∧ ∃ before after,
    reader path = .ok (intact before ++ .ok key :: after) ∧ Keyless before ∧
      key.kind.isPrivateKey = true

inductive ChainFault (reader : PemReader) (path : Path) : PemFault → Prop where
  | closed (unopened : reader path = .error fault) : ChainFault reader path fault
  | faulty (read : reader path = .ok (intact before ++ .error fault :: after)) :
      ChainFault reader path fault

inductive KeyFault (reader : PemReader) (path : Path) : PemFault → Prop where
  | closed (unopened : reader path = .error fault) : KeyFault reader path fault
  | faulty (read : reader path = .ok (intact before ++ .error fault :: after))
      (keyless : Keyless before) : KeyFault reader path fault
  | missing (read : reader path = .ok (intact whole)) (keyless : Keyless whole) :
      KeyFault reader path .noItems

inductive Condition where
  | certNamed
  | keyNamed
  | certReadable
  | certPresent
  | keyPresent
  | keyAccepted
  | keyMatching
deriving DecidableEq, Repr

namespace Condition

def all : List Condition :=
  [.certNamed, .keyNamed, .certReadable, .certPresent, .keyPresent, .keyAccepted, .keyMatching]

def Holds (reader : PemReader) (certFile keyFile : Option Path) : Condition → Prop
  | .certNamed => certFile ≠ none
  | .keyNamed => keyFile ≠ none
  | .certReadable => ∃ chain, HasChain reader certFile chain
  | .certPresent => ∃ leaf others, HasChain reader certFile (leaf :: others)
  | .keyPresent => ∃ key, HasKey reader keyFile key
  | .keyAccepted => ∃ key publicKey, HasKey reader keyFile key ∧
      PrivateKey.publicKey? key.kind key.der = some publicKey
  | .keyMatching => ∃ leaf others key publicKey, HasChain reader certFile (leaf :: others) ∧
      HasKey reader keyFile key ∧ PrivateKey.publicKey? key.kind key.der = some publicKey ∧
      Certificate.publicKeyInfo leaf = .ok publicKey.info

inductive Told (reader : PemReader) :
    Option Path → Option Path → Condition → MaterialFault → Prop where
  | certUnnamed : Told reader certFile keyFile .certNamed .certFileUnset
  | keyUnnamed : Told reader certFile keyFile .keyNamed .keyFileUnset
  | certUnread (faulty : ChainFault reader path fault) :
      Told reader (some path) keyFile .certReadable (.pem fault)
  | certMissing : Told reader certFile keyFile .certPresent .noCertificates
  | keyUnread (faulty : KeyFault reader path fault) :
      Told reader certFile (some path) .keyPresent (.pem fault)
  | keyRefused : Told reader certFile keyFile .keyAccepted (.tls .unknownKey)
  | leafMalformed (chained : HasChain reader certFile (leaf :: others))
      (malformed : Certificate.publicKeyInfo leaf = .error fault) :
      Told reader certFile keyFile .keyMatching (.tls fault)
  | keyForeign (chained : HasChain reader certFile (leaf :: others))
      (read : Certificate.publicKeyInfo leaf = .ok info) :
      Told reader certFile keyFile .keyMatching (.tls .keyMismatch)

end Condition

-- All conditions in front of it hold.
inductive FirstFailing (holds : Condition → Prop) (told : Condition → MaterialFault → Prop) :
    List Condition → MaterialFault → Prop where
  | here (fails : ¬holds c) (why : told c fault) : FirstFailing holds told (c :: rest) fault
  | later (met : holds c) (fails : FirstFailing holds told rest fault) :
      FirstFailing holds told (c :: rest) fault

structure Paired (reader : PemReader) (certFile keyFile : Option Path) (material : Material) :
    Prop where
  chain : HasChain reader certFile material.chain
  key : ∃ key, HasKey reader keyFile key ∧
    PrivateKey.publicKey? key.kind key.der = some material.key
  leaf : ∃ leaf others, material.chain = leaf :: others ∧
    Certificate.publicKeyInfo leaf = .ok material.key.info

inductive Decided (reader : PemReader) (certFile keyFile : Option Path)
    (conditions : List Condition) : Except MaterialFault Material → Prop where
  | paired (paired : Paired reader certFile keyFile material) :
      Decided reader certFile keyFile conditions (.ok material)
  | told (failing : FirstFailing (Condition.Holds reader certFile keyFile)
      (Condition.Told reader certFile keyFile) conditions told) :
      Decided reader certFile keyFile conditions (.error told)

-- Loading with any reader; files are read by their sections.
def loadFrom (reader : PemReader) (certFile keyFile : Option Path) :
    Except MaterialFault Material := do
  let some certPath := certFile | throw .certFileUnset
  let some keyPath := keyFile | throw .keyFileUnset
  let chain ← ((reader certPath).bind certificates).mapError .pem
  if chain.isEmpty then throw .noCertificates
  let key ← ((reader keyPath).bind privateKey).mapError .pem
  (ofChain chain key).mapError .tls

theorem load_eq (files : FileTree) : Material.load files = loadFrom (sectionsOf files) := rfl

variable {reader : PemReader} {path : Path} {file certFile keyFile : Option Path}
  {fault : PemFault} {told : MaterialFault} {material : Material}

theorem HasChain.read (chained : HasChain reader (some path) chain) :
    (reader path).bind certificates = .ok chain := by
  obtain ⟨_, ⟨⟩, whole, read, rfl⟩ := chained
  rw [read]
  exact certificates_intact whole

theorem HasKey.read (keyed : HasKey reader (some path) key) :
    (reader path).bind privateKey = .ok key := by
  obtain ⟨_, ⟨⟩, before, after, read, keyless, own⟩ := keyed
  rw [read, Except.bind, privateKey_append keyless, privateKey, own]
  rfl

theorem ChainFault.read (faulty : ChainFault reader path fault) :
    (reader path).bind certificates = .error fault := by
  cases faulty with
  | closed unopened => rw [unopened]; rfl
  | faulty read => rw [read, Except.bind, certificates_append]; rfl

theorem KeyFault.read (faulty : KeyFault reader path fault) :
    (reader path).bind privateKey = .error fault := by
  cases faulty with
  | closed unopened => rw [unopened]; rfl
  | faulty read keyless => rw [read, Except.bind, privateKey_append keyless]; rfl
  | missing read keyless =>
    have passed := privateKey_append keyless []
    rw [List.append_nil] at passed
    rw [read, Except.bind, passed]
    rfl

theorem chain_or_fault (reader : PemReader) (path : Path) :
    (∃ chain, HasChain reader (some path) chain) ∨ ∃ fault, ChainFault reader path fault := by
  cases read : reader path with
  | error fault => exact .inr ⟨fault, .closed read⟩
  | ok sections =>
    obtain ⟨before, rest, rfl, -, stop⟩ := sections_cases (fun _ => true) sections
    rcases stop with rfl | ⟨fault, after, rfl⟩ | ⟨s, after, -, stays⟩
    · rw [List.append_nil] at read
      exact .inl ⟨_, path, rfl, before, read, rfl⟩
    · exact .inr ⟨fault, .faulty read⟩
    · cases stays

theorem key_or_fault (reader : PemReader) (path : Path) :
    (∃ key, HasKey reader (some path) key) ∨ ∃ fault, KeyFault reader path fault := by
  cases read : reader path with
  | error fault => exact .inr ⟨fault, .closed read⟩
  | ok sections =>
    obtain ⟨before, rest, rfl, passes, stop⟩ := sections_cases (!·.kind.isPrivateKey) sections
    have keyless : Keyless before := fun s present => by simpa using passes s present
    rcases stop with rfl | ⟨fault, after, rfl⟩ | ⟨s, after, rfl, own⟩
    · rw [List.append_nil] at read
      exact .inr ⟨_, .missing read keyless⟩
    · exact .inr ⟨fault, .faulty read keyless⟩
    · exact .inl ⟨s, path, rfl, before, after, read, keyless, by simpa using own⟩

theorem HasChain.unique (one : HasChain reader file first) (two : HasChain reader file second) :
    first = second := by
  cases file with
  | none =>
    obtain ⟨path, ⟨⟩, -⟩ := one
  | some path => exact Except.ok.inj (one.read.symm.trans two.read)

theorem HasKey.unique (one : HasKey reader file first) (two : HasKey reader file second) :
    first = second := by
  cases file with
  | none =>
    obtain ⟨path, ⟨⟩, -⟩ := one
  | some path => exact Except.ok.inj (one.read.symm.trans two.read)

theorem Condition.Told.unique {c : Condition} (one : Told reader certFile keyFile c first)
    (two : Told reader certFile keyFile c second) : first = second := by
  cases one with
  | certUnnamed | keyUnnamed | certMissing | keyRefused => cases two; rfl
  | certUnread faulty =>
    cases two with
    | certUnread again => rw [Except.error.inj (faulty.read.symm.trans again.read)]
  | keyUnread faulty =>
    cases two with
    | keyUnread again => rw [Except.error.inj (faulty.read.symm.trans again.read)]
  | leafMalformed chained malformed =>
    cases two with
    | leafMalformed again other =>
      cases chained.unique again
      rw [Except.error.inj (malformed.symm.trans other)]
    | keyForeign again read =>
      cases chained.unique again
      cases malformed.symm.trans read
  | keyForeign chained read =>
    cases two with
    | leafMalformed again malformed =>
      cases chained.unique again
      cases malformed.symm.trans read
    | keyForeign => rfl

namespace FirstFailing

variable {holds : Condition → Prop} {tells : Condition → MaterialFault → Prop}
  {conditions : List Condition}

theorem unmet (failing : FirstFailing holds tells conditions told) :
    ∃ c ∈ conditions, ¬holds c := by
  induction failing with
  | here fails => exact ⟨_, List.mem_cons_self, fails⟩
  | later _ _ ih =>
    obtain ⟨c, present, fails⟩ := ih
    exact ⟨c, List.mem_cons_of_mem _ present, fails⟩

theorem unique (one : FirstFailing holds tells conditions first)
    (two : FirstFailing holds tells conditions second)
    (tellsOne : ∀ c first second, tells c first → tells c second → first = second) :
    first = second := by
  induction one with
  | here fails why =>
    cases two with
    | here _ other => exact tellsOne _ _ _ why other
    | later met => exact absurd met fails
  | later met _ ih =>
    cases two with
    | here fails => exact absurd met fails
    | later _ failing => exact ih failing

end FirstFailing

section Stages

variable {certPath keyPath : Path} {leaf : List UInt8} {others : List (List UInt8)} {key : Section}
  {conditions : List Condition} {result : Except MaterialFault Material}

theorem Decided.later {c : Condition} (met : c.Holds reader certFile keyFile)
    (decided : Decided reader certFile keyFile conditions result) :
    Decided reader certFile keyFile (c :: conditions) result := by
  cases decided with
  | paired paired => exact .paired paired
  | told failing => exact .told (.later met failing)

theorem keyMatching_leaf (chained : HasChain reader certFile (leaf :: others))
    (keyed : HasKey reader keyFile key)
    (accepted : PrivateKey.publicKey? key.kind key.der = some publicKey)
    (held : Condition.keyMatching.Holds reader certFile keyFile) :
    Certificate.publicKeyInfo leaf = .ok publicKey.info := by
  obtain ⟨first, rest, found, own, again, present, known, info⟩ := held
  cases chained.unique again
  cases keyed.unique present
  cases accepted.symm.trans known
  exact info

theorem ofChain_decided (chained : HasChain reader certFile (leaf :: others))
    (keyed : HasKey reader keyFile key) :
    Decided reader certFile keyFile [.keyAccepted, .keyMatching]
      ((ofChain (leaf :: others) key).mapError .tls) := by
  rw [ofChain]
  cases accepted : PrivateKey.publicKey? key.kind key.der with
  | none =>
    refine .told (.here ?_ .keyRefused)
    intro held
    obtain ⟨found, publicKey, present, known⟩ := held
    cases keyed.unique present
    cases accepted.symm.trans known
  | some publicKey =>
    refine .later ⟨key, publicKey, keyed, accepted⟩ ?_
    have matching := keyMatching_leaf chained keyed accepted
    rw [List.headD_cons]
    cases read : Certificate.publicKeyInfo leaf with
    | error cause =>
      refine .told (.here ?_ (.leafMalformed chained read))
      intro held
      cases read.symm.trans (matching held)
    | ok info =>
      dsimp only [bind, Except.bind]
      split
      · rename_i same
        subst same
        exact .paired ⟨chained, ⟨key, keyed, accepted⟩, leaf, others, rfl, read⟩
      · rename_i apart
        refine .told (.here ?_ (.keyForeign chained read))
        intro held
        exact apart (Except.ok.inj (read.symm.trans (matching held)))

theorem loadFrom_named (reader : PemReader) (certPath keyPath : Path) :
    loadFrom reader (some certPath) (some keyPath) =
      ((reader certPath).bind certificates).mapError .pem >>= fun chain =>
        if chain.isEmpty then .error .noCertificates
        else ((reader keyPath).bind privateKey).mapError .pem >>= fun key =>
          (ofChain chain key).mapError .tls := by
  rfl

theorem key_decided (chained : HasChain reader certFile (leaf :: others)) (keyPath : Path) :
    Decided reader certFile (some keyPath) [.keyPresent, .keyAccepted, .keyMatching]
      (((reader keyPath).bind privateKey).mapError .pem >>= fun key =>
        (ofChain (leaf :: others) key).mapError .tls) := by
  rcases key_or_fault reader keyPath with ⟨key, keyed⟩ | ⟨fault, faulty⟩
  · rw [keyed.read]
    exact .later ⟨key, keyed⟩ (ofChain_decided chained keyed)
  · rw [faulty.read]
    refine .told (.here ?_ (.keyUnread faulty))
    intro held
    obtain ⟨key, keyed⟩ := held
    cases keyed.read.symm.trans faulty.read

theorem chain_decided (reader : PemReader) (certPath keyPath : Path) :
    Decided reader (some certPath) (some keyPath)
      [.certReadable, .certPresent, .keyPresent, .keyAccepted, .keyMatching]
      (loadFrom reader (some certPath) (some keyPath)) := by
  rw [loadFrom_named]
  rcases chain_or_fault reader certPath with ⟨chain, chained⟩ | ⟨fault, faulty⟩
  · rw [chained.read]
    refine .later ⟨chain, chained⟩ ?_
    cases chain with
    | nil =>
      refine .told (.here ?_ .certMissing)
      intro held
      obtain ⟨leaf, others, again⟩ := held
      cases chained.unique again
    | cons leaf others => exact .later ⟨leaf, others, chained⟩ (key_decided chained keyPath)
  · rw [faulty.read]
    refine .told (.here ?_ (.certUnread faulty))
    intro held
    obtain ⟨chain, chained⟩ := held
    cases chained.read.symm.trans faulty.read

end Stages

theorem loadFrom_decided (reader : PemReader) (certFile keyFile : Option Path) :
    Decided reader certFile keyFile Condition.all (loadFrom reader certFile keyFile) := by
  cases certFile with
  | none => exact .told (.here (fun named => named rfl) .certUnnamed)
  | some certPath =>
    refine .later nofun ?_
    cases keyFile with
    | none => exact .told (.here (fun named => named rfl) .keyUnnamed)
    | some keyPath => exact .later nofun (chain_decided reader certPath keyPath)

theorem Paired.unique (one : Paired reader certFile keyFile first)
    (two : Paired reader certFile keyFile second) : first = second := by
  obtain ⟨chain, key⟩ := first
  obtain ⟨other, again⟩ := second
  obtain ⟨own, present, known⟩ := one.key
  obtain ⟨found, keyed, accepted⟩ := two.key
  cases one.chain.unique two.chain
  cases present.unique keyed
  cases known.symm.trans accepted
  rfl

theorem Paired.met (paired : Paired reader certFile keyFile material) (c : Condition) :
    c.Holds reader certFile keyFile := by
  obtain ⟨chained, ⟨key, keyed, accepted⟩, leaf, others, shape, read⟩ := paired
  rw [shape] at chained
  cases c with
  | certNamed =>
    obtain ⟨path, rfl, -⟩ := chained
    exact nofun
  | keyNamed =>
    obtain ⟨path, rfl, -⟩ := keyed
    exact nofun
  | certReadable => exact ⟨_, chained⟩
  | certPresent => exact ⟨leaf, others, chained⟩
  | keyPresent => exact ⟨key, keyed⟩
  | keyAccepted => exact ⟨key, _, keyed, accepted⟩
  | keyMatching => exact ⟨leaf, others, key, _, chained, keyed, accepted, read⟩

theorem loadFrom_ok_iff : loadFrom reader certFile keyFile = .ok material ↔
    Paired reader certFile keyFile material := by
  have decided := loadFrom_decided reader certFile keyFile
  generalize loadFrom reader certFile keyFile = result at decided
  cases decided with
  | paired own =>
    constructor
    · intro same
      cases same
      exact own
    · intro paired
      rw [own.unique paired]
  | told failing =>
    refine ⟨nofun, fun paired => ?_⟩
    obtain ⟨c, -, fails⟩ := failing.unmet
    exact absurd (paired.met c) fails

theorem loadFrom_error_iff : loadFrom reader certFile keyFile = .error told ↔
    FirstFailing (Condition.Holds reader certFile keyFile)
      (Condition.Told reader certFile keyFile) Condition.all told := by
  have decided := loadFrom_decided reader certFile keyFile
  generalize loadFrom reader certFile keyFile = result at decided
  cases decided with
  | paired own =>
    refine ⟨nofun, fun failing => ?_⟩
    obtain ⟨c, -, fails⟩ := failing.unmet
    exact absurd (own.met c) fails
  | told own =>
    constructor
    · intro same
      cases same
      exact own
    · intro failing
      rw [own.unique failing fun _ _ _ => Condition.Told.unique]

-- For every reader and every two paths: what is loaded is one chain with one key, where all
-- conditions hold; where one fails, the error names both paths and tells the first that fails.
theorem pair_loaded_or_first_failing_told (reader : PemReader) (certFile keyFile : Option Path) :
    ((∃ material, loadFrom reader certFile keyFile = .ok material) ↔
      ∀ c ∈ Condition.all, c.Holds reader certFile keyFile) ∧
    (∀ material, loadFrom reader certFile keyFile = .ok material ↔
      Paired reader certFile keyFile material) ∧
    (∀ told, loadFrom reader certFile keyFile = .error told ↔
      FirstFailing (Condition.Holds reader certFile keyFile)
        (Condition.Told reader certFile keyFile) Condition.all told) ∧
    ∀ files, Material.load files = loadFrom (sectionsOf files) ∧
      ∀ told, Material.load files certFile keyFile = .error told → ∃ error : ListenerError,
        (∀ address network, (Startup.static certFile keyFile address ⟨files, network⟩).outcome =
          .error error) ∧
        error = .certificate certFile keyFile told ∧
        error.message = "loading tls config (" ++ certFile.getD "<unset>" ++ ", " ++
          keyFile.getD "<unset>" ++ ") failed - " ++ told.message := by
  refine ⟨?_, fun _ => loadFrom_ok_iff, fun _ => loadFrom_error_iff, ?_⟩
  · constructor
    · intro loaded c _
      obtain ⟨material, loaded⟩ := loaded
      exact (loadFrom_ok_iff.mp loaded).met c
    · intro held
      cases loaded : loadFrom reader certFile keyFile with
      | ok material => exact ⟨material, rfl⟩
      | error told =>
        obtain ⟨c, present, fails⟩ := (loadFrom_error_iff.mp loaded).unmet
        exact absurd (held c present) fails
  · intro files
    refine ⟨load_eq files, fun told failed => ⟨_, fun address network => ?_, rfl, rfl⟩⟩
    rw [Startup.static, failed]
    rfl

end WebListener.Tls
