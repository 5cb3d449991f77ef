import WebListener.Proofs.Config.ByKey
-- What a document has to fulfil, demand by demand in its own order. The first demand that is not
-- met is the one that is reported, and a host is asked for once all of them are.
namespace WebListener.Config

open Toml (Entries Tree Value)

def Expected.admits : Expected → Shape → Bool
  | .text, .string _ | .path, .string _ | .boolean, .boolean _ | .sequence, .sequence => true
  | .options, .map | .options, .sequence | .logging, .map | .logging, .sequence => true
  | _, _ => false

structure Demand where
  expected : Expected
  place : Located

namespace Demand

def met (d : Demand) : Bool := d.expected.admits (Shape.of d.place.value)

def fault (d : Demand) : TypeFault := d.place.mistyped d.expected

def fault? (d : Demand) : Option TypeFault := if d.met then none else some d.fault

end Demand

def Field.expected : Field → Expected
  | .httpAddress | .httpsAddress | .redirectorAddress | .letsencryptAdminEmail => .text
  | .redirectHttpToHttps | .letsencryptEnabled | .letsencryptStaging | .requestLogging => .boolean
  | .tlsCertFile | .tlsKeyFile | .letsencryptCacheDir => .path
  | .letsencryptHosts => .sequence

def itemDemands : Value → List Demand
  | .array span _ items => items.map fun item => ⟨.text, ⟨span, item⟩⟩
  | .scalar .. | .table .. => []

def Field.demands (field : Field) (x : Located) : List Demand :=
  ⟨field.expected, x⟩ :: if field = .letsencryptHosts then itemDemands x.value else []

def Table.demands : Table → Located → List Demand
  | .server, x => ⟨.options, x⟩ ::
    (assigned Field.ofKey? Field.all x.value).flatMap fun (field, y) => field.demands y
  | .logging, x => ⟨.logging, x⟩ ::
    (assigned (fun key => if key = "format" then some () else none) [()] x.value).flatMap
      fun (_, y) => [⟨.text, y⟩]

def demands (document : Entries) : List Demand :=
  (topAssigned document).flatMap fun (table, x) => table.demands x

def firstFault (asked : List Demand) : Option TypeFault := asked.findSome? Demand.fault?

-- A fault is reported, and without one there is a result.
inductive Decides : Option TypeFault → Decoded σ → Prop where
  | refused : Decides (some fault) (.error fault)
  | made : Decides none (.ok value)

namespace Decides

variable {fault? : Option TypeFault} {one : Decoded α}

theorem map (decides : Decides fault? one) (next : α → β) :
    Decides fault? (one >>= fun value => pure (next value)) := by
  cases decides with
  | refused => exact .refused
  | made => exact .made

theorem reported (decides : Decides (some fault) one) : one = .error fault := by
  cases decides
  rfl

theorem result (decides : Decides none one) : ∃ value, one = .ok value := by
  cases decides
  exact ⟨_, rfl⟩

theorem fold {fault? : α → Option TypeFault} {step : σ → α → Decoded σ}
    (decides : ∀ state item, Decides (fault? item) (step state item)) (items : List α)
    (first : σ) : Decides (items.findSome? fault?) (items.foldlM step first) := by
  induction items generalizing first with
  | nil => exact .made
  | cons item rest ih =>
    rw [List.foldlM_cons, List.findSome?_cons]
    have own := decides first item
    generalize fault? item = found, step first item = stepped at own
    cases own with
    | refused => exact .refused
    | made => exact ih _

theorem mapM {fault? : α → Option TypeFault} {read : α → Decoded β}
    (decides : ∀ item, Decides (fault? item) (read item)) (items : List α) :
    Decides (items.findSome? fault?) (items.mapM read) := by
  induction items with
  | nil => exact .made
  | cons item rest ih =>
    rw [List.mapM_cons, List.findSome?_cons]
    have own := decides item
    generalize fault? item = found, read item = made at own
    cases own with
    | refused => exact .refused
    | made => exact ih.map _

end Decides

theorem firstFault_flatMap (items : List α) (asked : α → List Demand) :
    firstFault (items.flatMap asked) = items.findSome? fun item => firstFault (asked item) := by
  induction items with
  | nil => rfl
  | cons item rest ih =>
    rw [List.flatMap_cons, firstFault, List.findSome?_append, List.findSome?_cons, ← ih]
    cases own : firstFault (asked item) <;> rw [firstFault] at own <;> rw [own] <;> rfl

theorem firstFault_cons (d : Demand) (asked : List Demand) :
    firstFault (d :: asked) = d.fault?.or (firstFault asked) := by
  rw [firstFault, List.findSome?_cons]
  cases d.fault? <;> rfl

theorem firstFault_single (d : Demand) : firstFault [d] = d.fault? := by
  rw [firstFault_cons]
  exact Option.or_none

theorem decodeText_decides (textual : expected = .text ∨ expected = .path) (x : Located) :
    Decides (firstFault [⟨expected, x⟩]) (decodeText expected x) := by
  obtain ⟨fallback, value⟩ := x
  rw [firstFault_single]
  rcases textual with rfl | rfl
  all_goals
    cases value with
    | array | table => exact .refused
    | scalar span content => cases content <;> first | exact .made | exact .refused

theorem decodeFlag_decides (x : Located) :
    Decides (firstFault [⟨.boolean, x⟩]) (decodeFlag x) := by
  obtain ⟨fallback, value⟩ := x
  rw [firstFault_single]
  cases value with
  | array | table => exact .refused
  | scalar span content => cases content <;> first | exact .made | exact .refused

theorem decodeTexts_decides (x : Located) :
    Decides (firstFault (⟨.sequence, x⟩ :: itemDemands x.value)) (decodeTexts x) := by
  obtain ⟨fallback, value⟩ := x
  cases value with
  | table => exact .refused
  | scalar span content => cases content <;> exact .refused
  | array span repeated items =>
    have each := Decides.mapM (fun item => decodeText_decides (.inl rfl) ⟨span, item⟩) items
    rw [firstFault_cons]
    simpa [decodeTexts, itemDemands, firstFault, Demand.fault?, Demand.met, Expected.admits,
      Shape.of, List.findSome?_map, Function.comp_def] using each

theorem Field.set_decides (field : Field) (o : Options) (x : Located) :
    Decides (firstFault (field.demands x)) (field.set o x) := by
  cases field with
  | httpAddress | httpsAddress | redirectorAddress | letsencryptAdminEmail =>
    exact (decodeText_decides (.inl rfl) x).map _
  | tlsCertFile | tlsKeyFile | letsencryptCacheDir =>
    exact (decodeText_decides (.inr rfl) x).map _
  | redirectHttpToHttps | letsencryptEnabled | letsencryptStaging | requestLogging =>
    exact (decodeFlag_decides x).map _
  | letsencryptHosts => exact (decodeTexts_decides x).map _

-- A record is demanded before its fields, and these in the order in which they are assigned.
theorem decodeFields_decides {fieldOf : String → Option φ} {fields : List φ}
    {set : σ → Located → φ → Decoded σ} {asked : φ → Located → List Demand} {expected : Expected}
    (record : ∀ shape, expected.admits shape = shape.isRecord)
    (each : ∀ state x field, Decides (firstFault (asked field x)) (set state x field))
    (standard : σ) (x : Located) :
    Decides (firstFault (⟨expected, x⟩ ::
        (assigned fieldOf fields x.value).flatMap fun (field, y) => asked field y))
      (decodeFields expected fieldOf fields set standard x) := by
  rw [decodeFields_eq, firstFault_cons, Demand.fault?, Demand.met, record]
  cases (Shape.of x.value).isRecord with
  | false => exact .refused
  | true =>
    rw [if_pos rfl, if_pos rfl, Option.none_or, firstFault_flatMap]
    exact Decides.fold (fun state (field, y) => each state y field) _ standard

theorem decodeOptions_decides (x : Located) :
    Decides (firstFault (Table.server.demands x)) (decodeOptions x) := by
  have record : ∀ shape, Expected.admits .options shape = shape.isRecord := by
    rintro (_ | _) <;> rfl
  exact decodeFields_decides record (fun o y field => Field.set_decides field o y) .standard x

theorem decodeLogging_decides (x : Located) :
    Decides (firstFault (Table.logging.demands x)) (decodeLogging x) := by
  have record : ∀ shape, Expected.admits .logging shape = shape.isRecord := by
    rintro (_ | _) <;> rfl
  have format (_ : Logging) (y : Located) (_ : Unit) :
      Decides (firstFault [⟨.text, y⟩]) ((decodeText .text y).map Logging.mk) := by
    have text := decodeText_decides (.inl rfl) y
    generalize firstFault [⟨.text, y⟩] = found, decodeText .text y = read at text
    cases text with
    | refused => exact .refused
    | made => exact .made
  exact decodeFields_decides record format .standard x

theorem decode_decides (document : Entries) :
    Decides (firstFault (demands document)) (decode document) := by
  have table (c : Configuration) (entry : Table × Located) :
      Decides (firstFault (entry.1.demands entry.2)) (c.set entry.2 entry.1) := by
    obtain ⟨table, x⟩ := entry
    cases table with
    | server => exact (decodeOptions_decides x).map _
    | logging => exact (decodeLogging_decides x).map _
  rw [decode_eq, demands, firstFault_flatMap]
  exact Decides.fold table _ .standard

theorem firstFault_none_iff {asked : List Demand} :
    firstFault asked = none ↔ ∀ d ∈ asked, d.met = true := by
  simp [firstFault, Demand.fault?]

theorem firstFault_unmet {before after : List Demand} {d : Demand}
    (earlier : ∀ other ∈ before, other.met = true) (unmet : d.met = false) :
    firstFault (before ++ d :: after) = some d.fault := by
  have none := firstFault_none_iff.mpr earlier
  rw [firstFault] at none ⊢
  rw [List.findSome?_append, none, Option.none_or, List.findSome?_cons]
  simp [Demand.fault?, unmet]

def serverSaid (document : Entries) (key : String) : Option Tree :=
  (document.tree.child? "server").bind (·.field? serverKeys key)

def Unhosted (document : Entries) : Prop :=
  serverSaid document "letsencrypt-enabled" = some (.flag true) ∧
    ∀ hosts, serverSaid document "letsencrypt-hosts" = some (.array hosts) →
      ∀ host ∈ hosts, ∃ text, host = .text text ∧ ∀ c ∈ text.toList, Text.isBlank c = true

theorem lacksHosts_iff {o : Options} : o.lacksHosts = true ↔ o.letsencryptEnabled = true ∧
    ∀ host ∈ o.letsencryptHosts, ∀ c ∈ host.toList, Text.isBlank c = true := by
  simp [Options.lacksHosts, Text.isAllBlank]

theorem unhosted_iff {document : Entries} {o : Options}
    (told : o.Written (serverSaid document)) : Unhosted document ↔ o.lacksHosts = true := by
  have enabled := told.letsencryptEnabled
  have hosts := told.letsencryptHosts
  rw [lacksHosts_iff, Unhosted]
  refine and_congr ?_ ?_
  · cases said : serverSaid document "letsencrypt-enabled" with
    | none =>
      rw [said] at enabled
      have off : false = o.letsencryptEnabled := by simpa [Tree.flag] using enabled
      simp [← off]
    | some tree =>
      rw [said] at enabled
      obtain rfl : tree = .flag o.letsencryptEnabled := enabled
      simp [Tree.flag]
  · cases said : serverSaid document "letsencrypt-hosts" with
    | none =>
      rw [said] at hosts
      have empty : o.letsencryptHosts = [] := by simpa [eq_comm] using hosts
      simp [empty]
    | some tree =>
      rw [said] at hosts
      obtain rfl : tree = .array (o.letsencryptHosts.map .text) := hosts
      simp [Tree.text]

theorem append_ends (front middle back : String) :
    ∃ lines, front ++ middle ++ back = lines ++ (middle ++ back) := ⟨front, String.append_assoc⟩

theorem excerpt_ends (text : String) (span : Toml.Span) (complaint : String) :
    ∃ lines, Toml.excerpt text span complaint = lines ++ (complaint ++ "\n") := by
  unfold Toml.excerpt
  exact append_ends _ complaint "\n"

theorem mistyped_message (text : String) (fault : TypeFault) :
    ∃ lines, (Fault.mistyped text fault).message =
      lines ++ ("invalid type: " ++ fault.found.described ++ ", expected " ++
        fault.expected.described ++ "\n") := by
  obtain ⟨lines, excerpt⟩ := excerpt_ends text fault.span fault.complaint
  have message := congrArg ("Failed to parse config: " ++ ·) excerpt
  exact ⟨"Failed to parse config: " ++ lines, message.trans String.append_assoc.symm⟩

section Parsed

variable {text : String} {document : Entries}

theorem parse_refused (parsed : Toml.parse text = some document)
    (found : firstFault (demands document) = some fault) :
    parse text = .error (.mistyped text fault) := by
  have decides := decode_decides document
  rw [found] at decides
  rw [parse, parsed]
  dsimp only
  rw [decides.reported]

theorem parse_met (parsed : Toml.parse text = some document)
    (met : firstFault (demands document) = none) :
    (Unhosted document → parse text = .error .noHosts) ∧
      (¬Unhosted document → ∃ c, parse text = .ok c) := by
  have decides := decode_decides document
  rw [met] at decides
  obtain ⟨c, decoded⟩ := decides.result
  have told := ((decode_iff (Toml.parse_distinct parsed)).mp decoded).1.2
  have result : parse text = validated c := by
    rw [parse, parsed]
    dsimp only
    rw [decoded]
  rw [unhosted_iff told, result, validated]
  cases c.server.lacksHosts with
  | true => simp
  | false => simp

theorem parse_ok_iff (parsed : Toml.parse text = some document) :
    (∃ c, parse text = .ok c) ↔
      (∀ d ∈ demands document, d.met = true) ∧ ¬Unhosted document := by
  rw [← firstFault_none_iff]
  constructor
  · rintro ⟨c, accepted⟩
    cases found : firstFault (demands document) with
    | some fault =>
      rw [parse_refused parsed found] at accepted
      cases accepted
    | none =>
      refine ⟨rfl, fun unhosted => ?_⟩
      rw [(parse_met parsed found).1 unhosted] at accepted
      cases accepted
  · rintro ⟨met, hosted⟩
    exact (parse_met parsed met).2 hosted

theorem parse_formed (parsed : Toml.parse text = some document) :
    parse text ≠ .error .malformed := by
  rw [parse, parsed]
  dsimp only
  cases decode document with
  | error fault => simp
  | ok c => cases lacking : c.server.lacksHosts <;> simp [validated, lacking]

end Parsed

-- A text is refused for its syntax first, then for the first of its known values that is not of
-- its type, then for want of a host, and for nothing else.
theorem parse_outcome (text : String) :
    (Toml.parse text = none ↔ parse text = .error .malformed) ∧
    (∀ document, Toml.parse text = some document →
      (∀ before d after, demands document = before ++ d :: after →
        (∀ other ∈ before, other.met = true) → d.met = false →
        parse text = .error (.mistyped text d.fault) ∧
        ∃ lines, (Fault.mistyped text d.fault).message = lines ++ ("invalid type: " ++
          (Shape.of d.place.value).described ++ ", expected " ++ d.expected.described ++ "\n")) ∧
      ((∀ d ∈ demands document, d.met = true) →
        (Unhosted document → parse text = .error .noHosts) ∧
        (¬Unhosted document → ∃ c, parse text = .ok c))) ∧
    ((∃ c, parse text = .ok c) ↔ ∃ document, Toml.parse text = some document ∧
      (∀ d ∈ demands document, d.met = true) ∧ ¬Unhosted document) ∧
    ∀ c, parse text = .ok c → c.server.letsencryptEnabled = true →
      ∃ host ∈ c.server.letsencryptHosts, ∃ char ∈ host.toList, Text.isBlank char = false := by
  cases parsed : Toml.parse text with
  | none =>
    have malformed : parse text = .error .malformed := by rw [parse, parsed]
    simp [malformed]
  | some document =>
    refine ⟨?_, ?_, ?_, ?_⟩
    · have wellFormed := parse_formed parsed
      simp [wellFormed]
    · rintro _ ⟨⟩
      refine ⟨fun before d after order earlier unmet => ?_, fun met => ?_⟩
      · have found : firstFault (demands document) = some d.fault := by
          rw [order]
          exact firstFault_unmet earlier unmet
        exact ⟨parse_refused parsed found, mistyped_message text d.fault⟩
      · exact parse_met parsed (firstFault_none_iff.mpr met)
    · rw [parse_ok_iff parsed]
      simp
    · intro c accepted enabled
      have hosts := ((parse_iff parsed).mp accepted).2.2
      simpa [Options.lacksHosts, enabled, Text.isAllBlank] using hosts

end WebListener.Config
