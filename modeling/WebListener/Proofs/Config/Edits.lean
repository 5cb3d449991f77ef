import Mathlib
import WebListener.Proofs.Config.ByKey
-- The order of keys does not matter, and neither does a key that is unknown where it stands: a
-- document that is edited in nothing else is accepted or refused as before, and means the same.
namespace WebListener.Config

open Toml (Entries Tree lookup_iff_mem)

inductive Place where
  | document
  | server
  | logging
  | elsewhere

namespace Place

def knows : Place → String → Bool
  | .document, name => name == "server" || name == "logging"
  | .server, name => serverKeys.contains name
  | .logging, name => name == "format"
  | .elsewhere, _ => false

def below : Place → String → Place
  | .document, name =>
    if name = "server" then .server else if name = "logging" then .logging else .elsewhere
  | .server, _ | .logging, _ | .elsewhere, _ => .elsewhere

theorem server_known : knows .document "server" = true := by decide
theorem logging_known : knows .document "logging" = true := by decide
theorem format_known : knows .logging "format" = true := by decide

end Place

inductive Edit : Place → Tree → Tree → Prop where
  | permute (same : entries.Perm others) : Edit place (.table entries) (.table others)
  | add (unknown : place.knows name = false) :
      Edit place (.table (before ++ after)) (.table (before ++ (name, added) :: after))
  | remove (unknown : place.knows name = false) :
      Edit place (.table (before ++ (name, removed) :: after)) (.table (before ++ after))
  | entry (inside : Edit (place.below name) one two) :
      Edit place (.table (before ++ (name, one) :: after)) (.table (before ++ (name, two) :: after))
  | item (inside : Edit .elsewhere one two) :
      Edit place (.array (before ++ one :: after)) (.array (before ++ two :: after))

-- One edit after another. No edit leaves a table with two entries under one key.
inductive Edits (first : Tree) : Tree → Prop where
  | none : Edits first first
  | next (edits : Edits first middle) (edit : Edit .document middle last)
      (distinct : last.Distinct) : Edits first last

def Plain : Tree → Prop
  | .scalar _ => True
  | .array items => ∀ item ∈ items, ∃ content, item = .scalar content
  | .table _ => False

-- The same, or neither of them anything that a field can be.
def Alike (one two : Option Tree) : Prop :=
  one = two ∨ ∃ a b, one = some a ∧ two = some b ∧ ¬Plain a ∧ ¬Plain b

theorem Alike.symm (alike : Alike one two) : Alike two one :=
  alike.imp Eq.symm fun ⟨a, b, first, second, odd, strange⟩ => ⟨b, a, second, first, strange, odd⟩

theorem Field.shown_plain {field : Field} {o : Options} (shows : field.shown o = some tree) :
    Plain tree := by
  have texts (hosts : List String) : Plain (.array (hosts.map .text)) := by
    intro item present
    obtain ⟨text, -, rfl⟩ := List.mem_map.mp present
    exact ⟨_, rfl⟩
  cases field with
  | letsencryptHosts => cases shows; exact texts _
  | tlsCertFile | tlsKeyFile | letsencryptAdminEmail =>
    obtain ⟨text, -, rfl⟩ := Option.map_eq_some_iff.mp shows
    trivial
  | _ => cases shows; trivial

section Congruence

variable {one two : String → Option Tree} {o : Options} {logging : Logging}

theorem written_alike (alike : ∀ key ∈ serverKeys, Alike (one key) (two key))
    (written : o.Written one) : o.Written two := by
  rw [written_iff] at written ⊢
  intro field
  have known : field.key ∈ serverKeys := by cases field <;> decide
  have shows := written field
  obtain same | ⟨a, b, first, -, odd, -⟩ := alike field.key known
  · rwa [same] at shows
  · rw [first, Option.some_or] at shows
    exact absurd (Field.shown_plain shows) odd

theorem logging_alike (alike : Alike (one "format") (two "format"))
    (written : logging.Written one) : logging.Written two := by
  obtain same | ⟨a, b, first, -, odd, -⟩ := alike
  · rwa [Logging.Written, same] at written
  · rw [Logging.Written, first, Option.getD_some] at written
    rw [written] at odd
    exact absurd trivial odd

end Congruence

namespace Edit

variable {place : Place} {one two : Tree} {name : String}

theorem isRecord (edit : Edit place one two) : one.isRecord = true ∧ two.isRecord = true := by
  cases edit <;> exact ⟨rfl, rfl⟩

theorem not_scalar (edit : Edit place one two) (content : Toml.Scalar) :
    one ≠ .scalar content ∧ two ≠ .scalar content := by
  cases edit <;> exact ⟨nofun, nofun⟩

theorem not_plain (edit : Edit place one two) : ¬Plain one ∧ ¬Plain two := by
  cases edit with
  | permute | add | remove | entry => exact ⟨id, id⟩
  | item inside =>
    constructor
    · intro plain
      obtain ⟨content, scalar⟩ := plain _ (List.mem_append_right _ List.mem_cons_self)
      exact (inside.not_scalar content).1 scalar
    · intro plain
      obtain ⟨content, scalar⟩ := plain _ (List.mem_append_right _ List.mem_cons_self)
      exact (inside.not_scalar content).2 scalar

theorem entry_cases (edit : Edit place one two) (first : one.Distinct) (second : two.Distinct)
    (known : place.knows name = true) : one.child? name = two.child? name ∨
      ∃ a b, one.child? name = some a ∧ two.child? name = some b ∧
        Edit (place.below name) a b := by
  have apart {other : String} (unknown : place.knows other = false) : name ≠ other := by
    rintro rfl
    rw [known] at unknown
    cases unknown
  have kept {entries others : List (String × Tree)} (one : (Tree.table entries).Distinct)
      (two : (Tree.table others).Distinct)
      (same : ∀ value, (name, value) ∈ entries ↔ (name, value) ∈ others) :
      entries.lookup name = others.lookup name := by
    refine Option.ext fun value => ?_
    rw [lookup_iff_mem one.names, lookup_iff_mem two.names]
    exact same value
  cases edit with
  | item => exact .inl rfl
  | permute same => exact .inl (kept first second fun value => same.mem_iff)
  | add unknown => exact .inl (kept first second fun value => by simp [apart unknown])
  | remove unknown => exact .inl (kept first second fun value => by simp [apart unknown])
  | @entry a b _ before own after inside =>
    by_cases same : name = own
    · subst same
      exact .inr ⟨a, b, (lookup_iff_mem first.names).mpr (by simp),
        (lookup_iff_mem second.names).mpr (by simp), inside⟩
    · exact .inl (kept first second fun value => by simp [same])

theorem zip_lookup (keys : List String) (before after : List Tree) (one two : Tree) :
    (keys.zip (before ++ one :: after)).lookup name =
        (keys.zip (before ++ two :: after)).lookup name ∨
      (keys.zip (before ++ one :: after)).lookup name = some one ∧
        (keys.zip (before ++ two :: after)).lookup name = some two := by
  induction before generalizing keys with
  | nil =>
    cases keys with
    | nil => exact .inl rfl
    | cons key keys =>
      by_cases same : name = key
      · simp [same]
      · simp [List.lookup_cons, beq_eq_false_iff_ne.mpr same]
  | cons first rest ih =>
    cases keys with
    | nil => exact .inl rfl
    | cons key keys =>
      by_cases same : name = key
      · simp [same]
      · simpa [List.lookup_cons, beq_eq_false_iff_ne.mpr same] using ih keys

theorem entry_alike (edit : Edit place one two) (first : one.Distinct) (second : two.Distinct)
    (known : place.knows name = true) : Alike (one.child? name) (two.child? name) := by
  refine (edit.entry_cases first second known).imp_right ?_
  rintro ⟨a, b, own, other, inside⟩
  exact ⟨a, b, own, other, inside.not_plain⟩

theorem field_alike (edit : Edit place one two) (first : one.Distinct) (second : two.Distinct)
    (known : place.knows name = true) (keys : List String) :
    Alike (one.field? keys name) (two.field? keys name) := by
  have tables := edit.entry_alike first second known
  cases edit with
  | permute | add | remove | entry => exact tables
  | item inside =>
    refine (zip_lookup keys _ _ _ _).imp_right ?_
    rintro ⟨own, other⟩
    exact ⟨_, _, own, other, inside.not_plain⟩

variable {o : Options} {logging : Logging}

theorem server_told (edit : Edit .server one two) (first : one.Distinct) (second : two.Distinct) :
    ServerTold (some one) o ↔ ServerTold (some two) o := by
  have alike : ∀ key ∈ serverKeys,
      Alike (one.field? serverKeys key) (two.field? serverKeys key) := fun key known =>
    edit.field_alike first second (List.contains_iff_mem.mpr known) serverKeys
  simp only [ServerTold, Option.some.injEq, forall_eq', edit.isRecord.1, edit.isRecord.2,
    Option.bind_some, true_and]
  exact ⟨written_alike alike, written_alike fun key known => (alike key known).symm⟩

theorem logging_told (edit : Edit .logging one two) (first : one.Distinct)
    (second : two.Distinct) : LoggingTold (some one) logging ↔ LoggingTold (some two) logging := by
  have alike := edit.field_alike first second Place.format_known ["format"]
  simp only [LoggingTold, Option.some.injEq, forall_eq', edit.isRecord.1, edit.isRecord.2,
    Option.bind_some, true_and]
  exact ⟨logging_alike alike, logging_alike alike.symm⟩

end Edit

def Told (tree : Tree) (c : Configuration) : Prop :=
  ServerTold (tree.child? "server") c.server ∧ LoggingTold (tree.child? "logging") c.logging

theorem Edit.told {one two : Tree} {c : Configuration} (edit : Edit .document one two)
    (first : one.Distinct) (second : two.Distinct) : Told one c ↔ Told two c := by
  refine and_congr ?_ ?_
  · obtain same | ⟨a, b, own, other, inside⟩ := edit.entry_cases first second Place.server_known
    · rw [same]
    · rw [own, other]
      exact Edit.server_told inside (first.child? own) (second.child? other)
  · obtain same | ⟨a, b, own, other, inside⟩ := edit.entry_cases first second Place.logging_known
    · rw [same]
    · rw [own, other]
      exact Edit.logging_told inside (first.child? own) (second.child? other)

theorem Edits.told {one two : Tree} {c : Configuration} (edits : Edits one two)
    (first : one.Distinct) : two.Distinct ∧ (Told one c ↔ Told two c) := by
  induction edits with
  | none => exact ⟨first, Iff.rfl⟩
  | next edits edit distinct ih => exact ⟨distinct, ih.2.trans (edit.told ih.1 distinct)⟩

theorem told_tables {tree : Tree} {c : Configuration}
    (tables : ∀ name own, name = "server" ∨ name = "logging" → tree.child? name = some own →
      ∃ entries, own = .table entries) : Told tree c ↔
    c.server.Written (fun key => (tree.child? "server").bind (·.child? key)) ∧
      c.logging.Written fun key => (tree.child? "logging").bind (·.child? key) := by
  refine and_congr ?_ ?_
  · cases own : tree.child? "server" with
    | none => simp [ServerTold]
    | some server =>
      obtain ⟨entries, rfl⟩ := tables _ _ (.inl rfl) own
      simp [ServerTold, Tree.isRecord, Tree.field?, Tree.child?]
  · cases own : tree.child? "logging" with
    | none => simp [LoggingTold]
    | some logging =>
      obtain ⟨entries, rfl⟩ := tables _ _ (.inr rfl) own
      simp [LoggingTold, Tree.isRecord, Tree.field?, Tree.child?]

-- A document whose records are tables means what stands under the known keys, with the defaults
-- for those that are absent, and no edit of anything else changes that.
theorem configuration_by_key {text : String} {document : Entries}
    (parsed : Toml.parse text = some document) :
    ((∀ name own, name = "server" ∨ name = "logging" → document.tree.child? name = some own →
        ∃ entries, own = .table entries) → ∀ c : Configuration, parse text = .ok c ↔
      c.server.Written (fun key => (document.tree.child? "server").bind (·.child? key)) ∧
      c.logging.Written (fun key => (document.tree.child? "logging").bind (·.child? key)) ∧
      c.server.lacksHosts = false) ∧
    ∀ edited other, Toml.parse edited = some other → Edits document.tree other.tree →
      ∀ c, parse text = .ok c ↔ parse edited = .ok c := by
  constructor
  · intro tables c
    rw [parse_iff parsed, ← and_assoc, ← and_assoc]
    exact and_congr_left' (told_tables tables)
  · intro edited other again edits c
    have told := (edits.told (c := c) (Toml.parse_distinct parsed).tree).2
    rw [parse_iff parsed, parse_iff again, ← and_assoc, ← and_assoc]
    exact and_congr_left' told

def quietText : String := "[server]\nrequest-logging = false\n"

def misspeltText : String := "[server]\nrequest_logging = 5\nrequest-logging = false\n"

def quiet : Configuration := ⟨{ Options.standard with requestLogging := false }, .standard⟩

theorem misspelt_key_passed_over : ∃ document other, Toml.parse quietText = some document ∧
    Toml.parse misspeltText = some other ∧ Edits document.tree other.tree ∧
    parse quietText = .ok quiet ∧ parse misspeltText = .ok quiet := by
  have parsed : Toml.parse quietText = some [(⟨"server", ⟨32, 26⟩⟩, .table (some ⟨33, 1⟩) .header
      [(⟨"request-logging", ⟨24, 9⟩⟩, .scalar ⟨6, 1⟩ (.boolean false))])] := by cbv
  have again : Toml.parse misspeltText = some [(⟨"server", ⟨52, 46⟩⟩, .table (some ⟨53, 1⟩) .header
      [(⟨"request_logging", ⟨44, 29⟩⟩, .scalar ⟨26, 25⟩ (.integer 5)),
        (⟨"request-logging", ⟨24, 9⟩⟩, .scalar ⟨6, 1⟩ (.boolean false))])] := by cbv
  have added : Edit .server (.table ([] ++ [("request-logging", .flag false)]))
      (.table ([] ++ ("request_logging", .scalar (.integer 5)) :: [("request-logging", .flag false)])) :=
    .add (by decide)
  have inside : Edit .document
      (.table ([] ++ ("server", .table ([] ++ [("request-logging", .flag false)])) :: []))
      (.table ([] ++ ("server", .table ([] ++ ("request_logging", .scalar (.integer 5)) ::
        [("request-logging", .flag false)])) :: [])) := .entry added
  have edits := Edits.none.next inside (Toml.parse_distinct again).tree
  obtain ⟨byKey, same⟩ := configuration_by_key parsed
  have accepted : parse quietText = .ok quiet := by
    refine (byKey ?_ quiet).mpr
      ⟨⟨rfl, rfl, rfl, rfl, rfl, rfl, rfl, rfl, rfl, rfl, rfl, rfl⟩, rfl, rfl⟩
    rintro name own (rfl | rfl) found
    · cases found
      exact ⟨_, rfl⟩
    · cases found
  exact ⟨_, _, parsed, again, edits, accepted, (same _ _ again edits _).mp accepted⟩

end WebListener.Config
