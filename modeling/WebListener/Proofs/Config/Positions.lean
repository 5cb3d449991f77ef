import Mathlib
import WebListener.Proofs.Config.Demands
-- A record by position means what it means by key: the items of an array are the values of the
-- fields in their declared order, and what is wrong with one of them is wrong in both spellings.
namespace WebListener.Config

open Toml (Entries Tree Value entryTrees entryTrees_eq itemTrees itemTrees_eq)

namespace Table

def keys : Table → List String
  | .server => serverKeys
  | .logging => ["format"]

end Table

inductive Counterpart (name : String) : Tree → Tree → Prop where
  | same : Counterpart name tree tree
  | keyed (table : Table) (own : name = table.key) :
      Counterpart name (.array items) (.table (table.keys.zip items))

-- Two documents that differ in nothing but the spelling of their records.
def Respelled (one two : Entries) : Prop :=
  List.Forall₂ (fun entry other => entry.1 = other.1 ∧ Counterpart entry.1 entry.2 other.2)
    (entryTrees one) (entryTrees two)

inductive FirstUnmet : List Demand → Nat → Demand → Prop where
  | here (unmet : d.met = false) : FirstUnmet (d :: asked) 0 d
  | later (met : other.met = true) (unmet : FirstUnmet asked place d) :
      FirstUnmet (other :: asked) (place + 1) d

-- Two texts that are accepted with one configuration, or refused for one and the same reason: for
-- want of a host, or for one value that stands at one place in both.
inductive ReadAlike (one two : String) (document other : Entries) :
    Except Fault Configuration → Except Fault Configuration → Prop where
  | accepted : ReadAlike one two document other (.ok c) (.ok c)
  | hostless : ReadAlike one two document other (.error .noHosts) (.error .noHosts)
  | mistyped (first : FirstUnmet (demands document) place d)
      (second : FirstUnmet (demands other) place e) (expected : d.expected = e.expected)
      (value : d.place.value.tree = e.place.value.tree) :
      ReadAlike one two document other (.error (.mistyped one d.fault))
        (.error (.mistyped two e.fault))

theorem shape_tree {value other : Value} (same : value.tree = other.tree) :
    Shape.of value = Shape.of other := by
  cases value with
  | scalar span content =>
    cases other with
    | scalar _ found =>
      obtain rfl : content = found := Tree.scalar.inj same
      cases content <;> rfl
    | array | table => cases same
  | array =>
    cases other with
    | array => rfl
    | scalar | table => cases same
  | table =>
    cases other with
    | table => rfl
    | scalar | array => cases same

structure Demand.Same (d e : Demand) : Prop where
  expected : d.expected = e.expected
  value : d.place.value.tree = e.place.value.tree ∨ d.met = true ∧ e.met = true

section Demanded

variable {d e : Demand} {asked others : List Demand} {place : Nat}

theorem Demand.Same.met (same : d.Same e) : d.met = e.met := by
  rcases same.value with tree | ⟨first, second⟩
  · rw [Demand.met, Demand.met, same.expected, shape_tree tree]
  · rw [first, second]

theorem met_or_unmet (asked : List Demand) :
    (∀ d ∈ asked, d.met = true) ∨ ∃ place d, FirstUnmet asked place d := by
  induction asked with
  | nil => exact .inl nofun
  | cons own rest ih =>
    cases met : own.met with
    | false => exact .inr ⟨0, own, .here met⟩
    | true =>
      rcases ih with others | ⟨place, d, unmet⟩
      · exact .inl (List.forall_mem_cons.mpr ⟨met, others⟩)
      · exact .inr ⟨place + 1, d, .later met unmet⟩

theorem FirstUnmet.fault (unmet : FirstUnmet asked place d) : firstFault asked = some d.fault := by
  induction unmet with
  | here unmet => simp [firstFault_cons, Demand.fault?, unmet]
  | later met _ ih => simp [firstFault_cons, Demand.fault?, met, ih]

theorem met_aligned (aligned : List.Forall₂ Demand.Same asked others)
    (met : ∀ d ∈ asked, d.met = true) : ∀ e ∈ others, e.met = true := by
  induction aligned with
  | nil => exact nofun
  | cons same _ ih =>
    obtain ⟨own, rest⟩ := List.forall_mem_cons.mp met
    exact List.forall_mem_cons.mpr ⟨same.met ▸ own, ih rest⟩

theorem FirstUnmet.aligned (unmet : FirstUnmet asked place d)
    (aligned : List.Forall₂ Demand.Same asked others) : ∃ e, FirstUnmet others place e ∧
      d.expected = e.expected ∧ d.place.value.tree = e.place.value.tree := by
  induction unmet generalizing others with
  | here unmet =>
    cases aligned with
    | cons same rest =>
      rcases same.value with tree | ⟨met, -⟩
      · exact ⟨_, .here (same.met ▸ unmet), same.expected, tree⟩
      · rw [unmet] at met
        cases met
  | later met _ ih =>
    cases aligned with
    | cons same rest =>
      obtain ⟨e, unmet, alike⟩ := ih rest
      exact ⟨e, .later (same.met ▸ met) unmet, alike⟩

end Demanded

structure SameAssignment (one two : φ × Located) : Prop where
  field : one.1 = two.1
  value : one.2.value.tree = two.2.value.tree

section Assignments

variable {fieldOf : String → Option φ} {keyOf : φ → String} {fields : List φ} {value other : Value}

theorem items_aligned {items others : List Value} (same : itemTrees items = itemTrees others) :
    List.Forall₂ (fun item other => item.tree = other.tree) items others := by
  rw [itemTrees_eq, itemTrees_eq, ← List.forall₂_eq_eq_eq] at same
  exact List.forall₂_map_left_iff.mp (List.forall₂_map_right_iff.mp same)

theorem entries_aligned {entries others : Entries} {R : String × Tree → String × Tree → Prop}
    (related : List.Forall₂ R (entryTrees entries) (entryTrees others)) :
    List.Forall₂ (fun entry other => R (entry.1.name, entry.2.tree) (other.1.name, other.2.tree))
      entries others := by
  rw [entryTrees_eq, entryTrees_eq] at related
  exact List.forall₂_map_left_iff.mp (List.forall₂_map_right_iff.mp related)

theorem assigned_items {items others : List Value} {span place : Toml.Span}
    (aligned : List.Forall₂ (fun item other => item.tree = other.tree) items others)
    (fields : List φ) : List.Forall₂ SameAssignment
      ((items.zip fields).map fun (item, field) => (field, ⟨span, item⟩))
      ((others.zip fields).map fun (item, field) => (field, ⟨place, item⟩)) := by
  induction aligned generalizing fields with
  | nil => exact .nil
  | cons tree _ ih =>
    cases fields with
    | nil => exact .nil
    | cons field rest => exact .cons ⟨rfl, tree⟩ (ih rest)

theorem assigned_same (same : value.tree = other.tree) :
    List.Forall₂ SameAssignment (assigned fieldOf fields value)
      (assigned fieldOf fields other) := by
  cases value with
  | scalar =>
    cases other with
    | scalar => exact .nil
    | array | table => cases same
  | array =>
    cases other with
    | array => exact assigned_items (items_aligned (Tree.array.inj same)) fields
    | scalar | table => cases same
  | table =>
    cases other with
    | table =>
      have aligned := entries_aligned (List.forall₂_eq_eq_eq ▸ Tree.table.inj same)
      refine List.rel_filterMap (fun entry other alike => ?_) aligned
      obtain ⟨name, tree⟩ := Prod.mk.inj alike
      dsimp only
      rw [name]
      cases fieldOf other.1.name with
      | none => exact .none
      | some field => exact .some ⟨rfl, tree⟩
    | scalar | array => cases same

theorem assigned_keyed (keyed : Keyed fieldOf keyOf) {items : List Value} {entries : Entries}
    (named : entryTrees entries = (fields.map keyOf).zip (itemTrees items)) (span : Toml.Span) :
    List.Forall₂ SameAssignment
      ((items.zip fields).map fun (item, field) => (field, ⟨span, item⟩))
      (entries.filterMap fun (key, value) =>
        (fieldOf key.name).map fun field => (field, ⟨key.span, value⟩)) := by
  rw [entryTrees_eq, itemTrees_eq] at named
  induction items generalizing fields entries with
  | nil =>
    rw [List.map_nil, List.zip_nil_right, List.map_eq_nil_iff] at named
    subst named
    exact .nil
  | cons item rest ih =>
    cases fields with
    | nil =>
      rw [List.map_nil, List.zip_nil_left, List.map_eq_nil_iff] at named
      subst named
      exact .nil
    | cons field others =>
      rw [List.map_cons, List.map_cons, List.zip_cons_cons, List.map_eq_cons_iff] at named
      obtain ⟨⟨key, value⟩, later, rfl, own, rest_named⟩ := named
      obtain ⟨name, tree⟩ := Prod.mk.inj own
      rw [List.filterMap_cons_some (b := (field, ⟨key.span, value⟩))
        (by simp [(keyed _ _).mpr name.symm])]
      exact .cons ⟨rfl, tree.symm⟩ (ih rest_named)

end Assignments

theorem Field.demands_same (field : Field) {x y : Located} (same : x.value.tree = y.value.tree) :
    List.Forall₂ Demand.Same (field.demands x) (field.demands y) := by
  have items : List.Forall₂ Demand.Same (itemDemands x.value) (itemDemands y.value) := by
    obtain ⟨_, value⟩ := x
    obtain ⟨_, other⟩ := y
    cases value with
    | array =>
      cases other with
      | array =>
        refine List.forall₂_map_left_iff.mpr (List.forall₂_map_right_iff.mpr ?_)
        exact (items_aligned (Tree.array.inj same)).imp fun _ _ tree => ⟨rfl, .inl tree⟩
      | scalar | table => cases same
    | scalar | table =>
      cases other with
      | scalar | table => exact .nil
      | array => cases same
  refine .cons ⟨rfl, .inl same⟩ ?_
  split
  · exact items
  · exact .nil

theorem Counterpart.spelled {table : Table} (counterpart : Counterpart table.key one two) :
    one = two ∨ ∃ items, one = .array items ∧ two = .table (table.keys.zip items) := by
  cases counterpart with
  | same => exact .inl rfl
  | keyed other own =>
    cases Table.keyed.injective own
    exact .inr ⟨_, rfl, rfl⟩

theorem Counterpart.field {table : Table} (counterpart : Counterpart table.key one two) :
    one.isRecord = two.isRecord ∧
      ∀ key, one.field? table.keys key = two.field? table.keys key := by
  rcases counterpart.spelled with rfl | ⟨items, rfl, rfl⟩
  · exact ⟨rfl, fun _ => rfl⟩
  · exact ⟨rfl, fun _ => rfl⟩

theorem lookup_counterpart {entries others : List (String × Tree)} (name : String)
    (aligned : List.Forall₂
      (fun entry other => entry.1 = other.1 ∧ Counterpart entry.1 entry.2 other.2)
      entries others) :
    Option.Rel (Counterpart name) (entries.lookup name) (others.lookup name) := by
  induction aligned with
  | nil => exact .none
  | @cons entry other _ _ alike _ ih =>
    obtain ⟨own, counterpart⟩ := alike
    rw [List.lookup_cons, List.lookup_cons, ← own]
    by_cases same : name = entry.1
    · subst same
      rw [beq_self_eq_true]
      exact .some counterpart
    · rw [beq_eq_false_iff_ne.mpr same]
      exact ih

section Records

variable {fieldOf : String → Option φ} {keyOf : φ → String} {fields : List φ} {x y : Located}

theorem assigned_spelled (keyed : Keyed fieldOf keyOf)
    (spelled : x.value.tree = y.value.tree ∨ ∃ items, x.value.tree = .array items ∧
      y.value.tree = .table ((fields.map keyOf).zip items)) :
    List.Forall₂ SameAssignment (assigned fieldOf fields x.value)
      (assigned fieldOf fields y.value) := by
  rcases spelled with same | ⟨trees, array, table⟩
  · exact assigned_same same
  · obtain ⟨_, value⟩ := x
    obtain ⟨_, other⟩ := y
    cases value with
    | scalar | table => cases array
    | array span repeated items =>
      cases other with
      | scalar | array => cases table
      | table =>
        cases array
        exact assigned_keyed keyed (Tree.table.inj table) span

theorem record_aligned (keyed : Keyed fieldOf keyOf) (fields : List φ)
    {asked : φ → Located → List Demand} {expected : Expected}
    (record : ∀ shape, expected.admits shape = shape.isRecord)
    (each : ∀ field a b, a.value.tree = b.value.tree →
      List.Forall₂ Demand.Same (asked field a) (asked field b))
    (spelled : x.value.tree = y.value.tree ∨ ∃ items, x.value.tree = .array items ∧
      y.value.tree = .table ((fields.map keyOf).zip items)) :
    List.Forall₂ Demand.Same
      (⟨expected, x⟩ ::
        (assigned fieldOf fields x.value).flatMap fun (field, a) => asked field a)
      (⟨expected, y⟩ ::
        (assigned fieldOf fields y.value).flatMap fun (field, b) => asked field b) := by
  have whole : Demand.Same ⟨expected, x⟩ ⟨expected, y⟩ := by
    refine ⟨rfl, spelled.imp_right fun ⟨items, array, table⟩ => ?_⟩
    simp only [Demand.met, record, shape_isRecord, array, table]
    exact ⟨rfl, rfl⟩
  refine .cons whole (List.rel_flatMap (assigned_spelled keyed spelled) ?_)
  intro a b same
  dsimp only
  rw [same.field]
  exact each _ _ _ same.value

end Records

theorem Table.demands_aligned (table : Table) {x y : Located}
    (counterpart : Counterpart table.key x.value.tree y.value.tree) :
    List.Forall₂ Demand.Same (table.demands x) (table.demands y) := by
  cases table with
  | server =>
    have record : ∀ shape, Expected.admits .options shape = shape.isRecord := by
      intro shape
      cases shape <;> rfl
    exact record_aligned Field.keyed Field.all record (fun field _ _ => field.demands_same)
      counterpart.spelled
  | logging =>
    have record : ∀ shape, Expected.admits .logging shape = shape.isRecord := by
      intro shape
      cases shape <;> rfl
    have format (_ : Unit) (a b : Located) (same : a.value.tree = b.value.tree) :
        List.Forall₂ Demand.Same [⟨.text, a⟩] [⟨.text, b⟩] := .cons ⟨rfl, .inl same⟩ .nil
    exact record_aligned format_keyed [()] record format counterpart.spelled

theorem zip_lookup {keys : List String} {items : List Tree} {i : Nat} (declared : keys.Nodup)
    (found : keys[i]? = some key) : (keys.zip items).lookup key = items[i]? := by
  induction keys generalizing i items with
  | nil => cases found
  | cons own rest ih =>
    obtain ⟨absent, others⟩ := List.nodup_cons.mp declared
    cases items with
    | nil => rfl
    | cons item later =>
      rw [List.zip_cons_cons, List.lookup_cons]
      cases i with
      | zero =>
        cases found
        rw [beq_self_eq_true]
        rfl
      | succ i =>
        have apart : key ≠ own := fun same => absent (same ▸ List.mem_of_getElem? found)
        rw [beq_eq_false_iff_ne.mpr apart]
        exact ih others found

section Documents

variable {document other : Entries}

theorem demands_aligned (respelled : Respelled document other) :
    List.Forall₂ Demand.Same (demands document) (demands other) := by
  have tables : List.Forall₂
      (fun a b => a.1 = b.1 ∧ Counterpart a.1.key a.2.value.tree b.2.value.tree)
      (topAssigned document) (topAssigned other) := by
    refine List.rel_filterMap (fun entry other alike => ?_) (entries_aligned respelled)
    obtain ⟨name, counterpart⟩ := alike
    dsimp only at name counterpart ⊢
    rw [← name]
    cases known : Table.ofKey? entry.1.name with
    | none => exact .none
    | some table =>
      rw [← (Table.keyed _ _).mp known] at counterpart
      exact .some ⟨rfl, counterpart⟩
  refine List.rel_flatMap tables ?_
  intro ⟨table, x⟩ ⟨_, y⟩ ⟨same, counterpart⟩
  cases same
  exact table.demands_aligned counterpart

theorem record_respelled (respelled : Respelled document other) (table : Table)
    (fits : (String → Option Tree) → Prop) :
    (∀ tree, document.tree.child? table.key = some tree → tree.isRecord = true) ∧
        fits (fun key => (document.tree.child? table.key).bind (·.field? table.keys key)) ↔
      (∀ tree, other.tree.child? table.key = some tree → tree.isRecord = true) ∧
        fits fun key => (other.tree.child? table.key).bind (·.field? table.keys key) := by
  have found : Option.Rel (Counterpart table.key) (document.tree.child? table.key)
    (other.tree.child? table.key) := lookup_counterpart table.key respelled
  generalize document.tree.child? table.key = one, other.tree.child? table.key = two at found
  cases found with
  | none => exact Iff.rfl
  | some counterpart =>
    obtain ⟨record, fields⟩ := counterpart.field
    simp only [Option.some.injEq, forall_eq', Option.bind_some, record, fields]

variable {one two : String} {c : Configuration} {items : List Tree} {i : Nat} {field : Field}

theorem parse_respelled (parsed : Toml.parse one = some document)
    (again : Toml.parse two = some other) (respelled : Respelled document other)
    (c : Configuration) : parse one = .ok c ↔ parse two = .ok c := by
  rw [parse_iff parsed, parse_iff again]
  have server := record_respelled respelled .server c.server.Written
  have logging := record_respelled respelled .logging c.logging.Written
  exact and_congr server (and_congr_left' logging)

theorem parse_alike (parsed : Toml.parse one = some document)
    (again : Toml.parse two = some other) (respelled : Respelled document other) :
    ReadAlike one two document other (parse one) (parse two) := by
  have aligned := demands_aligned respelled
  have accepted := parse_respelled parsed again respelled
  rcases met_or_unmet (demands document) with met | ⟨place, d, unmet⟩
  · have first := parse_met parsed (firstFault_none_iff.mpr met)
    have second := parse_met again (firstFault_none_iff.mpr (met_aligned aligned met))
    by_cases hosted : Unhosted document
    · have refused := first.1 hosted
      by_cases still : Unhosted other
      · rw [refused, second.1 still]
        exact .hostless
      · obtain ⟨c, made⟩ := second.2 still
        rw [← accepted, refused] at made
        cases made
    · obtain ⟨c, made⟩ := first.2 hosted
      rw [made, (accepted c).mp made]
      exact .accepted
  · obtain ⟨e, other_unmet, expected, value⟩ := unmet.aligned aligned
    rw [parse_refused parsed unmet.fault, parse_refused again other_unmet.fault]
    exact .mistyped unmet other_unmet expected value

theorem server_positions (parsed : Toml.parse one = some document) (accepted : parse one = .ok c)
    (positions : document.tree.child? "server" = some (.array items))
    (declared : Field.all[i]? = some field) :
    field.shown c.server = items[i]?.or (field.shown .standard) := by
  obtain ⟨⟨-, told⟩, -⟩ := (parse_iff parsed).mp accepted
  have key : serverKeys[i]? = some field.key := by
    rw [← serverKeys_eq, List.getElem?_map, declared]
    rfl
  have shows := written_iff.mp told field
  rw [positions, Option.bind_some] at shows
  rw [shows, ← zip_lookup (by decide) key]
  rfl

theorem logging_position (parsed : Toml.parse one = some document) (accepted : parse one = .ok c)
    (positions : document.tree.child? "logging" = some (.array items)) :
    items[0]?.getD (.text "text") = .text c.logging.format := by
  obtain ⟨-, ⟨-, told⟩, -⟩ := (parse_iff parsed).mp accepted
  rw [Logging.Written, positions, Option.bind_some] at told
  cases items with
  | nil => exact told
  | cons => exact told

-- A document with its records by position is read like the document with its records by key: it
-- is accepted with the same configuration, in which every field says what stands at its place or
-- has its default, or it is refused for the same reason.
theorem positions_mean_keys (parsed : Toml.parse one = some document)
    (again : Toml.parse two = some other) (respelled : Respelled document other) :
    ReadAlike one two document other (parse one) (parse two) ∧
    ∀ c, parse one = .ok c →
      (∀ items, document.tree.child? "server" = some (.array items) →
        ∀ (i : Nat) (field : Field), Field.all[i]? = some field →
          field.shown c.server = items[i]?.or (field.shown .standard)) ∧
      ∀ items, document.tree.child? "logging" = some (.array items) →
        items[0]?.getD (.text "text") = .text c.logging.format := by
  refine ⟨parse_alike parsed again respelled, fun c accepted => ⟨?_, ?_⟩⟩
  · intro items positions i field declared
    exact server_positions parsed accepted positions declared
  · intro items positions
    exact logging_position parsed accepted positions

end Documents

def listedText : String := "logging = [\"json\", 5]\nserver = [\":1\"]\n"

def keyedText : String := "[logging]\nformat = \"json\"\n[server]\nhttp-address = \":1\"\n"

def listed : Configuration := ⟨{ Options.standard with httpAddress := ":1" }, ⟨"json"⟩⟩

theorem listed_means_keyed : ∃ document other, Toml.parse listedText = some document ∧
    Toml.parse keyedText = some other ∧ Respelled document other ∧
    parse listedText = .ok listed ∧ parse keyedText = .ok listed := by
  have parsed : Toml.parse listedText = some
      [(⟨"logging", ⟨38, 31⟩⟩, .array ⟨28, 17⟩ false
          [.scalar ⟨27, 21⟩ (.string "json"), .scalar ⟨19, 18⟩ (.integer 5)]),
        (⟨"server", ⟨16, 10⟩⟩, .array ⟨7, 1⟩ false [.scalar ⟨6, 2⟩ (.string ":1")])] := by cbv
  have again : Toml.parse keyedText = some
      [(⟨"logging", ⟨54, 47⟩⟩, .table (some ⟨55, 30⟩) .header
          [(⟨"format", ⟨45, 39⟩⟩, .scalar ⟨36, 30⟩ (.string "json"))]),
        (⟨"server", ⟨28, 22⟩⟩, .table (some ⟨29, 1⟩) .header
          [(⟨"http-address", ⟨20, 8⟩⟩, .scalar ⟨5, 1⟩ (.string ":1"))])] := by cbv
  have logging : Counterpart "logging" (.array [.text "json", .scalar (.integer 5)])
      (.table [("format", .text "json")]) := .keyed .logging rfl
  have server : Counterpart "server" (.array [.text ":1"])
      (.table [("http-address", .text ":1")]) := .keyed .server rfl
  have accepted : parse listedText = .ok listed := by
    rw [parse_iff parsed]
    refine ⟨⟨?_, ?_⟩, ⟨?_, rfl⟩, rfl⟩
    · intro tree found
      cases found
      rfl
    · exact ⟨rfl, rfl, rfl, rfl, rfl, rfl, rfl, rfl, rfl, rfl, rfl, rfl⟩
    · intro tree found
      cases found
      rfl
  refine ⟨_, _, parsed, again, .cons ⟨rfl, logging⟩ (.cons ⟨rfl, server⟩ .nil), accepted, ?_⟩
  obtain ⟨alike, -⟩ := positions_mean_keys parsed again
    (.cons ⟨rfl, logging⟩ (.cons ⟨rfl, server⟩ .nil))
  rw [accepted] at alike
  generalize parse keyedText = result at alike ⊢
  cases alike
  rfl

end WebListener.Config
