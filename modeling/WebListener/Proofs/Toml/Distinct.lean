import Mathlib.Data.List.Nodup
import WebListener.Toml.Document
-- No table of a document has two entries under one name, at any depth. What is added to a table is
-- added under a name it does not have yet, and what is changed stays under its name.
namespace WebListener.Toml

open Text (Reader)

inductive Value.Distinct : Value → Prop where
  | scalar : Distinct (.scalar span content)
  | array (items : ∀ item ∈ values, Distinct item) : Distinct (.array span repeated values)
  | table (names : (entries.map (·.1.name)).Nodup) (values : ∀ entry ∈ entries, Distinct entry.2) :
      Distinct (.table span form entries)

theorem Value.array_distinct_iff :
    Distinct (.array span repeated values) ↔ ∀ item ∈ values, Distinct item :=
  ⟨fun | .array items => items, .array⟩

theorem fold_keeps {step : σ → α → Option σ} {items : List α} {property : σ → Prop}
    (kept : ∀ item ∈ items, ∀ state next, property state → step state item = some next →
      property next)
    (holds : property first) (made : items.foldlM step first = some last) : property last := by
  induction items generalizing first with
  | nil => cases made; exact holds
  | cons item rest ih =>
    rw [List.foldlM_cons] at made
    obtain ⟨middle, step, made⟩ := Option.bind_eq_some_iff.mp made
    obtain ⟨one, others⟩ := List.forall_mem_cons.mp kept
    exact ih others (one first middle holds step) made

namespace Entries

variable {entries siblings next : Entries} {name : String} {key : Key} {value : Value}

def names (entries : Entries) : List String := entries.map (·.1.name)

structure Distinct (entries : Entries) : Prop where
  names : entries.names.Nodup
  values : ∀ entry ∈ entries, entry.2.Distinct

theorem table_distinct_iff {span : Option Span} {form : Form} :
    (Value.table span form entries).Distinct ↔ entries.Distinct :=
  ⟨fun | .table names values => ⟨names, values⟩, fun distinct => .table distinct.1 distinct.2⟩

theorem empty_distinct : Distinct [] := ⟨List.nodup_nil, by simp⟩

theorem find?_none_iff : entries.find? name = none ↔ name ∉ entries.names := by
  induction entries with
  | nil => simp [find?, names]
  | cons entry rest ih =>
    obtain ⟨key, value⟩ := entry
    by_cases same : key.name = name
    · simp [find?, names, same]
    · simpa [find?, names, same, Ne.symm same] using ih

theorem find?_mem (found : entries.find? name = some value) :
    ∃ key, (key, value) ∈ entries ∧ key.name = name := by
  induction entries with
  | nil => cases found
  | cons entry rest ih =>
    obtain ⟨key, own⟩ := entry
    by_cases same : key.name = name
    · obtain rfl : own = value := by simpa [find?, same] using found
      exact ⟨key, List.mem_cons_self, same⟩
    · obtain ⟨key, present, named⟩ := ih (by simpa [find?, same] using found)
      exact ⟨key, List.mem_cons_of_mem _ present, named⟩

theorem Distinct.found (distinct : entries.Distinct) (found : entries.find? name = some value) :
    value.Distinct := by
  obtain ⟨key, present, -⟩ := find?_mem found
  exact distinct.values _ present

theorem Distinct.append (distinct : entries.Distinct) (absent : key.name ∉ entries.names)
    (own : value.Distinct) : Distinct (entries ++ [(key, value)]) where
  names := by
    have apart : ∀ name ∈ entries.names, name ≠ key.name := by
      rintro _ present rfl
      exact absent present
    simpa [Entries.names, List.nodup_append] using
      ⟨distinct.names, by simpa [Entries.names] using apart⟩
  values := by
    intro entry present
    rcases List.mem_append.mp present with old | new
    · exact distinct.values entry old
    · rw [List.mem_singleton.mp new]
      exact own

theorem replace_names (entries : Entries) (name : String) (value : Value) :
    (entries.replace name value).names = entries.names := by
  induction entries with
  | nil => rfl
  | cons entry rest ih =>
    obtain ⟨key, old⟩ := entry
    simp only [replace]
    split
    · rfl
    · exact congrArg (key.name :: ·) ih

theorem replace_values (own : value.Distinct) (values : ∀ entry ∈ entries, entry.2.Distinct) :
    ∀ entry ∈ entries.replace name value, entry.2.Distinct := by
  induction entries with
  | nil => simp [replace]
  | cons entry rest ih =>
    obtain ⟨key, old⟩ := entry
    obtain ⟨first, others⟩ := List.forall_mem_cons.mp values
    simp only [replace]
    split
    · exact List.forall_mem_cons.mpr ⟨own, others⟩
    · exact List.forall_mem_cons.mpr ⟨first, ih others⟩

theorem Distinct.replace (distinct : entries.Distinct) (own : value.Distinct) :
    Distinct (entries.replace name value) :=
  ⟨by rw [replace_names]; exact distinct.names, replace_values own distinct.values⟩

theorem erase_absent (name : String) (entries : Entries) : name ∉ (entries.erase name).names := by
  simp [names, erase]

theorem Distinct.erase (distinct : entries.Distinct) (name : String) :
    Distinct (entries.erase name) where
  names := distinct.names.sublist (List.filter_sublist.map _)
  values := fun entry present => distinct.values entry (List.mem_of_mem_filter present)

theorem last_distinct {items : List Value} {place : Option Span} {form : Form} {inner : Entries}
    (distinct : ∀ item ∈ items, item.Distinct)
    (last : items.getLast? = some (.table place form inner)) : Distinct inner :=
  table_distinct_iff.mp (distinct _ (List.mem_of_getLast? last))

theorem within_distinct {change : Form → Entries → Option Entries} {byKey : Bool}
    (changed : ∀ form entries next, entries.Distinct → change form entries = some next →
      next.Distinct)
    {path : List Key} {form : Form} (distinct : entries.Distinct)
    (made : within byKey change path form entries = some next) : next.Distinct := by
  induction path generalizing form entries next with
  | nil => exact changed _ _ _ distinct made
  | cons key path ih =>
    simp only [within] at made
    split at made
    · rename_i missing
      obtain ⟨inner, below, ⟨⟩⟩ := Option.bind_eq_some_iff.mp made
      exact distinct.append (find?_none_iff.mp missing)
        (table_distinct_iff.mpr (ih empty_distinct below))
    · rename_i found
      split at made
      · cases made
      · obtain ⟨inner, below, ⟨⟩⟩ := Option.bind_eq_some_iff.mp made
        have old := table_distinct_iff.mp (distinct.found found)
        exact distinct.replace (table_distinct_iff.mpr (ih old below))
    · rename_i items found
      have old := Value.array_distinct_iff.mp (distinct.found found)
      split at made
      · rename_i last
        obtain ⟨inner, below, ⟨⟩⟩ := Option.bind_eq_some_iff.mp made
        refine distinct.replace (Value.array_distinct_iff.mpr fun item present => ?_)
        rcases List.mem_append.mp present with kept | new
        · exact old item (List.dropLast_subset _ kept)
        · rw [List.mem_singleton.mp new]
          exact table_distinct_iff.mpr (ih (last_distinct old last) below)
      · cases made
    · cases made

theorem assign_distinct {a : Assignment} {form : Form} (own : a.value.Distinct)
    (distinct : entries.Distinct) (made : assign form entries a = some next) : next.Distinct := by
  refine within_distinct (fun reached entries next distinct made => ?_) distinct made
  split at made
  · cases made
  · split at made
    · cases made
    · rename_i missing
      cases made
      exact distinct.append (find?_none_iff.mp missing) own

theorem assignAll_distinct {assignments : List Assignment} {form : Form}
    (own : ∀ a ∈ assignments, a.value.Distinct) (distinct : entries.Distinct)
    (made : assignAll form entries assignments = some next) : next.Distinct :=
  fold_keeps (fun a present _ _ => assign_distinct (own a present)) distinct made

end Entries

open Entries (Distinct table_distinct_iff)

namespace Section

variable {s : Section} {siblings root next : Entries}

theorem addOnce_distinct (own : ∀ a ∈ s.assignments, a.value.Distinct)
    (distinct : siblings.Distinct) (made : s.addOnce siblings = some next) : next.Distinct := by
  obtain ⟨started, start, made⟩ := Option.bind_eq_some_iff.mp made
  obtain ⟨entries, filled, ⟨⟩⟩ := Option.bind_eq_some_iff.mp made
  have old : started.Distinct := by
    split at start
    · cases start; exact Entries.empty_distinct
    · rename_i found
      cases start
      exact table_distinct_iff.mp (distinct.found found)
    · cases start
  exact (distinct.erase _).append (Entries.erase_absent _ _)
    (table_distinct_iff.mpr (Entries.assignAll_distinct own old filled))

theorem addRepeated_distinct (own : ∀ a ∈ s.assignments, a.value.Distinct)
    (distinct : siblings.Distinct) (made : s.addRepeated siblings = some next) :
    next.Distinct := by
  obtain ⟨entries, filled, made⟩ := Option.bind_eq_some_iff.mp made
  have table : (s.table entries).Distinct :=
    table_distinct_iff.mpr (Entries.assignAll_distinct own Entries.empty_distinct filled)
  split at made
  · rename_i missing
    cases made
    exact distinct.append (Entries.find?_none_iff.mp missing)
      (Value.array_distinct_iff.mpr (by simpa using table))
  · rename_i found
    cases made
    have old := Value.array_distinct_iff.mp (distinct.found found)
    refine distinct.replace (Value.array_distinct_iff.mpr fun item present => ?_)
    rcases List.mem_append.mp present with kept | new
    · exact old item kept
    · rw [List.mem_singleton.mp new]
      exact table
  · cases made

theorem addTo_distinct (own : ∀ a ∈ s.assignments, a.value.Distinct) (distinct : root.Distinct)
    (made : s.addTo root = some next) : next.Distinct := by
  refine Entries.within_distinct (fun _ siblings next distinct made => ?_) distinct made
  split at made
  · exact addRepeated_distinct own distinct made
  · exact addOnce_distinct own distinct made

end Section

theorem assemble_distinct {assignments : List Assignment} {sections : List Section}
    {entries : Entries} (own : ∀ a ∈ assignments, a.value.Distinct)
    (below : ∀ s ∈ sections, ∀ a ∈ s.assignments, a.value.Distinct)
    (made : assemble assignments sections = some entries) : entries.Distinct := by
  obtain ⟨root, top, made⟩ := Option.bind_eq_some_iff.mp made
  have distinct := Entries.assignAll_distinct own Entries.empty_distinct top
  exact fold_keeps (fun s present _ _ => s.addTo_distinct (below s present)) distinct made

-- What a reader gives has the property, whatever it reads.
def Gives (read : Reader α) (property : α → Prop) : Prop :=
  ∀ cs value rest, read cs = some (value, rest) → property value

section Readers

variable {read : Reader Value}

theorem readAssignment_gives (values : Gives read Value.Distinct) :
    Gives (readAssignment read) (·.value.Distinct) := by
  intro cs a rest given
  obtain ⟨⟨⟨path, key⟩, one⟩, -, given⟩ := Option.bind_eq_some_iff.mp given
  obtain ⟨⟨_, two⟩, -, given⟩ := Option.bind_eq_some_iff.mp given
  obtain ⟨⟨value, three⟩, own, ⟨⟩⟩ := Option.bind_eq_some_iff.mp given
  exact values _ _ _ own

theorem readItems_gives (values : Gives read Value.Distinct) (bound : Nat) :
    Gives (readItems read bound) fun items => ∀ item ∈ items, item.Distinct := by
  induction bound with
  | zero => intro cs items rest given; cases given
  | succ bound ih =>
    intro cs items rest given
    simp only [readItems] at given
    split at given
    · cases given
      simp
    · obtain ⟨⟨value, after⟩, own, given⟩ := Option.bind_eq_some_iff.mp given
      have first := values _ _ _ own
      dsimp only at given
      split at given
      · obtain ⟨⟨others, left⟩, later, ⟨⟩⟩ := Option.bind_eq_some_iff.mp given
        exact List.forall_mem_cons.mpr ⟨first, ih _ _ _ later⟩
      · cases given
        simpa using first
      · cases given

theorem readPairs_gives (values : Gives read Value.Distinct) (bound : Nat) :
    Gives (readPairs read bound) fun assignments => ∀ a ∈ assignments, a.value.Distinct := by
  induction bound with
  | zero => intro cs assignments rest given; cases given
  | succ bound ih =>
    intro cs assignments rest given
    obtain ⟨⟨a, after⟩, own, given⟩ := Option.bind_eq_some_iff.mp given
    have first := readAssignment_gives values _ _ _ own
    dsimp only at given
    split at given
    · obtain ⟨⟨others, left⟩, later, ⟨⟩⟩ := Option.bind_eq_some_iff.mp given
      exact List.forall_mem_cons.mpr ⟨first, ih _ _ _ later⟩
    · cases given
      simpa using first
    · cases given

theorem readInline_gives (values : Gives read Value.Distinct) :
    Gives (readInline read) Entries.Distinct := by
  intro cs entries rest given
  simp only [readInline] at given
  split at given
  · obtain ⟨_, ⟨⟩, given⟩ := Option.bind_eq_some_iff.mp given
    obtain ⟨made, filled, ⟨⟩⟩ := Option.bind_eq_some_iff.mp given
    exact Entries.assignAll_distinct (by simp) Entries.empty_distinct filled
  · obtain ⟨⟨assignments, after⟩, own, given⟩ := Option.bind_eq_some_iff.mp given
    obtain ⟨made, filled, ⟨⟩⟩ := Option.bind_eq_some_iff.mp given
    exact Entries.assignAll_distinct (readPairs_gives values _ _ _ _ own) Entries.empty_distinct
      filled

end Readers

theorem readValue_gives (depth : Nat) : Gives (readValue depth) Value.Distinct := by
  induction depth with
  | zero =>
    intro cs value rest given
    simp only [readValue, Option.map_eq_some_iff] at given
    obtain ⟨⟨⟨content, span⟩, left⟩, -, ⟨⟩⟩ := given
    exact .scalar
  | succ depth ih =>
    intro cs value rest given
    unfold readValue at given
    split at given
    · rename_i same
      cases same
      obtain ⟨⟨items, after⟩, own, ⟨⟩⟩ := Option.bind_eq_some_iff.mp given
      exact Value.array_distinct_iff.mpr (readItems_gives ih _ _ _ _ own)
    · rename_i same
      cases same
      obtain ⟨⟨entries, after⟩, own, ⟨⟩⟩ := Option.bind_eq_some_iff.mp given
      exact table_distinct_iff.mpr (readInline_gives ih _ _ _ own)
    · obtain ⟨⟨⟨content, span⟩, left⟩, -, ⟨⟩⟩ := Option.map_eq_some_iff.mp given
      exact .scalar

theorem readAssignments_gives (bound : Nat) :
    Gives (readAssignments bound) fun assignments => ∀ a ∈ assignments, a.value.Distinct := by
  induction bound with
  | zero => intro cs assignments rest given; cases given
  | succ bound ih =>
    intro cs assignments rest given
    simp only [readAssignments] at given
    split at given
    · cases given
      simp
    · split at given
      · cases given
        simp
      · cases given
    · cases given
      simp
    · obtain ⟨⟨a, one⟩, own, given⟩ := Option.bind_eq_some_iff.mp given
      obtain ⟨⟨_, two⟩, -, given⟩ := Option.bind_eq_some_iff.mp given
      obtain ⟨⟨others, left⟩, later, ⟨⟩⟩ := Option.bind_eq_some_iff.mp given
      exact List.forall_mem_cons.mpr
        ⟨readAssignment_gives (readValue_gives _) _ _ _ own, ih _ _ _ later⟩

theorem readSections_gives (bound : Nat) : Gives (readSections bound) fun sections =>
    ∀ s ∈ sections, ∀ a ∈ s.assignments, a.value.Distinct := by
  induction bound with
  | zero => intro cs sections rest given; cases given
  | succ bound ih =>
    intro cs sections rest given
    simp only [readSections] at given
    split at given
    · cases given
      simp
    · obtain ⟨⟨header, one⟩, -, given⟩ := Option.bind_eq_some_iff.mp given
      obtain ⟨⟨_, two⟩, -, given⟩ := Option.bind_eq_some_iff.mp given
      obtain ⟨⟨assignments, three⟩, own, given⟩ := Option.bind_eq_some_iff.mp given
      obtain ⟨⟨others, left⟩, later, ⟨⟩⟩ := Option.bind_eq_some_iff.mp given
      exact List.forall_mem_cons.mpr
        ⟨readAssignments_gives _ _ _ _ own, ih _ _ _ later⟩

theorem parse_distinct {text : String} {entries : Entries} (parsed : parse text = some entries) :
    entries.Distinct := by
  obtain ⟨⟨assignments, rest⟩, top, parsed⟩ := Option.bind_eq_some_iff.mp parsed
  obtain ⟨⟨sections, left⟩, below, parsed⟩ := Option.bind_eq_some_iff.mp parsed
  exact assemble_distinct (readAssignments_gives _ _ _ _ top) (readSections_gives _ _ _ _ below)
    parsed

end WebListener.Toml
