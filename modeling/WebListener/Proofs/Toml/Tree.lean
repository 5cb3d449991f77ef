import Mathlib.Data.List.Nodup
import WebListener.Proofs.Toml.Distinct
-- What a value says, without where it says it: entries under their names, in the order of the
-- document.
namespace WebListener.Toml

inductive Tree where
  | scalar (content : Scalar)
  | array (items : List Tree)
  | table (entries : List (String × Tree))

namespace Tree

def text (text : String) : Tree := .scalar (.string text)

def flag (flag : Bool) : Tree := .scalar (.boolean flag)

def child? (name : String) : Tree → Option Tree
  | .table entries => entries.lookup name
  | .scalar _ | .array _ => none

-- Whether a value can stand for a record, and what it gives under a key. Where keys are declared
-- in an order an array gives its items under them; a moment gives nothing.
def isRecord : Tree → Bool
  | .scalar (.moment _) | .array _ | .table _ => true
  | .scalar _ => false

def field? (keys : List String) (key : String) : Tree → Option Tree
  | .table entries => entries.lookup key
  | .array items => (keys.zip items).lookup key
  | .scalar _ => none

inductive Distinct : Tree → Prop where
  | scalar : Distinct (.scalar content)
  | array (items : ∀ item ∈ trees, Distinct item) : Distinct (.array trees)
  | table (names : (entries.map Prod.fst).Nodup) (trees : ∀ entry ∈ entries, Distinct entry.2) :
      Distinct (.table entries)

theorem Distinct.names (distinct : (Tree.table entries).Distinct) :
    (entries.map Prod.fst).Nodup := by
  cases distinct
  assumption

theorem Distinct.trees (distinct : (Tree.table entries).Distinct) :
    ∀ entry ∈ entries, entry.2.Distinct := by
  cases distinct
  assumption

end Tree

mutual

def Value.tree : Value → Tree
  | .scalar _ content => .scalar content
  | .array _ _ items => .array (itemTrees items)
  | .table _ _ entries => .table (entryTrees entries)

def itemTrees : List Value → List Tree
  | [] => []
  | item :: rest => item.tree :: itemTrees rest

def entryTrees : List (Key × Value) → List (String × Tree)
  | [] => []
  | (key, value) :: rest => (key.name, value.tree) :: entryTrees rest

end

theorem itemTrees_eq (items : List Value) : itemTrees items = items.map Value.tree := by
  induction items with
  | nil => rfl
  | cons item rest ih => rw [itemTrees, ih, List.map_cons]

theorem entryTrees_eq (entries : List (Key × Value)) :
    entryTrees entries = entries.map fun (key, value) => (key.name, value.tree) := by
  induction entries with
  | nil => rfl
  | cons entry rest ih => rw [entryTrees, ih, List.map_cons]

theorem entryTrees_names (entries : Entries) :
    (entryTrees entries).map Prod.fst = entries.names := by
  rw [entryTrees_eq, List.map_map]
  rfl

def Entries.tree (entries : Entries) : Tree := .table (entryTrees entries)

theorem Value.Distinct.tree {value : Value} (distinct : value.Distinct) : value.tree.Distinct := by
  induction distinct with
  | scalar => exact .scalar
  | array _ ih =>
    refine .array fun tree present => ?_
    obtain ⟨item, inside, rfl⟩ := List.mem_map.mp (itemTrees_eq _ ▸ present)
    exact ih item inside
  | table names _ ih =>
    refine .table (by rw [entryTrees_names]; exact names) fun entry present => ?_
    obtain ⟨own, inside, rfl⟩ := List.mem_map.mp (entryTrees_eq _ ▸ present)
    exact ih own inside

theorem Entries.Distinct.tree {entries : Entries} (distinct : entries.Distinct) :
    entries.tree.Distinct := by
  have table : (Value.table none .header entries).Distinct := table_distinct_iff.mpr distinct
  exact table.tree

theorem lookup_iff_mem {entries : List (α × β)} [BEq α] [LawfulBEq α]
    (names : (entries.map Prod.fst).Nodup) {name : α} {value : β} :
    entries.lookup name = some value ↔ (name, value) ∈ entries := by
  constructor
  · intro found
    obtain ⟨before, after, rfl, -⟩ := List.lookup_eq_some_iff.mp found
    simp
  · intro present
    obtain ⟨before, after, rfl⟩ := List.append_of_mem present
    rw [List.map_append, List.map_cons, List.nodup_append] at names
    refine List.lookup_eq_some_iff.mpr ⟨before, after, rfl, fun entry inside => ?_⟩
    have apart := names.2.2 entry.1 (List.mem_map_of_mem inside) name List.mem_cons_self
    simpa using Ne.symm apart

theorem Tree.Distinct.child? {tree : Tree} (distinct : tree.Distinct)
    (found : tree.child? name = some value) : value.Distinct := by
  cases tree with
  | scalar | array => cases found
  | table entries =>
    exact distinct.trees _ ((lookup_iff_mem distinct.names).mp found)

end WebListener.Toml
