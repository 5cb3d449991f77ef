import WebListener.Toml.Value
-- How the parts of a document come together in tables. A dotted key may extend tables that
-- dotted keys have made, a header tables that are only implied by other headers, and a repeated
-- header its own array; anything else that meets an existing entry is refused.
namespace WebListener.Toml

structure Assignment where
  path : List Key
  key : Key
  value : Value
deriving Repr

namespace Entries

-- Changes the table that the path leads to. Missing tables on the way are made, and the last of
-- repeated tables stands for all. Between braces nothing is changed any more.
def within (byKey : Bool) (change : Form → Entries → Option Entries) :
    List Key → Form → Entries → Option Entries
  | [], form, entries => change form entries
  | key :: path, _, entries =>
    match entries.find? key.name with
    | none => do
      let form := if byKey then .dotted else .implicit
      let inner ← within byKey change path form []
      some (entries ++ [(key, .table none form inner)])
    | some (.table span form inner) =>
      if form = .inline || (byKey && form = .header) then none
      else do
        let inner ← within byKey change path form inner
        some (entries.replace key.name (.table span form inner))
    | some (.array span true items) =>
      match items.getLast? with
      | some (.table place form inner) => do
        let inner ← within byKey change path form inner
        some (entries.replace key.name (.array span true (items.dropLast ++ [.table place form inner])))
      | _ => none
    | some _ => none

def assign (form : Form) (entries : Entries) (a : Assignment) : Option Entries :=
  within true (fun reached entries =>
    if (reached = .dotted) = a.path.isEmpty then none
    else match entries.find? a.key.name with
      | some _ => none
      | none => some (entries ++ [(a.key, a.value)])) a.path form entries

def assignAll (form : Form) (entries : Entries) (assignments : List Assignment) : Option Entries :=
  assignments.foldlM (assign form) entries

end Entries

structure Section where
  repeated : Bool
  path : List Key
  key : Key
  span : Span
  assignments : List Assignment
deriving Repr

namespace Section

def extent (s : Section) : Span :=
  match s.assignments.getLast?.bind (·.value.span?) with
  | some last => ⟨s.span.start, last.stop⟩
  | none => s.span

def table (s : Section) (entries : Entries) : Value := .table (some s.extent) .header entries

def addOnce (s : Section) (siblings : Entries) : Option Entries :=
  let started := match siblings.find? s.key.name with
    | none => some []
    | some (.table _ .implicit inner) => some inner
    | some _ => none
  do
    let entries ← Entries.assignAll .header (← started) s.assignments
    some (siblings.erase s.key.name ++ [(s.key, s.table entries)])

def addRepeated (s : Section) (siblings : Entries) : Option Entries := do
  let entries ← Entries.assignAll .header [] s.assignments
  match siblings.find? s.key.name with
  | none => some (siblings ++ [(s.key, .array s.extent true [s.table entries])])
  | some (.array span true items) =>
    some (siblings.replace s.key.name
      (.array ⟨span.start, s.extent.stop⟩ true (items ++ [s.table entries])))
  | some _ => none

def addTo (s : Section) (root : Entries) : Option Entries :=
  Entries.within false
    (fun _ siblings => if s.repeated then s.addRepeated siblings else s.addOnce siblings)
    s.path .header root

end Section

def assemble (assignments : List Assignment) (sections : List Section) : Option Entries := do
  let root ← Entries.assignAll .header [] assignments
  sections.foldlM (fun root s => s.addTo root) root

end WebListener.Toml
