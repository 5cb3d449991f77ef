import WebListener.Config.Load
import WebListener.Proofs.Outcomes
import WebListener.Proofs.Toml.Tree
-- A record is filled by assignments to its fields, one after another. Where no field is assigned
-- twice the order does not matter: each field says what was assigned to it, or what it said before.
namespace WebListener.Config

open Toml (Entries Scalar Tree Value entryTrees itemTrees_eq)

def fill (set : σ → Located → φ → Decoded σ) (assigned : List (φ × Located)) (first : σ) :
    Decoded σ :=
  assigned.foldlM (fun state (field, x) => set state x field) first

-- An assignment is taken or refused for what it says, and changes its own field only.
structure Filling (set : σ → Located → φ → Decoded σ) (view : φ → σ → β)
    (reads : φ → Located → β → Prop) : Prop where
  takes : ∀ {state x field next}, set state x field = .ok next →
    reads field x (view field next) ∧ ∀ other, other ≠ field → view other next = view other state
  able : ∀ {state x field last}, reads field x (view field last) →
    ∃ next, set state x field = .ok next
  unique : ∀ {field x one two}, reads field x one → reads field x two → one = two
  ext : ∀ {one two}, (∀ field, view field one = view field two) → one = two

section Fill

variable [DecidableEq φ] {set : σ → Located → φ → Decoded σ} {view : φ → σ → β}
  {reads : φ → Located → β → Prop} {rest : List (φ × Located)} {field : φ}

theorem lookup_absent (absent : field ∉ rest.map Prod.fst) : rest.lookup field = none := by
  refine List.lookup_eq_none_iff.mpr fun entry present => ?_
  have apart : field ≠ entry.1 := fun same => absent (same ▸ List.mem_map_of_mem present)
  simpa using apart

theorem lookup_other {x : Located} {own : φ} (other : field ≠ own) :
    ((own, x) :: rest).lookup field = rest.lookup field := by
  rw [List.lookup_cons, beq_eq_false_iff_ne.mpr other]

theorem Filling.fill_iff (filling : Filling set view reads) {assigned : List (φ × Located)}
    (fields : (assigned.map Prod.fst).Nodup) : fill set assigned first = .ok last ↔
      ∀ field, match assigned.lookup field with
        | some x => reads field x (view field last)
        | none => view field last = view field first := by
  induction assigned generalizing first with
  | nil =>
    refine ⟨?_, fun same => ?_⟩
    · rintro ⟨⟩ field
      rfl
    · exact congrArg Except.ok (filling.ext same).symm
  | cons entry rest ih =>
    obtain ⟨own, x⟩ := entry
    obtain ⟨absent, others⟩ := List.nodup_cons.mp fields
    have later := lookup_absent absent
    rw [fill, List.foldlM_cons, bind_ok_iff]
    constructor
    · rintro ⟨middle, step, filled⟩ field
      obtain ⟨taken, kept⟩ := filling.takes step
      have after := (ih others).mp filled field
      by_cases same : field = own
      · subst same
        rw [later] at after
        simpa [after] using taken
      · rw [lookup_other same]
        cases found : rest.lookup field with
        | none => simpa [found, kept field same] using after
        | some y => simpa [found] using after
    · intro final
      have reading : reads own x (view own last) := by simpa using final own
      obtain ⟨middle, step⟩ := filling.able reading
      obtain ⟨taken, kept⟩ := filling.takes step
      refine ⟨middle, step, (ih others).mpr fun field => ?_⟩
      by_cases same : field = own
      · subst same
        rw [later]
        exact filling.unique reading taken
      · have after := final field
        rw [lookup_other same] at after
        cases found : rest.lookup field with
        | none => simpa [found, kept field same] using after
        | some y => simpa [found] using after

end Fill

def assigned (fieldOf : String → Option φ) (fields : List φ) : Value → List (φ × Located)
  | .table _ _ entries => entries.filterMap fun (key, value) =>
    (fieldOf key.name).map fun field => (field, ⟨key.span, value⟩)
  | .array span _ items => (items.zip fields).map fun (item, field) => (field, ⟨span, item⟩)
  | .scalar _ _ => []

def Shape.isRecord : Shape → Bool
  | .map | .sequence => true
  | .string _ | .integer _ | .float _ | .boolean _ => false

theorem fill_table (set : σ → Located → φ → Decoded σ) (fieldOf : String → Option φ)
    (entries : Entries) (first : σ) :
    entries.foldlM (fun state (key, value) => match fieldOf key.name with
      | some field => set state ⟨key.span, value⟩ field
      | none => .ok state) first =
    fill set (entries.filterMap fun (key, value) =>
      (fieldOf key.name).map fun field => (field, ⟨key.span, value⟩)) first := by
  induction entries generalizing first with
  | nil => rfl
  | cons entry rest ih =>
    obtain ⟨key, value⟩ := entry
    rw [List.foldlM_cons]
    cases known : fieldOf key.name with
    | none =>
      rw [List.filterMap_cons_none (by simp [known])]
      simp only [known]
      exact ih first
    | some field =>
      rw [List.filterMap_cons_some (b := (field, ⟨key.span, value⟩)) (by simp [known]), fill,
        List.foldlM_cons]
      simp only [known]
      exact congrArg _ (funext ih)

theorem decodeFields_eq (expected : Expected) (fieldOf : String → Option φ) (fields : List φ)
    (set : σ → Located → φ → Decoded σ) (standard : σ) (x : Located) :
    decodeFields expected fieldOf fields set standard x =
      if (Shape.of x.value).isRecord then fill set (assigned fieldOf fields x.value) standard
      else .error (x.mistyped expected) := by
  obtain ⟨fallback, value⟩ := x
  cases value with
  | table span form entries => exact fill_table set fieldOf entries standard
  | array span repeated items =>
    simp [decodeFields, Shape.of, Shape.isRecord, assigned, fill, List.foldlM_map]
  | scalar span content => cases content <;> rfl

theorem shape_isRecord (value : Value) :
    (Shape.of value).isRecord = value.tree.isRecord := by
  cases value with
  | scalar span content => cases content <;> rfl
  | array | table => rfl

section Assigned

variable {fieldOf : String → Option φ} {keyOf : φ → String} {fields : List φ} {value : Value}

def Keyed (fieldOf : String → Option φ) (keyOf : φ → String) : Prop :=
  ∀ name field, fieldOf name = some field ↔ keyOf field = name

theorem Keyed.injective (keyed : Keyed fieldOf keyOf) (same : keyOf one = keyOf two) :
    one = two := by
  have first := (keyed _ one).mpr same
  rw [(keyed _ two).mpr rfl] at first
  exact (Option.some.inj first).symm

theorem zip_fields (items : List α) (fields : List φ) :
    ((items.zip fields).map Prod.snd).Sublist fields := by
  induction items generalizing fields with
  | nil => exact List.nil_sublist _
  | cons item rest ih =>
    cases fields with
    | nil => exact List.nil_sublist _
    | cons field others => exact (ih others).cons_cons field

theorem assigned_nodup (keyed : Keyed fieldOf keyOf) (declared : fields.Nodup)
    (distinct : value.Distinct) : ((assigned fieldOf fields value).map Prod.fst).Nodup := by
  cases distinct with
  | scalar => exact List.nodup_nil
  | @array items =>
    rw [assigned, List.map_map]
    exact declared.sublist (zip_fields items fields)
  | @table entries span form names =>
    have fields : (assigned fieldOf fields (.table span form entries)).map Prod.fst =
        (entries.map (·.1.name)).filterMap fieldOf := by
      rw [assigned, List.map_filterMap, List.filterMap_map]
      congr 1
      funext entry
      cases known : fieldOf entry.1.name <;> simp [known]
    rw [fields]
    refine names.filterMap fun one two field first second => ?_
    rw [← (keyed one field).mp first, ← (keyed two field).mp second]

theorem assigned_distinct (distinct : value.Distinct)
    (present : (field, x) ∈ assigned fieldOf fields value) : x.value.Distinct := by
  cases distinct with
  | scalar => cases present
  | array items =>
    obtain ⟨⟨item, own⟩, inside, ⟨⟩⟩ := List.mem_map.mp present
    exact items item (List.of_mem_zip inside).1
  | table names values =>
    obtain ⟨entry, inside, named⟩ := List.mem_filterMap.mp present
    obtain ⟨own, -, ⟨⟩⟩ := Option.map_eq_some_iff.mp named
    exact values entry inside

variable [DecidableEq φ]

theorem assigned_lookup (keyed : Keyed fieldOf keyOf) (fields : List φ) (value : Value)
    (field : φ) :
    ((assigned fieldOf fields value).lookup field).map (·.value.tree) =
      value.tree.field? (fields.map keyOf) (keyOf field) := by
  cases value with
  | scalar => rfl
  | array span repeated items =>
    rw [Value.tree, itemTrees_eq]
    simp only [assigned, Tree.field?]
    induction items generalizing fields with
    | nil => cases fields <;> rfl
    | cons item rest ih =>
      cases fields with
      | nil => rfl
      | cons own others =>
        by_cases same : field = own
        · subst same
          simp
        · have apart : keyOf field ≠ keyOf own := fun equal => same (keyed.injective equal)
          simpa [List.lookup_cons, beq_eq_false_iff_ne.mpr same, beq_eq_false_iff_ne.mpr apart]
            using ih others
  | table span form entries =>
    rw [Value.tree]
    simp only [assigned, Tree.field?]
    induction entries with
    | nil => rfl
    | cons entry rest ih =>
      obtain ⟨key, value⟩ := entry
      rw [entryTrees, List.lookup_cons]
      by_cases same : keyOf field = key.name
      · rw [List.filterMap_cons_some (b := (field, ⟨key.span, value⟩))
          (by simp [(keyed _ _).mpr same])]
        simp [same]
      · rw [beq_eq_false_iff_ne.mpr same]
        cases known : fieldOf key.name with
        | none =>
          rw [List.filterMap_cons_none (by simp [known])]
          exact ih
        | some own =>
          have apart : field ≠ own := by
            rintro rfl
            exact same ((keyed _ _).mp known)
          rw [List.filterMap_cons_some (b := (own, ⟨key.span, value⟩)) (by simp [known]),
            lookup_other apart]
          exact ih

end Assigned

end WebListener.Config
