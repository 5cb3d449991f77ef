import WebListener.Proofs.Lifecycle.History
-- The state of a handle in the registry is what the operations on its own family come to. The
-- registry's family numbers are shown to agree with the families that the history tells apart.
namespace WebListener.Lifecycle

namespace Registry

def empty : Registry := ⟨[], [], []⟩

def run : Registry → List Operation → Option Registry
  | registry, [] => some registry
  | registry, operation :: rest =>
    (registry.advance operation).bind fun (next, _) => next.run rest

inductive Change (registry : Registry) : Operation → Registry → Prop where
  | founded {next : Registry} (states : next.states = registry.states ++ [.idle])
      (handles : next.handles = registry.handles ++ [registry.states.length]) :
      Change registry .create next
  | joined {next : Registry} (found : registry.family? source = some family)
      (states : next.states = registry.states)
      (handles : next.handles = registry.handles ++ [family]) :
      Change registry (.clone source) next
  | moved {next : Registry} {operation : Operation} (notMade : operation.makes? = none)
      (called : operation.handle? = some handle)
      (found : registry.family? handle = some family)
      (states : next.states = registry.states.modify family operation.transition)
      (handles : next.handles = registry.handles) :
      Change registry operation next
  | polled {next : Registry} (states : next.states = registry.states)
      (handles : next.handles = registry.handles) :
      Change registry (.poll waiter) next

variable {registry next : Registry} {operation : Operation} {outcome : Outcome}

theorem pollWaiter_parts (step : registry.pollWaiter index = some (next, outcome)) :
    next.states = registry.states ∧ next.handles = registry.handles ∧
      next.waiters.length = registry.waiters.length ∧
      ∀ later ∈ next.waiters, ∃ earlier ∈ registry.waiters, later.family = earlier.family := by
  have kept : ∀ later ∈ registry.waiters, ∃ earlier ∈ registry.waiters,
      later.family = earlier.family := fun later present => ⟨later, present, rfl⟩
  cases found : registry.waiters[index]? with
  | none => simp [pollWaiter, found] at step
  | some waiter =>
    simp only [pollWaiter, found, Option.bind_eq_bind, Option.bind_some] at step
    split at step
    · cases step
      exact ⟨rfl, rfl, rfl, kept⟩
    · cases looked : registry.states[waiter.family]? with
      | none => simp [looked] at step
      | some state =>
        simp only [looked, Option.bind_some] at step
        split at step
        · cases step
          exact ⟨rfl, rfl, rfl, kept⟩
        · cases step
          refine ⟨rfl, rfl, by simp, ?_⟩
          intro later present
          rcases List.mem_or_eq_of_mem_set present with old | rfl
          · exact kept later old
          · exact ⟨waiter, List.mem_of_getElem? found, rfl⟩

theorem advance_change (step : registry.advance operation = some (next, outcome)) :
    registry.Change operation next := by
  cases operation with
  | create =>
    cases step
    exact .founded rfl rfl
  | clone source =>
    obtain ⟨family, found, result⟩ := Option.bind_eq_some_iff.mp step
    cases result
    exact .joined found rfl rfl
  | poll waiter =>
    obtain ⟨states, handles, -⟩ := pollWaiter_parts step
    exact .polled states handles
  | close | mark | await =>
    obtain ⟨family, found, result⟩ := Option.bind_eq_some_iff.mp step
    cases result
    exact .moved rfl rfl found (by simp [update, Operation.transition]) rfl
  | isClosed | look | finish =>
    obtain ⟨state, looked, result⟩ := Option.bind_eq_some_iff.mp step
    obtain ⟨family, found, -⟩ := Option.bind_eq_some_iff.mp looked
    cases result
    exact .moved rfl rfl found (by simp [Operation.transition]) rfl

theorem advance_waiters (step : registry.advance operation = some (next, outcome)) :
    next.waiters.length = (if operation.awaits then registry.waiters.length + 1
        else registry.waiters.length) ∧
      ∀ later ∈ next.waiters, (∃ earlier ∈ registry.waiters, later.family = earlier.family) ∨
        ∃ handle, registry.family? handle = some later.family := by
  have kept : ∀ later ∈ registry.waiters,
      (∃ earlier ∈ registry.waiters, later.family = earlier.family) ∨
        ∃ handle, registry.family? handle = some later.family :=
    fun later present => .inl ⟨later, present, rfl⟩
  cases operation with
  | create =>
    cases step
    exact ⟨rfl, kept⟩
  | poll waiter =>
    obtain ⟨-, -, length, same⟩ := pollWaiter_parts step
    exact ⟨length, fun later present => .inl (same later present)⟩
  | await handle interest =>
    obtain ⟨family, found, result⟩ := Option.bind_eq_some_iff.mp step
    cases result
    refine ⟨by simp [Operation.awaits], ?_⟩
    intro later present
    rcases List.mem_append.mp present with old | new
    · exact kept later old
    · cases List.mem_singleton.mp new
      exact .inr ⟨handle, found⟩
  | clone | close | mark | isClosed | look | finish =>
    obtain ⟨found, -, result⟩ := Option.bind_eq_some_iff.mp step
    cases result
    exact ⟨rfl, kept⟩

theorem Change.made (change : registry.Change operation next) :
    next.handles.length = registry.handles.length + operation.makes?.toList.length := by
  cases change with
  | founded states handles => simp [handles, Operation.makes?]
  | joined found states handles => simp [handles, Operation.makes?]
  | moved notMade called found states handles => simp [handles, notMade]
  | polled states handles => simp [handles, Operation.makes?]

theorem Change.states_length (change : registry.Change operation next) :
    registry.states.length ≤ next.states.length := by
  cases change with
  | founded states handles => simp [states]
  | joined found states handles => simp [states]
  | moved notMade called found states handles => simp [states]
  | polled states handles => simp [states]

theorem family?_append (handles : next.handles = registry.handles ++ [family]) :
    next.family? handle = some number ↔ registry.family? handle = some number ∨
      (handle = registry.handles.length ∧ number = family) := by
  simp only [family?, handles, List.getElem?_append, List.getElem?_singleton]
  split <;> rename_i place
  · exact ⟨.inl, fun either => either.resolve_right fun new => by omega⟩
  · have absent : registry.handles[handle]? = none := by simpa using place
    simp only [absent, reduceCtorEq, false_or]
    split <;> simp <;> omega

theorem family?_same (handles : next.handles = registry.handles) :
    next.family? handle = registry.family? handle := by
  simp [family?, handles]

structure Sound (registry : Registry) : Prop where
  families : ∀ handle family, registry.family? handle = some family →
    family < registry.states.length
  waiters : ∀ waiter ∈ registry.waiters, waiter.family < registry.states.length

theorem Sound.state_exists (sound : Sound registry)
    (found : registry.family? handle = some family) :
    ∃ before, registry.state? handle = some before := by
  have inside := sound.families _ _ found
  exact ⟨_, by rw [state?, found, Option.bind_some, List.getElem?_eq_getElem inside]⟩

theorem sound_empty : Sound empty := ⟨by simp [empty, family?], by simp [empty]⟩

theorem sound_preserved (sound : Sound registry)
    (step : registry.advance operation = some (next, outcome)) : Sound next := by
  have change := advance_change step
  have grown := change.states_length
  refine ⟨?_, ?_⟩
  · intro handle family found
    cases change with
    | founded states handles =>
      rcases (family?_append handles).mp found with old | ⟨-, rfl⟩
      · exact Nat.lt_of_lt_of_le (sound.families _ _ old) grown
      · simp [states]
    | joined source states handles =>
      rcases (family?_append handles).mp found with old | ⟨-, rfl⟩
      · exact Nat.lt_of_lt_of_le (sound.families _ _ old) grown
      · exact Nat.lt_of_lt_of_le (sound.families _ _ source) grown
    | moved notMade called known states handles =>
      rw [family?_same handles] at found
      exact Nat.lt_of_lt_of_le (sound.families _ _ found) grown
    | polled states handles =>
      rw [family?_same handles] at found
      exact Nat.lt_of_lt_of_le (sound.families _ _ found) grown
  · intro later present
    rcases (advance_waiters step).2 later present with ⟨earlier, old, same⟩ | ⟨handle, found⟩
    · rw [same]
      exact Nat.lt_of_lt_of_le (sound.waiters _ old) grown
    · exact Nat.lt_of_lt_of_le (sound.families _ _ found) grown

-- The registry is what its history says: the family numbers agree with the founders, and the state
-- of each family is what its own operations come to.
structure Tracks (history : List Operation) (registry : Registry) : Prop where
  made : registry.handles.length = History.made history
  named : History.Named history
  kin : ∀ x y, registry.family? x = some f → registry.family? y = some g →
    (f = g ↔ History.founder? history x = History.founder? history y)
  state : ∀ handle, registry.family? handle = some family →
    registry.states[family]? = some (settled (History.own history handle))

theorem tracks_empty : Tracks [] empty :=
  ⟨rfl, by simp [History.Named], by simp [empty, family?], by simp [empty, family?]⟩

theorem Tracks.old (tracks : Tracks history registry)
    (found : registry.family? handle = some family) : handle < History.made history := by
  rw [← tracks.made]
  exact (List.getElem?_eq_some_iff.mp found).1

theorem named_preserved (tracks : Tracks history registry)
    (change : registry.Change operation next) : History.Named (history ++ [operation]) ∧
      ∀ called, operation.handle? = some called → called < History.made history := by
  have known : ∀ called, operation.handle? = some called → called < History.made history := by
    intro called same
    cases change with
    | founded => cases same
    | joined found =>
      cases same
      exact tracks.old found
    | moved notMade handle found =>
      cases handle.symm.trans same
      exact tracks.old found
    | polled => cases same
  refine ⟨?_, known⟩
  intro earlier present handle called
  rw [History.made_append]
  rcases List.mem_append.mp present with old | new
  · exact Nat.lt_add_right _ (tracks.named earlier old handle called)
  · cases List.mem_singleton.mp new
    exact Nat.lt_add_right _ (known handle called)

theorem kin_preserved (sound : Sound registry) (tracks : Tracks history registry)
    (change : registry.Change operation next) (first : next.family? x = some f)
    (second : next.family? y = some g) :
    f = g ↔ History.founder? (history ++ [operation]) x =
      History.founder? (history ++ [operation]) y := by
  have older : ∀ handle family, registry.family? handle = some family →
      History.founder? (history ++ [operation]) handle = History.founder? history handle :=
    fun handle family found => History.founder?_append_old operation (tracks.old found)
  have kept : registry.family? x = some f → registry.family? y = some g →
      (f = g ↔ History.founder? (history ++ [operation]) x =
        History.founder? (history ++ [operation]) y) := by
    intro xOld yOld
    rw [older x f xOld, older y g yOld]
    exact tracks.kin x y xOld yOld
  cases change with
  | founded states handles =>
    -- The new family's number and founder are both past all earlier ones.
    have apart : ∀ handle family, registry.family? handle = some family →
        family ≠ registry.states.length ∧ History.founder? (history ++ [.create]) handle ≠
          History.founder? (history ++ [.create]) registry.handles.length := by
      intro handle family found
      refine ⟨Nat.ne_of_lt (sound.families _ _ found), ?_⟩
      rw [older handle family found, tracks.made, History.founder?_created]
      exact fun same => Nat.lt_irrefl _ (History.founder?_lt same)
    rcases (family?_append handles).mp first with xOld | ⟨rfl, rfl⟩ <;>
      rcases (family?_append handles).mp second with yOld | ⟨rfl, rfl⟩
    · exact kept xOld yOld
    · have := apart x f xOld
      simp [this]
    · have := apart y g yOld
      simp [this.1.symm, this.2.symm]
    · simp
  | @joined source family _ found states handles =>
    have like : History.founder? (history ++ [.clone source]) registry.handles.length =
        History.founder? history source := by
      rw [tracks.made]
      exact History.founder?_cloned
    rcases (family?_append handles).mp first with xOld | ⟨rfl, rfl⟩ <;>
      rcases (family?_append handles).mp second with yOld | ⟨rfl, rfl⟩
    · exact kept xOld yOld
    · rw [like, older x f xOld]
      exact tracks.kin x source xOld found
    · rw [like, older y g yOld]
      exact tracks.kin source y found yOld
    · simp
  | moved notMade called found states handles =>
    exact kept (family?_same handles ▸ first) (family?_same handles ▸ second)
  | polled states handles =>
    exact kept (family?_same handles ▸ first) (family?_same handles ▸ second)

theorem state_preserved (sound : Sound registry) (tracks : Tracks history registry)
    (change : registry.Change operation next) (found : next.family? handle = some family) :
    next.states[family]? = some (settled (History.own (history ++ [operation]) handle)) := by
  obtain ⟨-, known⟩ := named_preserved tracks change
  have after (old : handle < History.made history) :=
    History.settled_own_append tracks.named known old
  cases change with
  | founded states handles =>
    rcases (family?_append handles).mp found with old | ⟨rfl, rfl⟩
    · have inside := sound.families _ _ old
      rw [after (tracks.old old), states, List.getElem?_append_left inside, tracks.state _ old]
      simp [History.concerns, Operation.handle?]
    · rw [states, tracks.made, History.own_created tracks.named]
      simp [settled]
  | @joined source _ _ origin states handles =>
    have unmoved : ∀ member number, registry.family? member = some number →
        next.states[number]? =
          some (settled (History.own (history ++ [.clone source]) member)) := by
      intro member number old
      rw [History.settled_own_append tracks.named known (tracks.old old), states,
        tracks.state _ old]
      simp [Operation.transition]
    rcases (family?_append handles).mp found with old | ⟨rfl, rfl⟩
    · exact unmoved handle family old
    · have like : History.own (history ++ [.clone source]) registry.handles.length =
          History.own (history ++ [.clone source]) source := by
        apply History.own_same
        rw [tracks.made, History.founder?_cloned,
          History.founder?_append_old _ (tracks.old origin)]
      rw [like]
      exact unmoved source family origin
  | @moved called number _ _ _ handle origin states handles =>
    rw [family?_same handles] at found
    have kin := tracks.kin called _ origin found
    rw [after (tracks.old found), states, List.getElem?_modify, tracks.state _ found]
    by_cases same : number = family
    · simp [same, History.concerns, handle, kin.mp same]
    · have other : History.founder? history called ≠ History.founder? history _ :=
        fun equal => same (kin.mpr equal)
      simp [same, History.concerns, handle, other]
  | polled states handles =>
    rw [family?_same handles] at found
    rw [after (tracks.old found), states, tracks.state _ found]
    simp [History.concerns, Operation.handle?]

theorem tracks_preserved (sound : Sound registry) (tracks : Tracks history registry)
    (change : registry.Change operation next) : Tracks (history ++ [operation]) next where
  made := by rw [change.made, tracks.made, History.made_append]
  named := (named_preserved tracks change).1
  kin := fun _ _ => kin_preserved sound tracks change
  state := fun _ => state_preserved sound tracks change

theorem run_tracks (sound : Sound registry) (tracks : Tracks history registry)
    (ran : registry.run further = some last) : Sound last ∧ Tracks (history ++ further) last := by
  induction further generalizing history registry with
  | nil =>
    cases ran
    rw [List.append_nil]
    exact ⟨sound, tracks⟩
  | cons operation rest ih =>
    obtain ⟨⟨next, outcome⟩, step, ran⟩ := Option.bind_eq_some_iff.mp ran
    rw [List.append_cons]
    exact ih (sound_preserved sound step)
      (tracks_preserved sound tracks (advance_change step)) ran

theorem advance_defined (sound : Sound registry)
    (named : operation.names registry.handles.length registry.waiters.length) :
    ∃ result, registry.advance operation = some result := by
  have known : ∀ handle, handle < registry.handles.length →
      ∃ family state, registry.family? handle = some family ∧
        registry.states[family]? = some state := by
    intro handle inside
    have found : registry.family? handle = some _ := List.getElem?_eq_getElem inside
    exact ⟨_, _, found, List.getElem?_eq_getElem (sound.families _ _ found)⟩
  cases operation with
  | create => exact ⟨_, rfl⟩
  | poll index =>
    have found : registry.waiters[index]? = some _ :=
      List.getElem?_eq_getElem (of_decide_eq_true named)
    have looked : registry.states[_]? = some _ :=
      List.getElem?_eq_getElem (sound.waiters _ (List.mem_of_getElem? found))
    simp only [advance, pollWaiter, found, looked, Option.bind_eq_bind, Option.bind_some]
    split
    · exact ⟨_, rfl⟩
    · split <;> exact ⟨_, rfl⟩
  | clone handle | close handle | mark handle | isClosed handle | look handle | await handle
  | finish handle =>
    obtain ⟨family, state, found, looked⟩ := known handle (of_decide_eq_true named)
    simp [advance, state?, found, looked]

theorem run_defined (sound : Sound registry) (legal : History.legalFrom registry.handles.length
    registry.waiters.length history) : ∃ last, registry.run history = some last := by
  induction history generalizing registry with
  | nil => exact ⟨registry, rfl⟩
  | cons operation rest ih =>
    obtain ⟨named, legal⟩ := Bool.and_eq_true_iff.mp legal
    obtain ⟨⟨next, outcome⟩, step⟩ := advance_defined sound named
    have handles := (advance_change step).made
    have waiters := (advance_waiters step).1
    rw [← handles, ← waiters] at legal
    obtain ⟨last, ran⟩ := ih (sound_preserved sound step) legal
    exact ⟨last, by simp [run, step, ran]⟩

theorem update_unmoved (found : registry.family? handle = some family)
    (looked : registry.state? handle = some state) (unmoved : f state = state) :
    registry.update family f = registry := by
  have same : registry.states.modify family f = registry.states := by
    apply List.ext_getElem?
    intro place
    rw [List.getElem?_modify]
    by_cases here : family = place
    · subst place
      rw [state?, found] at looked
      simp only [Option.bind_some] at looked
      simp [looked, unmoved]
    · simp [here]
  simp [update, same]

theorem mark_ignored (sound : Sound registry) (past : registry.state? handle ≠ some .idle)
    (step : registry.advance (.mark handle address) = some (next, outcome)) :
    next = registry := by
  obtain ⟨family, found, result⟩ := Option.bind_eq_some_iff.mp step
  cases result
  obtain ⟨before, looked⟩ := sound.state_exists found
  refine update_unmoved found looked ?_
  cases before with
  | idle => exact absurd looked past
  | listening first => rfl
  | closed => rfl

theorem close_idempotent (sound : Sound registry)
    (step : registry.advance (.close handle) = some (next, outcome)) :
    next.state? handle = some .closed ∧ next.advance (.close handle) = some (next, outcome) := by
  obtain ⟨family, found, result⟩ := Option.bind_eq_some_iff.mp step
  cases result
  have still : (registry.update family State.close).family? handle = some family := found
  have again : (registry.update family State.close).update family State.close =
      registry.update family State.close := by
    simp only [update, List.modify_modify_eq]
    rfl
  refine ⟨?_, by simp only [advance, still, again, Option.bind_eq_bind, Option.bind_some]⟩
  have inside := List.getElem?_eq_getElem (sound.families _ _ found)
  rw [state?, still, Option.bind_some]
  simp [update, inside, State.close]

theorem state?_of_tracks (tracks : Tracks history registry)
    (made : handle < History.made history) :
    registry.state? handle = some (settled (History.own history handle)) := by
  rw [← tracks.made] at made
  have found : registry.family? handle = some _ := List.getElem?_eq_getElem made
  rw [state?, found, Option.bind_some]
  exact tracks.state handle found

theorem made_of_state? (tracks : Tracks history registry)
    (looked : registry.state? handle = some before) : handle < History.made history := by
  obtain ⟨family, found, -⟩ := Option.bind_eq_some_iff.mp looked
  exact tracks.old found

theorem step_forward (sound : Sound registry) (tracks : Tracks history registry)
    (step : registry.advance operation = some (next, outcome))
    (looked : registry.state? handle = some before) :
    ∃ after, next.state? handle = some after ∧ before.Forward after ∧
      (History.concerns history handle operation = false → after = before) := by
  have change := advance_change step
  have made := made_of_state? tracks looked
  have known := (named_preserved tracks change).2
  have still : handle < History.made (history ++ [operation]) := by
    rw [History.made_append]
    exact Nat.lt_add_right _ made
  have same : before = settled (History.own history handle) := by
    rw [state?_of_tracks tracks made] at looked
    exact (Option.some.inj looked).symm
  refine ⟨_, state?_of_tracks (tracks_preserved sound tracks change) still, ?_⟩
  rw [History.settled_own_append tracks.named known made, same]
  split
  · rename_i concern
    exact ⟨operation.transition_forward _, fun apart => by simp [concern] at apart⟩
  · exact ⟨.stay, fun _ => rfl⟩

end Registry

open Registry in
-- The state of a handle is a function of what was called on its own family, in that order.
theorem family_operations_determine_state (legal : History.legal history = true) :
    ∃ registry, Registry.empty.run history = some registry ∧
      (∀ handle, handle < History.made history →
        registry.state? handle = some (settled (History.own history handle))) ∧
      (∀ x y, x < History.made history → y < History.made history →
        History.founder? history x = History.founder? history y →
        registry.state? x = registry.state? y) ∧
      (∀ operation next outcome, registry.advance operation = some (next, outcome) →
        ∀ handle before, registry.state? handle = some before →
          ∃ after, next.state? handle = some after ∧ before.Forward after ∧
            (History.concerns history handle operation = false → after = before)) ∧
      (∀ handle address next outcome,
        registry.advance (.mark handle address) = some (next, outcome) →
        registry.state? handle ≠ some .idle → next = registry) ∧
      (∀ handle next outcome, registry.advance (.close handle) = some (next, outcome) →
        next.state? handle = some .closed ∧
          next.advance (.close handle) = some (next, outcome)) := by
  obtain ⟨registry, ran⟩ := run_defined sound_empty legal
  obtain ⟨sound, tracks⟩ := run_tracks sound_empty tracks_empty ran
  refine ⟨registry, ran, fun _ => state?_of_tracks tracks, ?_, ?_, ?_, ?_⟩
  · intro x y xMade yMade same
    rw [state?_of_tracks tracks xMade, state?_of_tracks tracks yMade]
    exact congrArg (some ∘ settled) (History.own_same same)
  · intro operation next outcome step handle before looked
    exact step_forward sound tracks step looked
  · intro handle address next outcome step past
    exact mark_ignored sound past step
  · intro handle next outcome step
    exact close_idempotent sound step

def twoFamilies : List Operation :=
  [.create, .clone 0, .await 1 .listening, .clone 1, .mark 2 (.unix "/run/first"),
    .mark 0 (.unix "/run/second"), .poll 0, .create, .close 3, .mark 3 (.unix "/run/third"),
    .finish 1 "HTTP" "/run/first" none]

theorem clones_share_first_address :
    History.legal twoFamilies = true ∧ ∃ registry, Registry.empty.run twoFamilies = some registry ∧
      registry.state? 1 = some (.listening (.unix "/run/first")) ∧
      registry.state? 3 = some .closed := by
  refine ⟨by decide, ?_⟩
  obtain ⟨registry, ran, determined, -⟩ :=
    family_operations_determine_state (by decide : History.legal twoFamilies = true)
  exact ⟨registry, ran, determined 1 (by decide), determined 3 (by decide)⟩

end WebListener.Lifecycle
