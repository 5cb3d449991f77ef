import WebListener.Proofs.Lifecycle.Families
-- What each poll of a waiter sees. It follows from what was called on the waiter's own family
-- before the poll, and from whether an earlier poll of the same waiter has had its answer already;
-- when the waiter was made does not matter.
namespace WebListener.Lifecycle

open Net (BoundAddress)

variable {interest : Interest} {operations history before after : List Operation}
variable {operation : Operation}

-- What whoever looks at a family is due to see, from the operations called on it so far.
def due : Interest → List Operation → Awaited
  | .closed, operations => if operations.any Operation.closes then .closed else .pending
  | .listening, operations =>
    if operations.any Operation.closes then .closedFirst
    else match operations.findSome? Operation.marks? with
      | some address => .bound address
      | none => .pending

theorem poll_settled (interest : Interest) (operations : List Operation) :
    interest.poll (settled operations) = due interest operations := by
  cases interest <;> cases closed : operations.any Operation.closes <;>
    cases marked : operations.findSome? Operation.marks? <;>
    simp [settled, due, closed, marked, Interest.poll]

theorem due_listening_pending :
    due .listening operations = .pending ↔ settled operations = .idle := by
  rw [← poll_settled]
  cases settled operations <;> simp [Interest.poll]

theorem due_bound (seen : due interest operations = .bound address) :
    operations.any Operation.closes = false ∧
      operations.findSome? Operation.marks? = some address := by
  unfold due at seen
  cases interest <;> cases closed : operations.any Operation.closes <;>
    cases marked : operations.findSome? Operation.marks? <;> simp_all

theorem due_closed (seen : due interest operations = .closedFirst ∨
    due interest operations = .closed) : operations.any Operation.closes = true := by
  unfold due at seen
  cases interest <;> cases closed : operations.any Operation.closes <;>
    cases marked : operations.findSome? Operation.marks? <;> simp_all

def Operation.awaits? : Operation → Option (Nat × Interest)
  | .await handle interest => some (handle, interest)
  | _ => none

namespace History

def awaited (history : List Operation) : List (Nat × Interest) :=
  history.filterMap Operation.awaits?

def observed? (history : List Operation) : Operation → Option (Nat × Interest)
  | .look handle interest => some (handle, interest)
  | .poll waiter => (awaited history)[waiter]?
  | _ => none

def resolves (history : List Operation) (waiter : Nat) : Bool :=
  (observed? history (.poll waiter)).any fun (handle, interest) =>
    due interest (own history handle) != .pending

def answered (history : List Operation) (waiter : Nat) : Bool :=
  (List.range history.length).any fun place =>
    history[place]? == some (.poll waiter) && resolves (history.take place) waiter

def taken (history : List Operation) : Operation → Bool
  | .poll waiter => answered history waiter
  | _ => false

theorem awaited_append (history : List Operation) (operation : Operation) :
    awaited (history ++ [operation]) = awaited history ++ operation.awaits?.toList := by
  cases awaits : operation.awaits? <;> simp [awaited, awaits]

theorem answered_iff : answered history waiter = true ↔ ∃ place, place < history.length ∧
    history[place]? = some (.poll waiter) ∧ resolves (history.take place) waiter = true := by
  simp [answered]

theorem answered_append (history : List Operation) (operation : Operation) (waiter : Nat) :
    answered (history ++ [operation]) waiter =
      (answered history waiter || operation == .poll waiter && resolves history waiter) := by
  have earlier : ∀ place, place < history.length →
      (history ++ [operation])[place]? = history[place]? ∧
        (history ++ [operation]).take place = history.take place := fun place inside =>
    ⟨List.getElem?_append_left inside, List.take_append_of_le_length (Nat.le_of_lt inside)⟩
  rw [Bool.eq_iff_iff, answered_iff, Bool.or_eq_true, answered_iff, Bool.and_eq_true, beq_iff_eq]
  constructor
  · rintro ⟨place, inside, polled, resolved⟩
    rcases Nat.lt_or_ge place history.length with before | last
    · rw [(earlier place before).1] at polled
      rw [(earlier place before).2] at resolved
      exact .inl ⟨place, before, polled, resolved⟩
    · have here : place = history.length := by
        rw [List.length_append, List.length_singleton] at inside
        omega
      subst here
      exact .inr ⟨by simpa using polled, by simpa using resolved⟩
  · rintro (⟨place, before, polled, resolved⟩ | ⟨rfl, resolved⟩)
    · refine ⟨place, by simp; omega, ?_⟩
      rw [(earlier place before).1, (earlier place before).2]
      exact ⟨polled, resolved⟩
    · exact ⟨history.length, by simp, by simp, by simpa using resolved⟩

end History

namespace Registry

variable {registry next last : Registry} {outcome : Outcome}

theorem Change.family_kept (change : registry.Change operation next)
    (found : registry.family? handle = some family) : next.family? handle = some family := by
  cases change with
  | founded states handles => exact (family?_append handles).mpr (.inl found)
  | joined source states handles => exact (family?_append handles).mpr (.inl found)
  | moved notMade called known states handles => rw [family?_same handles, found]
  | polled states handles => rw [family?_same handles, found]

theorem pollWaiter_exact (found : registry.waiters[index]? = some waiter)
    (looked : registry.states[waiter.family]? = some state) :
    registry.pollWaiter index = some
      ({ registry with waiters := registry.waiters.set index { waiter with
          finished := waiter.finished || waiter.interest.poll state != .pending } },
        .saw (if waiter.finished then .taken else waiter.interest.poll state)) := by
  have unmoved : registry.waiters.set index waiter = registry.waiters := by
    obtain ⟨inside, rfl⟩ := List.getElem?_eq_some_iff.mp found
    exact List.set_getElem_self inside
  obtain ⟨family, interest, finished⟩ := waiter
  simp only [pollWaiter, found, looked, Option.bind_eq_bind, Option.bind_some]
  cases finished with
  | true => simp [unmoved]
  | false =>
    cases interest.poll state with
    | pending => simp [unmoved]
    | bound | closedFirst | closed | taken => rfl

-- The waiters are those that the history made, each of the family of the handle that it was made
-- on, and finished once a poll has given it its answer.
structure Attends (history : List Operation) (registry : Registry) : Prop where
  made : registry.waiters.length = (History.awaited history).length
  polled : ∀ index, .poll index ∈ history → index < registry.waiters.length
  waiter : ∀ index waiter, registry.waiters[index]? = some waiter → ∃ handle,
    (History.awaited history)[index]? = some (handle, waiter.interest) ∧
      registry.family? handle = some waiter.family ∧
      waiter.finished = History.answered history index

theorem attends_empty : Attends [] empty :=
  ⟨rfl, by simp, by simp [empty]⟩

theorem Attends.poll (attends : Attends history registry) (tracks : Tracks history registry)
    (step : registry.advance (.poll index) = some (next, outcome)) : ∃ handle waiter,
      (History.awaited history)[index]? = some (handle, waiter.interest) ∧
      registry.waiters[index]? = some waiter ∧
      registry.family? handle = some waiter.family ∧
      next = { registry with waiters := registry.waiters.set index { waiter with
        finished := History.answered (history ++ [.poll index]) index } } ∧
      outcome = .saw (if History.answered history index then .taken
        else due waiter.interest (History.own history handle)) := by
  cases found : registry.waiters[index]? with
  | none => simp [advance, pollWaiter, found] at step
  | some waiter =>
    obtain ⟨handle, awaited, family, finished⟩ := attends.waiter index waiter found
    have looked := tracks.state handle family
    have resolved : History.resolves history index =
        (due waiter.interest (History.own history handle) != .pending) := by
      simp [History.resolves, History.observed?, awaited]
    have same : registry.advance (.poll index) = registry.pollWaiter index := rfl
    rw [same, pollWaiter_exact found looked, poll_settled, finished] at step
    cases step
    refine ⟨handle, waiter, awaited, rfl, family, ?_, rfl⟩
    rw [History.answered_append, resolved]
    simp

theorem attends_aside (attends : Attends history registry)
    (kept : ∀ handle family, registry.family? handle = some family →
      next.family? handle = some family)
    (waiters : next.waiters = registry.waiters) (silent : operation.awaits? = none)
    (other : ∀ index, operation ≠ .poll index) : Attends (history ++ [operation]) next := by
  have awaited : History.awaited (history ++ [operation]) = History.awaited history := by
    simp [History.awaited_append, silent]
  refine ⟨by rw [waiters, awaited, attends.made], ?_, ?_⟩
  · intro index present
    rcases List.mem_append.mp present with old | new
    · rw [waiters]
      exact attends.polled index old
    · exact absurd (List.mem_singleton.mp new).symm (other index)
  · intro index waiter found
    rw [waiters] at found
    obtain ⟨handle, place, family, finished⟩ := attends.waiter index waiter found
    refine ⟨handle, by rw [awaited, place], kept _ _ family, ?_⟩
    rw [finished, History.answered_append]
    simp [other index]

theorem attends_await (attends : Attends history registry)
    (kept : ∀ handle family, registry.family? handle = some family →
      next.family? handle = some family)
    (found : registry.family? handle = some own)
    (waiters : next.waiters = registry.waiters ++ [⟨own, interest, false⟩]) :
    Attends (history ++ [.await handle interest]) next := by
  have awaited : History.awaited (history ++ [.await handle interest]) =
      History.awaited history ++ [(handle, interest)] := by
    simp [History.awaited_append, Operation.awaits?]
  have unpolled : History.answered history registry.waiters.length = false := by
    rw [Bool.eq_false_iff]
    intro answered
    obtain ⟨place, -, polled, -⟩ := History.answered_iff.mp answered
    exact Nat.lt_irrefl _ (attends.polled _ (List.mem_of_getElem? polled))
  refine ⟨by simp [waiters, awaited, attends.made], ?_, ?_⟩
  · intro index present
    rw [waiters, List.length_append]
    rcases List.mem_append.mp present with old | new
    · exact Nat.lt_add_right _ (attends.polled index old)
    · cases List.mem_singleton.mp new
  · intro index waiter place
    rw [waiters, List.getElem?_append] at place
    split at place
    · rename_i inside
      obtain ⟨on, listed, family, finished⟩ := attends.waiter index waiter place
      refine ⟨on, ?_, kept _ _ family, ?_⟩
      · rw [awaited, List.getElem?_append_left (by rw [← attends.made]; exact inside), listed]
      · rw [finished, History.answered_append]
        simp
    · have here : index = registry.waiters.length := by
        have := (List.getElem?_eq_some_iff.mp place).1
        simp at this
        omega
      subst here
      simp at place
      subst place
      refine ⟨handle, ?_, kept _ _ found, ?_⟩
      · rw [awaited, attends.made]
        simp
      · rw [History.answered_append, unpolled]
        simp

theorem attends_poll (attends : Attends history registry)
    (kept : ∀ handle family, registry.family? handle = some family →
      next.family? handle = some family)
    (found : registry.waiters[polled]? = some seen)
    (waiters : next.waiters = registry.waiters.set polled { seen with
      finished := History.answered (history ++ [.poll polled]) polled }) :
    Attends (history ++ [.poll polled]) next := by
  have awaited : History.awaited (history ++ [.poll polled]) = History.awaited history := by
    simp [History.awaited_append, Operation.awaits?]
  refine ⟨by simp [waiters, awaited, attends.made], ?_, ?_⟩
  · intro index present
    rw [waiters, List.length_set]
    rcases List.mem_append.mp present with old | new
    · exact attends.polled index old
    · cases List.mem_singleton.mp new
      exact (List.getElem?_eq_some_iff.mp found).1
  · intro index waiter place
    rw [waiters, List.getElem?_set] at place
    split at place
    · rename_i same
      subst same
      split at place
      · obtain rfl := Option.some.inj place
        obtain ⟨handle, listed, family, -⟩ := attends.waiter polled seen found
        exact ⟨handle, by rw [awaited, listed], kept _ _ family, rfl⟩
      · cases place
    · rename_i other
      obtain ⟨handle, listed, family, finished⟩ := attends.waiter index waiter place
      refine ⟨handle, by rw [awaited, listed], kept _ _ family, ?_⟩
      rw [finished, History.answered_append]
      simp [other]

theorem attends_preserved (attends : Attends history registry) (tracks : Tracks history registry)
    (step : registry.advance operation = some (next, outcome)) :
    Attends (history ++ [operation]) next := by
  have kept : ∀ handle family, registry.family? handle = some family →
      next.family? handle = some family := fun handle family found =>
    (advance_change step).family_kept found
  cases operation with
  | create =>
    cases step
    exact attends_aside attends kept rfl rfl (by simp)
  | clone | close | mark | isClosed | look | finish =>
    obtain ⟨found, -, result⟩ := Option.bind_eq_some_iff.mp step
    cases result
    exact attends_aside attends kept rfl rfl (by simp)
  | await handle interest =>
    obtain ⟨family, found, result⟩ := Option.bind_eq_some_iff.mp step
    cases result
    exact attends_await attends kept found rfl
  | poll polled =>
    obtain ⟨on, seen, -, found, -, rfl, -⟩ := attends.poll tracks step
    exact attends_poll attends kept found rfl

theorem run_append (first second : List Operation) :
    registry.run (first ++ second) = (registry.run first).bind (·.run second) := by
  induction first generalizing registry with
  | nil => rfl
  | cons operation rest ih =>
    cases step : registry.advance operation with
    | none => simp [run, step]
    | some result => simp [run, step, ih]

theorem run_attends (sound : Sound registry) (tracks : Tracks history registry)
    (attends : Attends history registry) (ran : registry.run further = some last) :
    Attends (history ++ further) last := by
  induction further generalizing history registry with
  | nil =>
    cases ran
    rw [List.append_nil]
    exact attends
  | cons operation rest ih =>
    obtain ⟨⟨next, outcome⟩, step, ran⟩ := Option.bind_eq_some_iff.mp ran
    rw [List.append_cons]
    exact ih (sound_preserved sound step) (tracks_preserved sound tracks (advance_change step))
      (attends_preserved attends tracks step) ran

theorem run_own (sound : Sound registry) (tracks : Tracks history registry)
    (old : handle < History.made history) (ran : registry.run further = some last) :
    History.own history handle <+: History.own (history ++ further) handle := by
  induction further generalizing history registry with
  | nil => simp
  | cons operation rest ih =>
    obtain ⟨⟨next, outcome⟩, step, ran⟩ := Option.bind_eq_some_iff.mp ran
    have change := advance_change step
    have grown : History.own history handle <+: History.own (history ++ [operation]) handle := by
      rw [History.own_append_old tracks.named (named_preserved tracks change).2 old]
      exact List.prefix_append _ _
    have still : handle < History.made (history ++ [operation]) := by
      rw [History.made_append]
      exact Nat.lt_add_right _ old
    rw [List.append_cons]
    exact grown.trans (ih (sound_preserved sound step) (tracks_preserved sound tracks change)
      still ran)

end Registry

namespace History

theorem legalFrom_left (legal : legalFrom handles waiters (before ++ after) = true) :
    legalFrom handles waiters before = true := by
  induction before generalizing handles waiters with
  | nil => rfl
  | cons operation rest ih =>
    obtain ⟨named, legal⟩ := Bool.and_eq_true_iff.mp legal
    exact Bool.and_eq_true_iff.mpr ⟨named, ih legal⟩

theorem legal_prefix (legal : legal history = true) (part : before <+: history) :
    History.legal before = true := by
  obtain ⟨after, rfl⟩ := part
  exact legalFrom_left legal

theorem founder?_extends (old : handle < made history) :
    founder? (history ++ further) handle = founder? history handle := by
  induction further generalizing history with
  | nil => rw [List.append_nil]
  | cons operation rest ih =>
    have still : handle < made (history ++ [operation]) := by
      rw [made_append]
      exact Nat.lt_add_right _ old
    rw [List.append_cons, ih still, founder?_append_old operation old]

end History

open Registry in
theorem run_legal (legal : History.legal history = true) :
    ∃ registry, Registry.empty.run history = some registry ∧ Sound registry ∧
      Tracks history registry ∧ Attends history registry := by
  obtain ⟨registry, ran⟩ := run_defined sound_empty legal
  obtain ⟨sound, tracks⟩ := run_tracks sound_empty tracks_empty ran
  exact ⟨registry, ran, sound, tracks, run_attends sound_empty tracks_empty attends_empty ran⟩

open Registry in
theorem step_legal (legal : History.legal history = true)
    (part : before ++ [operation] <+: history) : ∃ registry next outcome,
      Registry.empty.run before = some registry ∧ Tracks before registry ∧
      Attends before registry ∧ registry.advance operation = some (next, outcome) := by
  obtain ⟨registry, ran, -, tracks, attends⟩ :=
    run_legal (History.legal_prefix legal ((List.prefix_append _ _).trans part))
  obtain ⟨last, whole, -⟩ := run_legal (History.legal_prefix legal part)
  rw [run_append, ran, Option.bind_some] at whole
  obtain ⟨⟨next, outcome⟩, step, -⟩ := Option.bind_eq_some_iff.mp whole
  exact ⟨registry, next, outcome, ran, tracks, attends, step⟩

def outcomeAfter (history : List Operation) (operation : Operation) : Option Outcome :=
  (Registry.empty.run history).bind fun registry => (registry.advance operation).map (·.2)

def stateAfter (history : List Operation) (handle : Nat) : Option State :=
  (Registry.empty.run history).bind (·.state? handle)

structure Sees (history before : List Operation) (operation : Operation) (handle : Nat)
    (seen : Awaited) : Prop where
  part : before ++ [operation] <+: history
  observed : ∃ interest, History.observed? before operation = some (handle, interest)
  outcome : outcomeAfter before operation = some (.saw seen)

theorem observed_outcome (legal : History.legal history = true)
    (part : before ++ [operation] <+: history)
    (observed : History.observed? before operation = some (handle, interest)) :
    handle < History.made before ∧ outcomeAfter before operation = some (.saw
      (if History.taken before operation then .taken
        else due interest (History.own before handle))) := by
  obtain ⟨registry, next, outcome, ran, tracks, attends, step⟩ := step_legal legal part
  have result : outcomeAfter before operation = some outcome := by
    simp [outcomeAfter, ran, step]
  cases operation with
  | look on wanted =>
    cases observed
    obtain ⟨state, looked, answer⟩ := Option.bind_eq_some_iff.mp step
    cases answer
    have made := Registry.made_of_state? tracks looked
    have same := (Registry.state?_of_tracks tracks made).symm.trans looked
    obtain rfl := Option.some.inj same
    exact ⟨made, by rw [result, poll_settled]; rfl⟩
  | poll index =>
    obtain ⟨on, waiter, awaited, -, family, -, rfl⟩ := attends.poll tracks step
    have same : some (handle, interest) = some (on, waiter.interest) :=
      observed.symm.trans awaited
    cases same
    exact ⟨tracks.old family, result⟩
  | create | clone | close | mark | isClosed | await | finish => cases observed

theorem Sees.due (sees : Sees history before operation handle seen)
    (legal : History.legal history = true) (fresh : seen ≠ .taken) :
    handle < History.made before ∧ ∃ interest, seen = due interest (History.own before handle) := by
  obtain ⟨interest, observed⟩ := sees.observed
  obtain ⟨made, outcome⟩ := observed_outcome legal sees.part observed
  refine ⟨made, interest, ?_⟩
  rw [sees.outcome] at outcome
  cases taken : History.taken before operation <;> simp [taken] at outcome
  · exact outcome
  · exact absurd outcome fresh

-- What was called on a family by the time of a first look has been called on it by the time of any
-- later one, on whichever of its handles.
theorem own_later (legal : History.legal history = true) (part : second <+: history)
    (earlier : first <+: second) (xMade : x < History.made first) (yMade : y < History.made second)
    (kin : History.founder? history x = History.founder? history y) :
    History.own first x <+: History.own second y := by
  obtain ⟨registry, ran, sound, tracks, -⟩ :=
    run_legal (History.legal_prefix legal (earlier.trans part))
  obtain ⟨last, whole, -⟩ := run_legal (History.legal_prefix legal part)
  obtain ⟨rest, rfl⟩ := earlier
  obtain ⟨further, rfl⟩ := part
  rw [Registry.run_append, ran, Option.bind_some] at whole
  have grown := Registry.run_own sound tracks xMade whole
  have xStill : x < History.made (first ++ rest) := by
    simp only [History.made, History.parents, List.filterMap_append, List.length_append]
    exact Nat.lt_add_right _ xMade
  rw [History.founder?_extends xStill, History.founder?_extends yMade] at kin
  rw [History.own_same kin] at grown
  exact grown

-- Whenever a handle's family is looked at, by a waiter or at once, what is seen follows from what
-- was called on that family until then, and a waiter that has had its answer sees nothing more. So
-- the addresses that a family shows are one, and none is shown after it was seen closed.
theorem waiters_see_their_family (legal : History.legal history = true) :
    (∀ before waiter, before ++ [.poll waiter] <+: history →
      ∃ handle interest, (History.awaited before)[waiter]? = some (handle, interest)) ∧
    (∀ before operation handle interest, before ++ [operation] <+: history →
      History.observed? before operation = some (handle, interest) →
        outcomeAfter before operation = some (.saw (if History.taken before operation then .taken
          else due interest (History.own before handle))) ∧
        (due .listening (History.own before handle) = .pending ↔
          stateAfter before handle = some .idle)) ∧
    (∀ one first x a two second y b, Sees history one first x (.bound a) →
      Sees history two second y (.bound b) →
      History.founder? history x = History.founder? history y → a = b) ∧
    (∀ one first x seen two second y a, Sees history one first x seen →
      seen = .closedFirst ∨ seen = .closed → Sees history two second y (.bound a) →
      History.founder? history x = History.founder? history y → ¬one ++ [first] <+: two) := by
  refine ⟨?_, ?_, ?_, ?_⟩
  · intro before waiter part
    obtain ⟨registry, next, outcome, -, tracks, attends, step⟩ := step_legal legal part
    obtain ⟨handle, own, awaited, -⟩ := attends.poll tracks step
    exact ⟨handle, own.interest, awaited⟩
  · intro before operation handle interest part observed
    obtain ⟨made, outcome⟩ := observed_outcome legal part observed
    refine ⟨outcome, ?_⟩
    obtain ⟨registry, -, -, ran, tracks, -⟩ := step_legal legal part
    rw [due_listening_pending, stateAfter, ran, Option.bind_some,
      Registry.state?_of_tracks tracks made, Option.some.injEq]
  · intro one first x a two second y b sawOne sawTwo kin
    obtain ⟨xMade, oneInterest, oneDue⟩ := sawOne.due legal (by simp)
    obtain ⟨yMade, twoInterest, twoDue⟩ := sawTwo.due legal (by simp)
    have onePart := (List.prefix_append one [first]).trans sawOne.part
    have twoPart := (List.prefix_append two [second]).trans sawTwo.part
    have marked := (due_bound oneDue.symm).2
    have remarked := (due_bound twoDue.symm).2
    rcases List.prefix_or_prefix_of_prefix onePart twoPart with earlier | later
    · have grown := own_later legal twoPart earlier xMade yMade kin
      exact Option.some.inj ((grown.findSome?_eq_some marked).symm.trans remarked)
    · have grown := own_later legal onePart later yMade xMade kin.symm
      exact Option.some.inj (marked.symm.trans (grown.findSome?_eq_some remarked))
  · intro one first x seen two second y a sawOne settled sawTwo kin later
    have fresh : seen ≠ .taken := by
      rintro rfl
      rcases settled with same | same <;> cases same
    obtain ⟨xMade, oneInterest, rfl⟩ := sawOne.due legal fresh
    obtain ⟨yMade, twoInterest, twoDue⟩ := sawTwo.due legal (by simp)
    have twoPart := (List.prefix_append two [second]).trans sawTwo.part
    have earlier := (List.prefix_append one [first]).trans later
    have grown := own_later legal twoPart earlier xMade yMade kin
    obtain ⟨close, called, closes⟩ := List.any_eq_true.mp (due_closed settled)
    have opened := List.any_eq_false.mp (due_bound twoDue.symm).1 close (grown.subset called)
    exact opened closes

def earlyAndLate : List Operation :=
  [.create, .await 0 .listening, .clone 0, .poll 0, .mark 1 (.unix "/run/first"), .poll 0, .poll 0,
    .close 0, .await 1 .listening, .poll 1, .await 1 .closed, .poll 2]

theorem waiter_woken_by_clone :
    History.legal earlyAndLate = true ∧
      outcomeAfter (earlyAndLate.take 3) (.poll 0) = some (.saw .pending) ∧
      outcomeAfter (earlyAndLate.take 5) (.poll 0) = some (.saw (.bound (.unix "/run/first"))) ∧
      outcomeAfter (earlyAndLate.take 6) (.poll 0) = some (.saw .taken) ∧
      outcomeAfter (earlyAndLate.take 9) (.poll 1) = some (.saw .closedFirst) ∧
      outcomeAfter (earlyAndLate.take 11) (.poll 2) = some (.saw .closed) := by
  have legal : History.legal earlyAndLate = true := by decide
  obtain ⟨-, sees, -⟩ := waiters_see_their_family legal
  exact ⟨legal, (sees _ _ 0 .listening ⟨_, rfl⟩ rfl).1, (sees _ _ 0 .listening ⟨_, rfl⟩ rfl).1,
    (sees _ _ 0 .listening ⟨_, rfl⟩ rfl).1, (sees _ _ 1 .listening ⟨_, rfl⟩ rfl).1,
    (sees _ _ 1 .closed ⟨_, rfl⟩ rfl).1⟩

end WebListener.Lifecycle
