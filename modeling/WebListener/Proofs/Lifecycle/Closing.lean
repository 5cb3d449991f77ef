import WebListener.Lifecycle.World
-- Any number of callers close a listener while it binds, serves, stops and is classified. Closing
-- publishes first and signals after it, so a signal always finds the handle closed, and how a serve
-- loop is classified depends only on whether somebody published before.
namespace WebListener.Lifecycle

open Kernel (IoError)
open Log (Event)

variable {handle : State} {failure : Option IoError}

namespace State

theorem isClosed_iff : handle.isClosed = true ↔ handle = .closed := by
  cases handle <;> simp [isClosed]

theorem mark_closed_iff : State.mark address handle = .closed ↔ handle = .closed := by
  cases handle <;> simp [mark]

end State

theorem classify_closed_iff (orderly : failure = none → handle = .closed) :
    classify failure handle.isClosed = .closed ↔ handle = .closed := by
  cases failure with
  | none => simp [classify, orderly rfl]
  | some cause => cases handle <;> simp [classify, State.isClosed]

theorem classify_failed_iff :
    classify failure handle.isClosed = .failed cause ↔
      failure = some cause ∧ handle ≠ .closed := by
  cases failure with
  | none => simp [classify]
  | some other => cases handle <;> simp [classify, State.isClosed]

def errors (events : List Event) : List Event := events.filter fun event => event.level = .error

theorem errors_append (first second : List Event) :
    errors (first ++ second) = errors first ++ errors second := List.filter_append _ _

theorem errors_of_exit (exit : Exit) (label bound : String) :
    errors (exit.events label bound) = match exit with
      | .closed => []
      | .failed cause => [serveFailed label cause] := by
  cases exit <;> rfl

theorem endingOf_redirector_ok (ended : endingOf .redirector phase = some (.ok exit)) :
    exit = .closed ∧ ∃ listener, phase = .exited listener .closed := by
  cases phase with
  | exited listener own =>
    cases own with
    | closed => cases ended; exact ⟨rfl, listener, rfl⟩
    | failed cause => cases ended
  | _ => cases ended

namespace Lane

variable {lane next : Lane} {action : Action}

theorem execute_exact :
    lane.execute action = some next ↔ lane.allowed action = true ∧ lane.apply action = next := by
  unfold execute
  split <;> simp_all

-- Whoever has signalled, or is about to, has published; and no loop ends well before that.
structure Orderly (lane : Lane) : Prop where
  owed : 0 < lane.owed → lane.handle = .closed
  signalled : lane.signalled = true → lane.handle = .closed
  stopped : ∀ listener, lane.phase = .stopped listener none → lane.handle = .closed

theorem initial_orderly : Orderly initial := ⟨by simp [initial], by simp [initial], by simp [initial]⟩

theorem closed_iff_published :
    (lane.apply action).handle = .closed ↔ lane.handle = .closed ∨ action = .publishClose := by
  cases action with
  | publishClose => simp [apply, State.close]
  | publish =>
    simp only [apply, reduceCtorEq, or_false]
    split
    · exact State.mark_closed_iff
    · rfl
  | bind outcome => cases outcome <;> simp [apply]
  | stop failure => simp only [apply]; split <;> simp
  | finish => simp only [apply]; split <;> simp
  | signalClose | launch | drop | abort reason => simp [apply]

theorem mayStop_well (orderly : Orderly lane) (may : lane.mayStop listener none = true) :
    lane.handle = .closed := by
  unfold mayStop at may
  split at may
  · contradiction
  · exact orderly.signalled may
  · exact State.isClosed_iff.mp may

theorem orderly_preserved (orderly : Orderly lane) (allowed : lane.allowed action = true) :
    Orderly (lane.apply action) := by
  obtain ⟨owed, signalled, stopped⟩ := orderly
  cases action with
  | publishClose => exact ⟨fun _ => rfl, fun _ => rfl, fun _ _ => rfl⟩
  | signalClose =>
    have closed := owed (by simpa [Lane.allowed] using allowed)
    exact ⟨fun _ => closed, fun _ => closed, fun _ _ => closed⟩
  | launch => exact ⟨owed, signalled, fun _ same => by cases same⟩
  | bind outcome =>
    cases outcome <;> exact ⟨owed, signalled, fun _ same => by cases same⟩
  | publish =>
    simp only [apply]
    split
    · exact ⟨fun some => State.mark_closed_iff.mpr (owed some),
        fun some => State.mark_closed_iff.mpr (signalled some), fun _ same => by cases same⟩
    · exact ⟨owed, signalled, stopped⟩
  | stop failure =>
    simp only [apply]
    split
    · rename_i listener serving
      have may : lane.mayStop listener failure = true := by
        simpa [Lane.allowed, serving] using allowed
      refine ⟨owed, signalled, ?_⟩
      rintro _ ⟨⟩
      have closed : lane.handle = .closed := mayStop_well ⟨owed, signalled, stopped⟩ may
      exact closed
    · exact ⟨owed, signalled, stopped⟩
  | finish =>
    simp only [apply]
    split
    · exact ⟨owed, signalled, fun _ same => by cases same⟩
    · exact ⟨owed, signalled, stopped⟩
  | drop | abort reason => exact ⟨owed, signalled, fun _ same => by cases same⟩

theorem exited_step (allowed : lane.allowed action = true)
    (exited : (lane.apply action).phase = .exited listener exit) :
    lane.phase = .exited listener exit ∨ (action = .finish ∧
      ∃ failure, lane.phase = .stopped listener failure ∧
        exit = classify failure lane.handle.isClosed) := by
  cases action with
  | publishClose | signalClose => exact .inl exited
  | bind outcome => cases outcome <;> cases exited
  | launch | drop | abort => cases exited
  | publish =>
    cases phase : lane.phase <;> simp [Lane.allowed, phase] at allowed
    simp [apply, phase] at exited
  | stop failure =>
    cases phase : lane.phase <;> simp [Lane.allowed, phase] at allowed
    simp [apply, phase] at exited
  | finish =>
    cases phase : lane.phase <;> simp [Lane.allowed, phase] at allowed
    simp only [apply, phase, Phase.exited.injEq] at exited
    obtain ⟨rfl, rfl⟩ := exited
    exact .inr ⟨rfl, _, rfl, rfl⟩

def failures (lane : Lane) : List Event :=
  match lane.phase with
  | .exited listener (.failed cause) => [serveFailed listener.label cause]
  | _ => []

theorem failures_step (allowed : lane.allowed action = true) :
    (lane.apply action).failures = lane.failures ++ errors (lane.emitted action) := by
  cases action with
  | publishClose | signalClose => simp [failures, apply, emitted, errors]
  | launch =>
    have phase : lane.phase = .absent := by simpa [Lane.allowed] using allowed
    simp [failures, apply, emitted, errors, phase]
  | bind outcome =>
    have phase : lane.phase = .ready := by simpa [Lane.allowed] using allowed
    cases outcome <;> simp [failures, apply, emitted, errors, phase]
  | publish | stop =>
    cases phase : lane.phase <;> simp [Lane.allowed, phase] at allowed
    simp [failures, apply, emitted, errors, phase]
  | finish =>
    cases phase : lane.phase <;> simp [Lane.allowed, phase] at allowed
    rename_i listener failure
    simp only [failures, apply, emitted, phase, errors_of_exit, List.nil_append]
    cases classify failure lane.handle.isClosed <;> rfl
  | drop | abort reason =>
    cases phase : lane.phase <;> simp [Lane.allowed, phase, Phase.isLive] at allowed
    all_goals simp [failures, apply, emitted, errors, phase]

end Lane

inductive Turn where
  | publish (caller : Nat)
  | signal (caller : Nat)
  | own (action : Lane.Action)

namespace Turn

def action : Turn → Lane.Action
  | .publish _ => .publishClose
  | .signal _ => .signalClose
  | .own action => action

end Turn

def Lane.Action.isOwn : Lane.Action → Bool
  | .publishClose | .signalClose => false
  | _ => true

structure Contended where
  lane : Lane
  owing : List Nat

namespace Contended

def initial : Contended := ⟨.initial, []⟩

def owingAfter (state : Contended) : Turn → List Nat
  | .publish caller => caller :: state.owing
  | .signal caller => state.owing.erase caller
  | .own _ => state.owing

def admits (state : Contended) : Turn → Bool
  | .publish caller => caller ∉ state.owing
  | .signal caller => caller ∈ state.owing
  | .own action => action.isOwn

def take (state : Contended) (turn : Turn) : Option Contended :=
  if state.admits turn then
    (state.lane.execute turn.action).map fun lane => ⟨lane, state.owingAfter turn⟩
  else none

def run : Contended → List Turn → Option Contended
  | state, [] => some state
  | state, turn :: rest => (state.take turn).bind (run · rest)

def reported : Contended → List Turn → List Event
  | _, [] => []
  | state, turn :: rest =>
    state.lane.emitted turn.action ++
      match state.take turn with
      | some next => next.reported rest
      | none => []

variable {state next last : Contended} {turn : Turn} {turns : List Turn}

theorem take_exact : state.take turn = some next ↔
    state.admits turn = true ∧ state.lane.allowed turn.action = true ∧
      next = ⟨state.lane.apply turn.action, state.owingAfter turn⟩ := by
  cases admitted : state.admits turn with
  | false => simp [take, admitted]
  | true =>
    simp only [take, admitted, if_true, Option.map_eq_some_iff, Lane.execute_exact, true_and]
    constructor
    · rintro ⟨lane, ⟨allowed, rfl⟩, rfl⟩
      exact ⟨allowed, rfl⟩
    · rintro ⟨allowed, rfl⟩
      exact ⟨_, ⟨allowed, rfl⟩, rfl⟩

theorem run_cons : state.run (turn :: turns) = some last ↔
    ∃ next, state.take turn = some next ∧ next.run turns = some last :=
  Option.bind_eq_some_iff

-- What holds in every reachable state: the listener's own invariant, and the anonymous count of
-- outstanding signals is the number of callers that owe one.
structure Reached (state : Contended) : Prop where
  orderly : state.lane.Orderly
  count : state.lane.owed = state.owing.length

theorem initial_reached : Reached initial := ⟨Lane.initial_orderly, rfl⟩

theorem owed_own (own : action.isOwn = true) (lane : Lane) :
    (lane.apply action).owed = lane.owed := by
  cases action with
  | publishClose | signalClose => cases own
  | bind outcome => cases outcome <;> rfl
  | launch | drop | abort => rfl
  | publish | stop | finish => simp only [Lane.apply]; split <;> rfl

theorem take_reached (reached : Reached state) (step : state.take turn = some next) :
    Reached next := by
  obtain ⟨admitted, allowed, rfl⟩ := take_exact.mp step
  refine ⟨Lane.orderly_preserved reached.orderly allowed, ?_⟩
  have count := reached.count
  cases turn with
  | publish caller => simp [Turn.action, Lane.apply, owingAfter, count]
  | signal caller =>
    have owes : caller ∈ state.owing := by simpa [admits] using admitted
    simp [Turn.action, Lane.apply, owingAfter, count, List.length_erase_of_mem owes]
  | own action => simpa [Turn.action, owingAfter, owed_own admitted] using count

theorem run_reached (reached : Reached state) (ran : state.run turns = some last) :
    Reached last := by
  induction turns generalizing state with
  | nil => cases ran; exact reached
  | cons turn rest ih =>
    obtain ⟨next, step, ran⟩ := run_cons.mp ran
    exact ih (take_reached reached step) ran

theorem signal_admitted (reached : Reached state) (owes : caller ∈ state.owing) :
    ∃ next, state.take (.signal caller) = some next := by
  have outstanding : 0 < state.lane.owed := by
    rw [reached.count]
    exact List.length_pos_of_mem owes
  exact ⟨_, take_exact.mpr ⟨by simpa [admits] using owes,
    by simpa [Turn.action, Lane.allowed] using outstanding, rfl⟩⟩

theorem run_closed_iff (ran : state.run turns = some last) :
    last.lane.handle = .closed ↔ state.lane.handle = .closed ∨
      ∃ caller, Turn.publish caller ∈ turns := by
  induction turns generalizing state with
  | nil => cases ran; simp
  | cons turn rest ih =>
    obtain ⟨next, step, ran⟩ := run_cons.mp ran
    obtain ⟨admitted, -, rfl⟩ := take_exact.mp step
    rw [ih ran, Lane.closed_iff_published]
    cases turn with
    | publish caller => simp [Turn.action]
    | signal caller => simp [Turn.action]
    | own action =>
      have notClose : action ≠ .publishClose := by rintro rfl; cases admitted
      simp [Turn.action, notClose]

theorem run_exited (ran : state.run turns = some last)
    (exited : last.lane.phase = .exited listener exit) :
    state.lane.phase = .exited listener exit ∨ ∃ before after moment failure,
      turns = before ++ .own .finish :: after ∧ state.run before = some moment ∧
        moment.lane.phase = .stopped listener failure ∧
        exit = classify failure moment.lane.handle.isClosed := by
  induction turns generalizing state with
  | nil => cases ran; exact .inl exited
  | cons turn rest ih =>
    obtain ⟨next, step, ran⟩ := run_cons.mp ran
    rcases ih ran with already | ⟨before, after, moment, failure, rfl, reach, found⟩
    · obtain ⟨admitted, allowed, rfl⟩ := take_exact.mp step
      rcases Lane.exited_step allowed already with still | ⟨finish, failure, stopped, same⟩
      · exact .inl still
      · cases turn with
        | publish | signal => cases finish
        | own action =>
          cases finish
          exact .inr ⟨[], rest, state, failure, rfl, rfl, stopped, same⟩
    · exact .inr ⟨turn :: before, after, moment, failure, rfl, run_cons.mpr ⟨next, step, reach⟩,
        found⟩

theorem run_failures (ran : state.run turns = some last) :
    last.lane.failures = state.lane.failures ++ errors (state.reported turns) := by
  induction turns generalizing state with
  | nil => cases ran; simp [reported, errors]
  | cons turn rest ih =>
    obtain ⟨next, step, ran⟩ := run_cons.mp ran
    have later := ih ran
    obtain ⟨-, allowed, rfl⟩ := take_exact.mp step
    rw [later, Lane.failures_step allowed, reported, step, errors_append, List.append_assoc]

theorem run_classified (ran : run .initial turns = some state)
    (exited : state.lane.phase = .exited listener exit) :
    ∃ before after moment failure, turns = before ++ .own .finish :: after ∧
      run .initial before = some moment ∧ moment.lane.phase = .stopped listener failure ∧
      (moment.lane.handle = .closed ↔ ∃ caller, Turn.publish caller ∈ before) ∧
      (exit = .closed ↔ moment.lane.handle = .closed) ∧
      ∀ cause, exit = .failed cause ↔ failure = some cause ∧ moment.lane.handle ≠ .closed := by
  obtain already | ⟨before, after, moment, failure, split, reach, stopped, same⟩ :=
    run_exited ran exited
  · cases already
  · have published := run_closed_iff reach
    have well : failure = none → moment.lane.handle = .closed := by
      rintro rfl
      exact (run_reached initial_reached reach).orderly.stopped listener stopped
    refine ⟨before, after, moment, failure, split, reach, stopped, ?_, ?_, ?_⟩
    · simpa [initial, Lane.initial] using published
    · rw [same]
      exact classify_closed_iff well
    · intro cause
      rw [same]
      exact classify_failed_iff

end Contended

open Contended in
-- Whether a listener was closed or failed is decided by whether anybody had published a close when
-- its result was classified, however the steps of the callers and its own are mixed.
theorem close_decides_exit (ran : Contended.run .initial turns = some state) :
    (state.lane.signalled = true → state.lane.handle = .closed) ∧
      (∀ listener exit, state.lane.phase = .exited listener exit →
        ∃ before after moment failure, turns = before ++ .own .finish :: after ∧
          Contended.run .initial before = some moment ∧
          moment.lane.phase = .stopped listener failure ∧
          (moment.lane.handle = .closed ↔ ∃ caller, Turn.publish caller ∈ before) ∧
          (exit = .closed ↔ moment.lane.handle = .closed) ∧
          (∀ cause, exit = .failed cause ↔ failure = some cause ∧ moment.lane.handle ≠ .closed) ∧
          ((∃ caller, Turn.publish caller ∈ before) →
            errors (Contended.reported .initial turns) = [])) ∧
      errors (Contended.reported .initial turns) = (match state.lane.phase with
        | .exited listener (.failed cause) => [serveFailed listener.label cause]
        | _ => []) ∧
      (∀ exit, endingOf .redirector state.lane.phase = some (.ok exit) →
        exit = .closed ∧ ∃ caller, Turn.publish caller ∈ turns) := by
  have orderly := (run_reached initial_reached ran).orderly
  have failures : errors (Contended.reported .initial turns) = state.lane.failures :=
    (run_failures ran).symm
  refine ⟨orderly.signalled, ?_, failures, ?_⟩
  · intro listener exit exited
    obtain ⟨before, after, moment, failure, split, reach, stopped, published, decided, failed⟩ :=
      run_classified ran exited
    refine ⟨before, after, moment, failure, split, reach, stopped, published, decided, failed, ?_⟩
    intro present
    obtain rfl := decided.mpr (published.mpr present)
    rw [failures, Lane.failures, exited]
  · intro exit ended
    obtain ⟨rfl, listener, exited⟩ := endingOf_redirector_ok ended
    obtain ⟨before, after, moment, failure, rfl, -, -, published, decided, -⟩ :=
      run_classified ran exited
    obtain ⟨caller, present⟩ := published.mp (decided.mp rfl)
    exact ⟨rfl, caller, List.mem_append_left _ present⟩

def closedWhileFailing : List Turn :=
  [.own .launch, .own (.bind (.ok ⟨"HTTP", .unix "/run/web.sock"⟩)), .own .publish, .publish 1,
    .publish 2, .own (.stop (some .noAddresses)), .signal 2, .own .finish, .signal 1]

theorem failure_after_close_unreported :
    Contended.run .initial closedWhileFailing =
        some ⟨⟨.closed, 0, true, .exited ⟨"HTTP", .unix "/run/web.sock"⟩ .closed⟩, []⟩ ∧
      errors (Contended.reported .initial closedWhileFailing) = [] := by
  have ran : Contended.run .initial closedWhileFailing =
      some ⟨⟨.closed, 0, true, .exited ⟨"HTTP", .unix "/run/web.sock"⟩ .closed⟩, []⟩ := rfl
  exact ⟨ran, (close_decides_exit ran).2.2.1⟩

end WebListener.Lifecycle
