import WebListener.Proofs.Lifecycle.Moves
-- A run seen from one of the two listeners: each move is one step of it or none, and whatever it
-- went through it went through in order.
namespace WebListener.Lifecycle

open Kernel (FileTree IoError)

namespace Phase

def stage : Phase → Nat
  | .absent => 0
  | .ready => 1
  | .bound _ => 2
  | .serving _ => 3
  | .stopped .. => 4
  | .refused _ | .exited .. | .dropped _ | .aborted .. => 5

def isTaken : Phase → Bool
  | .dropped _ | .aborted .. => true
  | _ => false

end Phase

namespace Lane

variable {lane : Lane} {action : Action}

def Action.isClose : Action → Bool
  | .publishClose => true
  | _ => false

def after (lane : Lane) : Option Action → Lane
  | some action => lane.apply action
  | none => lane

theorem apply_handle (close : action.isClose = false) (publish : action ≠ .publish) :
    (lane.apply action).handle = lane.handle := by
  cases action with
  | publishClose => cases close
  | publish => exact absurd rfl publish
  | bind outcome => cases outcome <;> rfl
  | stop | finish => simp only [apply]; split <;> rfl
  | signalClose | launch | drop | abort => rfl

inductive Follows (lane : Lane) : Action → Phase → Prop where
  | publishClose : Follows lane .publishClose lane.phase
  | signalClose : Follows lane .signalClose lane.phase
  | launch (absent : lane.phase = .absent) : Follows lane .launch .ready
  | refuse (ready : lane.phase = .ready) : Follows lane (.bind (.error error)) (.refused error)
  | bind (ready : lane.phase = .ready) : Follows lane (.bind (.ok listener)) (.bound listener)
  | publish (bound : lane.phase = .bound listener) : Follows lane .publish (.serving listener)
  | stop {failure : Option IoError} (serving : lane.phase = .serving listener) :
      Follows lane (.stop failure) (.stopped listener failure)
  | finish {failure : Option IoError} (stopped : lane.phase = .stopped listener failure) :
      Follows lane .finish (.exited listener (classify failure lane.handle.isClosed))
  | drop (live : lane.phase.isLive = true) : Follows lane .drop (.dropped lane.phase.listener?)
  | abort (live : lane.phase.isLive = true) :
      Follows lane (.abort reason) (.aborted lane.phase.listener? reason)

theorem apply_follows (allowed : lane.allowed action = true) :
    lane.Follows action (lane.apply action).phase := by
  cases action with
  | publishClose => exact .publishClose
  | signalClose => exact .signalClose
  | launch => exact .launch (by simpa [Lane.allowed] using allowed)
  | bind outcome =>
    have ready : lane.phase = .ready := by simpa [Lane.allowed] using allowed
    cases outcome with
    | error error => exact .refuse ready
    | ok listener => exact .bind ready
  | publish =>
    cases phase : lane.phase <;> simp [Lane.allowed, phase] at allowed
    simpa [apply, phase] using Follows.publish phase
  | stop failure =>
    cases phase : lane.phase <;> simp [Lane.allowed, phase] at allowed
    simpa [apply, phase] using Follows.stop phase
  | finish =>
    cases phase : lane.phase <;> simp [Lane.allowed, phase] at allowed
    simpa [apply, phase] using Follows.finish phase
  | drop => exact .drop allowed
  | abort reason => exact .abort allowed

namespace Follows

variable {phase : Phase}

theorem stage_le (step : lane.Follows action phase) : lane.phase.stage ≤ phase.stage := by
  cases step with
  | publishClose | signalClose => exact Nat.le_refl _
  | launch before | refuse before | bind before | publish before | stop before | finish before =>
    simp [before, Phase.stage]
  | drop live | abort live => cases lane.phase <;> simp [Phase.stage]

theorem spent (step : lane.Follows action phase) (spent : lane.phase.stage = 5) :
    phase = lane.phase := by
  cases step with
  | publishClose | signalClose => rfl
  | launch before | refuse before | bind before | publish before | stop before | finish before =>
    rw [before] at spent
    cases spent
  | drop live | abort live =>
    cases phase : lane.phase <;> simp [phase, Phase.stage, Phase.isLive] at spent live

theorem listener_kept (step : lane.Follows action phase)
    (bound : lane.phase.listener? = some listener) : phase.listener? = some listener := by
  cases step with
  | publishClose | signalClose | drop | abort => exact bound
  | launch before | refuse before | bind before =>
    rw [before] at bound
    cases bound
  | publish before | stop before | finish before =>
    rw [before] at bound
    exact bound

end Follows

end Lane

namespace World

variable {world next last : World} {move : Move} {moves : List Move} {side : Side}

def touchOn (side : Side) (touch : Touch) : Option Lane.Action :=
  if (touchAction touch).1 = side then some (touchAction touch).2 else none

def redirectorFailed (world : World) : Bool :=
  match world.redirector.phase, endingOf .redirector world.redirector.phase with
  | .aborted .., _ | _, some (.error _) => true
  | _, _ => false

-- The step of one listener that a move is, if it is one.
def step? (world : World) (side : Side) : Move → Option Lane.Action
  | .launch .listenAndServe =>
    if side = .primary ∨ world.options.redirectHttpToHttps then some .launch else none
  | .launch .primary => if side = .primary then some .launch else none
  | .launch .redirector => if side = .redirector then some .launch else none
  | .touch touch => touchOn side touch
  | .start own => if own = side then some (.bind (world.startup own).outcome) else none
  | .publish own => if own = side then some .publish else none
  | .stop own failure => if own = side then some (.stop failure) else none
  | .finish own => if own = side then some .finish else none
  | .observe => if side = .primary ∧ world.redirectorFailed then some .drop else none
  | .abort reason => if side = .redirector then some (.abort reason) else none
  | .closeNext => (world.shutdown.bind List.head?).bind (touchOn side)
  | .report | .receive _ => none

@[simp] theorem lane_act (own : Side) (action : Lane.Action) :
    (world.act own action).lane side =
      if own = side then (world.lane side).apply action else world.lane side := by
  cases own <;> cases side <;> rfl

theorem touch_lane (world : World) (touch : Touch) :
    (world.act (touchAction touch).1 (touchAction touch).2).lane side =
      (world.lane side).after (touchOn side touch) := by
  rw [lane_act, touchOn]
  split <;> rfl

theorem observe_lane : world.observe.lane side =
    (world.lane side).after (world.step? side .observe) := by
  unfold observe step? redirectorFailed
  cases side <;> dsimp only <;> split <;> simp_all [Lane.after, lane, act, setLane]

theorem start_lane (own : Side) : (world.start own).lane side =
    (world.lane side).after (world.step? side (.start own)) := by
  cases own with
  | primary =>
    obtain ⟨same, other, -⟩ := start_primary world
    cases side with
    | primary => exact same
    | redirector => exact other
  | redirector =>
    obtain ⟨same, other, -⟩ := start_redirector world
    cases side with
    | primary => exact other
    | redirector => exact same

theorem finish_lane (own : Side) (allowed : (world.lane own).allowed .finish = true) :
    (world.finish own).lane side = (world.lane side).after (world.step? side (.finish own)) := by
  cases own with
  | primary =>
    obtain ⟨same, other, -⟩ := finish_primary world allowed
    cases side with
    | primary => exact same
    | redirector => exact other
  | redirector =>
    obtain ⟨same, other, -⟩ := finish_redirector world
    cases side with
    | primary => exact other
    | redirector => exact same

theorem launch_lane (what : Launch) : (world.launch what).lane side =
    (world.lane side).after (world.step? side (.launch what)) := by
  cases what with
  | primary | redirector => cases side <;> rfl
  | listenAndServe =>
    cases enabled : world.options.redirectHttpToHttps with
    | true => rw [launch_enabled enabled]; cases side <;> simp [step?, enabled] <;> rfl
    | false => rw [launch_disabled enabled]; cases side <;> simp [step?, enabled] <;> rfl

theorem apply_lane (allowed : world.allowed move = true) :
    (world.apply move).lane side = (world.lane side).after (world.step? side move) := by
  cases move with
  | launch what => exact launch_lane what
  | touch touch => exact touch_lane world touch
  | start own => exact start_lane own
  | publish own | stop own failure =>
    simp only [apply, lane_act, step?]
    split <;> rfl
  | finish own =>
    simp only [World.allowed, Bool.and_eq_true] at allowed
    exact finish_lane own allowed.2
  | report | receive => cases side <;> rfl
  | observe => exact observe_lane
  | abort reason => cases side <;> rfl
  | closeNext =>
    cases owed : world.shutdown with
    | none => simp [apply, step?, owed, Lane.after]
    | some touches =>
      cases touches with
      | nil => simp [apply, step?, owed, Lane.after]
      | cons touch rest =>
        have same : _ = (world.lane side).after (touchOn side touch) := touch_lane world touch
        simp only [apply, step?, owed]
        cases side <;> exact same

theorem touchOn_some (touched : touchOn side touch = some action) :
    touchAction touch = (side, action) := by
  unfold touchOn at touched
  split at touched
  · rename_i same
    cases touched
    rw [← same]
  · cases touched

theorem touchOn_closes (touched : touchOn side touch = some action) :
    action = .publishClose ∨ action = .signalClose := by
  have same := touchOn_some touched
  cases touch <;> cases same
  · exact .inl rfl
  · exact .inr rfl

-- What is allowed of the whole is allowed of the listener that it is a step of. The signal task
-- closes a handle whether or not anybody else has.
theorem step_allowed (allowed : world.allowed move = true)
    (step : world.step? side move = some action) :
    action = .publishClose ∨ action = .signalClose ∨ (world.lane side).allowed action = true := by
  cases move with
  | launch what =>
    cases what <;> cases side <;> simp [step?] at step <;> simp_all [World.allowed, lane]
  | touch touch => exact (touchOn_closes step).imp_right .inl
  | start own | publish own | stop own failure | finish own =>
    by_cases same : own = side
    · subst same
      simp only [step?, if_true, Option.some.injEq] at step
      subst step
      simp only [World.allowed, Bool.and_eq_true] at allowed
      exact .inr (.inr allowed.2)
    · simp [step?, same] at step
  | observe =>
    cases side <;> simp [step?] at step
    obtain ⟨-, rfl⟩ := step
    have waiting : world.primary.phase.isWaiting = true := by
      cases call : world.call <;> simp [World.allowed, call] at allowed
      exact allowed.1
    refine .inr (.inr ?_)
    cases phase : world.primary.phase <;> simp [phase, Phase.isWaiting] at waiting
    all_goals simp [Lane.allowed, lane, phase, Phase.isLive]
  | abort reason =>
    cases side <;> simp [step?] at step
    subst step
    exact .inr (.inr allowed)
  | report | receive => cases step
  | closeNext =>
    obtain ⟨touch, -, touched⟩ := Option.bind_eq_some_iff.mp step
    exact (touchOn_closes touched).imp_right .inl

theorem step_follows (allowed : world.allowed move = true)
    (step : world.step? side move = some action) :
    (world.lane side).Follows action ((world.apply move).lane side).phase := by
  rw [apply_lane allowed, step]
  rcases step_allowed allowed step with rfl | rfl | own
  · exact .publishClose
  · exact .signalClose
  · exact Lane.apply_follows own

theorem step_source (step : world.step? side move = some action) : match action with
    | .bind outcome => move = .start side ∧ outcome = (world.startup side).outcome
    | .publish => move = .publish side
    | .stop failure => move = .stop side failure
    | .finish => move = .finish side
    | _ => True := by
  cases move with
  | launch what =>
    have launched : action = .launch := by
      cases what <;> cases side <;> simp_all [step?]
    subst launched
    trivial
  | touch touch => rcases touchOn_closes step with rfl | rfl <;> trivial
  | start own | publish own | stop own failure | finish own =>
    by_cases same : own = side
    · subst same
      simp only [step?, if_true, Option.some.injEq] at step
      subst step
      simp
    · simp [step?, same] at step
  | observe =>
    have dropped : action = .drop := by cases side <;> simp_all [step?]
    subst dropped
    trivial
  | abort reason =>
    have aborted : action = .abort reason := by cases side <;> simp_all [step?]
    subst aborted
    trivial
  | report | receive => cases step
  | closeNext =>
    obtain ⟨touch, -, touched⟩ := Option.bind_eq_some_iff.mp step
    rcases touchOn_closes touched with rfl | rfl <;> trivial

theorem phase_cases (allowed : world.allowed move = true) (side : Side) :
    ((world.apply move).lane side).phase = (world.lane side).phase ∨
      ∃ action, world.step? side move = some action ∧
        (world.lane side).Follows action ((world.apply move).lane side).phase := by
  cases step : world.step? side move with
  | none =>
    have same : (world.apply move).lane side = world.lane side := by
      rw [apply_lane allowed, step]
      rfl
    exact .inl (congrArg Lane.phase same)
  | some action => exact .inr ⟨action, rfl, step_follows allowed step⟩

theorem apply_stage (allowed : world.allowed move = true) (side : Side) :
    (world.lane side).phase.stage ≤ ((world.apply move).lane side).phase.stage := by
  rcases phase_cases allowed side with same | ⟨action, -, follows⟩
  · exact Nat.le_of_eq (congrArg Phase.stage same.symm)
  · exact follows.stage_le

theorem run_stage (ran : world.run moves = some last) (side : Side) :
    (world.lane side).phase.stage ≤ (last.lane side).phase.stage :=
  run_preserves (fun later => (world.lane side).phase.stage ≤ (later.lane side).phase.stage)
    (fun _ _ _ below allowed => Nat.le_trans below (apply_stage allowed side)) (Nat.le_refl _) ran

theorem apply_over (allowed : world.allowed move = true)
    (spent : (world.lane side).phase.stage = 5) :
    ((world.apply move).lane side).phase = (world.lane side).phase := by
  rcases phase_cases allowed side with same | ⟨action, -, follows⟩
  · exact same
  · exact follows.spent spent

theorem run_over (spent : (world.lane side).phase.stage = 5) (ran : world.run moves = some last) :
    (last.lane side).phase = (world.lane side).phase :=
  run_preserves (fun later => (later.lane side).phase = (world.lane side).phase)
    (fun _ _ _ same allowed => (apply_over allowed (by rw [same]; exact spent)).trans same) rfl ran

theorem apply_listener (allowed : world.allowed move = true)
    (bound : (world.lane side).phase.listener? = some listener) :
    ((world.apply move).lane side).phase.listener? = some listener := by
  rcases phase_cases allowed side with same | ⟨action, -, follows⟩
  · rw [same]
    exact bound
  · exact follows.listener_kept bound

theorem run_listener (bound : (world.lane side).phase.listener? = some listener)
    (ran : world.run moves = some last) : (last.lane side).phase.listener? = some listener :=
  run_preserves (fun later => (later.lane side).phase.listener? = some listener)
    (fun _ _ _ holds allowed => apply_listener allowed holds) bound ran

-- What a run loses on the way is lost at one move of it.
theorem run_leaves (property : World → Prop) (holds : property world) (lost : ¬property last)
    (ran : world.run moves = some last) : ∃ before move after middle,
      moves = before ++ move :: after ∧ world.run before = some middle ∧ property middle ∧
        middle.allowed move = true ∧ ¬property (middle.apply move) ∧
        (middle.apply move).run after = some last := by
  induction moves generalizing world with
  | nil =>
    cases ran
    exact absurd holds lost
  | cons move rest ih =>
    obtain ⟨next, step, ran⟩ := run_cons.mp ran
    obtain ⟨allowed, rfl⟩ := execute_exact.mp step
    by_cases still : property (world.apply move)
    · obtain ⟨before, turn, after, middle, rfl, reach, found⟩ := ih still ran
      exact ⟨move :: before, turn, after, middle, rfl, run_cons.mpr ⟨_, step, reach⟩, found⟩
    · exact ⟨[], move, rest, world, rfl, rfl, holds, allowed, still, ran⟩

end World

end WebListener.Lifecycle
