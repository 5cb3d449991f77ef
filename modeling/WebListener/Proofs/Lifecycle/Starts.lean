import WebListener.Proofs.Lifecycle.Lanes
-- What becomes of the files: the redirector touches none, the primary listener only when it starts
-- and when it is over, and a local socket that cannot be bound leaves them as they were.
namespace WebListener.Lifecycle

open Config (Options)
open Kernel (FileTree Path)

namespace Startup

variable {options : Options} {world : Environment} {listener : Bound} {path : Path}

def socketPath? (options : Options) : Option Path :=
  match options.listenMode with
  | .https => none
  | .http =>
    match ListenerError.parseAddress options.httpAddress with
    | .error _ => none
    | .ok address =>
      match ListenerError.transportOf address with
      | .ok (.unix path) => some path
      | _ => none

theorem primary_socket (chosen : socketPath? options = some path) (world : Environment) :
    primary options world = unix world path := by
  unfold socketPath? at chosen
  unfold primary http
  cases mode : options.listenMode with
  | https => simp [mode] at chosen
  | http =>
    cases parsed : ListenerError.parseAddress options.httpAddress with
    | error cause => simp [mode, parsed] at chosen
    | ok address =>
      cases transport : ListenerError.transportOf address with
      | error cause => simp [mode, parsed, transport] at chosen
      | ok way =>
        cases way with
        | tcp family => simp [mode, parsed, transport] at chosen
        | unix other => simp_all

theorem bindTcp_files : (bindTcp world label address family listening).files = world.files := by
  unfold bindTcp
  split <;> rfl

theorem redirector_files : (redirector options world).files = world.files := by
  unfold redirector
  exact bindTcp_files

theorem unix_refused (refused : (unix world path).outcome = .error error) :
    (∃ cause, error = .bind "unix" path cause) ∧ (unix world path).files = world.files := by
  unfold unix at refused ⊢
  split at refused
  · cases refused
    exact ⟨⟨_, rfl⟩, rfl⟩
  · cases refused

theorem unix_bound (bound : (unix world path).outcome = .ok listener) :
    listener = ⟨httpLabel, .unix path⟩ ∧
      world.files.bindSocket path = .ok (unix world path).files := by
  unfold unix at bound ⊢
  split at bound
  · cases bound
  · rename_i files granted
    cases bound
    exact ⟨rfl, by rw [granted]⟩

end Startup

namespace World

variable {world next last : World} {move : Move} {moves : List Move}

@[simp] theorem act_files (world : World) (side : Side) (action : Lane.Action) :
    (world.act side action).files = world.files := by
  cases side <;> rfl

theorem settleCall_files (world : World) : world.settleCall.files = world.files := by
  unfold settleCall
  split <;> rfl

-- Only the primary listener touches files, when it starts and when it is over.
theorem apply_files (notStart : move ≠ .start .primary) (notFinish : move ≠ .finish .primary) :
    (world.apply move).files = world.files := by
  cases move with
  | launch what =>
    cases what with
    | primary | redirector => rfl
    | listenAndServe =>
      cases enabled : world.options.redirectHttpToHttps with
      | true => rw [apply, launch_enabled enabled]; rfl
      | false => rw [apply, launch_disabled enabled]; rfl
  | touch touch => exact act_files _ _ _
  | start side =>
    cases side with
    | primary => exact absurd rfl notStart
    | redirector =>
      have same : (world.startup .redirector).files = world.files := by
        simp only [startup, Startup.redirector_files, environment]
        split <;> rfl
      simpa [apply, start, tell] using same
  | publish side | stop side failure => exact act_files _ _ _
  | finish side =>
    cases side with
    | primary => exact absurd rfl notFinish
    | redirector => simp [apply, finish, tell]
  | report | receive | abort => rfl
  | observe =>
    simp only [apply, observe]
    split <;> rfl
  | closeNext =>
    simp only [apply]
    split
    · exact act_files _ _ _
    · rfl

theorem start_files (world : World) :
    (world.start .primary).files = (world.startup .primary).files := by
  simp only [start, settleCall_files]
  rfl

theorem environment_files (world : World) (side : Side) :
    (world.environment side).files = world.files := by
  unfold environment
  split <;> rfl

theorem run_files_fresh (late : last.primary.phase.stage ≤ 1) (ran : world.run moves = some last) :
    last.files = world.files := by
  refine run_preserves (fun later => later.primary.phase.stage ≤ 1 → later.files = world.files)
    ?_ (fun _ => rfl) ran late
  intro earlier move _ holds allowed fresh
  have before := Nat.le_trans (apply_stage allowed .primary) fresh
  have moved : ∀ action, earlier.step? .primary move = some action →
      (earlier.lane .primary).Follows action (earlier.apply move).primary.phase :=
    fun _ step => step_follows allowed step
  rw [apply_files, holds before]
  · intro same
    subst same
    obtain ⟨outcome, step⟩ : ∃ outcome, earlier.step? .primary (.start .primary) =
        some (.bind outcome) := ⟨_, rfl⟩
    have follows := moved _ step
    generalize (earlier.apply (.start .primary)).primary.phase = phase at follows fresh
    cases follows <;> simp [Phase.stage] at fresh
  · intro same
    subst same
    have follows := moved _ rfl
    generalize (earlier.apply (.finish .primary)).primary.phase = phase at follows fresh
    cases follows
    simp [Phase.stage] at fresh

theorem run_files_over (spent : world.primary.phase.stage = 5) (ran : world.run moves = some last) :
    last.files = world.files := by
  have kept := run_preserves
    (fun later => later.primary.phase.stage = 5 ∧ later.files = world.files) ?_ ⟨spent, rfl⟩ ran
  · exact kept.2
  · intro earlier move _ holds allowed
    have same : ((earlier.apply move).lane .primary).phase = (earlier.lane .primary).phase :=
      apply_over allowed holds.1
    refine ⟨(congrArg Phase.stage same).trans holds.1, ?_⟩
    rw [apply_files, holds.2]
    · intro start
      subst start
      have ready : earlier.primary.phase = .ready := by
        simp only [World.allowed, Bool.and_eq_true, beq_iff_eq] at allowed
        exact allowed.2
      simp [ready, Phase.stage] at holds
    · intro finish
      subst finish
      simp only [World.allowed, Bool.and_eq_true, lane] at allowed
      cases phase : earlier.primary.phase <;> simp [Lane.allowed, phase] at allowed
      simp [phase, Phase.stage] at holds

end World

end WebListener.Lifecycle
