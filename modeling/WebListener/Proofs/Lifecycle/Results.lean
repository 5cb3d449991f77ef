import WebListener.Command.Run
import WebListener.Proofs.Lifecycle.Moves
-- What the call that serves both listeners returns, in whatever order they, their closers and the
-- signal task take their steps: what the primary listener came to, or the redirector's failure if
-- that was seen first, and never a mixture.
namespace WebListener.Lifecycle

open Config (Options)
open Kernel (FileTree IoError)
open Net (Network)

namespace Phase

variable {phase before after : Phase} {side : Side}

def isOwn : Phase → Bool
  | .absent | .dropped _ => false
  | _ => true

theorem Moves.own (step : Moves side before after) : after.isOwn = true := by
  cases step <;> rfl

theorem ended_own (ended : endingOf side phase = some ending) : phase.isOwn = true := by
  cases phase with
  | absent | dropped => cases side <;> cases ended
  | ready | refused | bound | serving | stopped | exited | aborted => rfl

theorem ended_over (ended : endingOf side phase = some ending) : phase.isLive = false := by
  cases live : phase.isLive with
  | false => rfl
  | true =>
    rw [live_ending live] at ended
    cases ended

theorem Moves.unended (step : Moves .primary before after)
    (unended : endingOf .primary after = none) : after.isLive = true := by
  cases step with
  | refuse | exit => cases unended
  | bind | serve | stop => rfl

def Sound (side : Side) (phase : Phase) : Prop :=
  ∀ error, phase = .refused error → side.Refuses error

theorem Moves.sound (step : Moves side before after) : Sound side after := by
  cases step with
  | refuse reason => rintro _ ⟨⟩; exact reason
  | bind | serve | stop | exit => rintro _ ⟨⟩

end Phase

theorem redirector_error (sound : Phase.Sound .redirector phase)
    (ended : endingOf .redirector phase = some (.error error)) :
    error.IsBind ∨ ∃ cause, error = .serve cause := by
  cases phase with
  | refused own => cases ended; exact .inl (sound error rfl)
  | exited listener exit =>
    cases exit with
    | closed => cases ended
    | failed cause => cases ended; exact .inr ⟨cause, rfl⟩
  | absent | ready | bound | serving | stopped | dropped | aborted => cases ended

theorem primary_error (sound : Phase.Sound .primary phase)
    (ended : endingOf .primary phase = some (.error error)) : error.IsRefusal := by
  cases phase with
  | refused own => cases ended; exact sound error rfl
  | absent | ready | bound | serving | stopped | exited | dropped | aborted => cases ended

namespace World

variable {options : Options} {files : FileTree} {network : Network}
variable {world next last : World} {move : Move} {moves : List Move}

structure Sound (world : World) : Prop where
  primary : world.primary.phase.Sound .primary
  redirector : world.redirector.phase.Sound .redirector

theorem initial_sound : Sound (initial options files network) := by
  constructor <;> rintro _ ⟨⟩

theorem launch_sound (sound : Sound world) (what : Launch) : Sound (world.launch what) := by
  obtain ⟨primary, redirector⟩ := sound
  have launched : ∀ side, Phase.Sound side .ready := by
    rintro side error ⟨⟩
  cases what with
  | primary => exact ⟨launched _, redirector⟩
  | redirector => exact ⟨primary, launched _⟩
  | listenAndServe =>
    cases enabled : world.options.redirectHttpToHttps with
    | true => rw [launch_enabled enabled]; exact ⟨launched _, launched _⟩
    | false => rw [launch_disabled enabled]; exact ⟨launched _, redirector⟩

theorem redirector_over (gone : world.redirector.phase.isLive = false)
    (own : world.redirector.phase.isOwn = true) :
    (∃ held reason, world.redirector.phase = .aborted held reason) ∨
      (∃ error, endingOf .redirector world.redirector.phase = some (.error error)) ∨
      endingOf .redirector world.redirector.phase = some (.ok .closed) := by
  cases phase : world.redirector.phase with
  | ready | bound | serving | stopped => rw [phase] at gone; cases gone
  | absent | dropped => rw [phase] at own; cases own
  | refused error => exact .inr (.inl ⟨error, rfl⟩)
  | exited listener exit =>
    cases exit with
    | closed => exact .inr (.inr rfl)
    | failed cause => exact .inr (.inl ⟨_, rfl⟩)
  | aborted held reason => exact .inl ⟨held, reason, rfl⟩

theorem observe_aborted (fate : world.redirector.phase = .aborted held reason) :
    world.observe =
      { world.act .primary .drop with call := .returned (.error (.redirectorTask reason)) } := by
  simp [observe, fate]

theorem observe_failed (ended : endingOf .redirector world.redirector.phase = some (.error error)) :
    world.observe =
      { world.act .primary .drop with call := .returned (.error (.redirector error)) } := by
  unfold observe
  rw [ended]
  cases phase : world.redirector.phase with
  | aborted held reason => rw [phase] at ended; cases ended
  | _ => rfl

theorem observe_closed (closed : endingOf .redirector world.redirector.phase = some (.ok .closed)) :
    world.observe = { world with call := .primaryOnly } := by
  unfold observe
  rw [closed]
  cases phase : world.redirector.phase with
  | aborted held reason => rw [phase] at closed; cases closed
  | _ => rfl

theorem observe_redirector (world : World) : world.observe.redirector = world.redirector := by
  unfold observe
  dsimp only
  split <;> rfl

theorem apply_sound (sound : Sound world) (allowed : world.allowed move = true) :
    Sound (world.apply move) := by
  cases apply_advance allowed with
  | aside primary redirector call =>
    exact ⟨by rw [primary]; exact sound.primary, by rw [redirector]; exact sound.redirector⟩
  | launched what asked same => rw [same]; exact launch_sound sound what
  | primary waiting step other call =>
    exact ⟨step.sound, by rw [other]; exact sound.redirector⟩
  | redirector step other call => exact ⟨by rw [other]; exact sound.primary, step.sound⟩
  | aborted live fate other call =>
    exact ⟨by rw [other]; exact sound.primary, by rw [fate]; rintro _ ⟨⟩⟩
  | observed both waiting gone same =>
    rw [same]
    refine ⟨?_, by rw [observe_redirector]; exact sound.redirector⟩
    unfold observe
    dsimp only
    split
    · rintro _ ⟨⟩
    · rintro _ ⟨⟩
    · exact sound.primary

-- Where a call that serves both listeners stands.
inductive Joint (world : World) : Prop where
  | both (call : world.call = .both) (live : world.primary.phase.isLive = true)
      (beside : world.redirector.phase.isOwn = true)
  | alone (call : world.call = .primaryOnly) (live : world.primary.phase.isLive = true)
      (closed : endingOf .redirector world.redirector.phase = some (.ok .closed))
  | settled (call : world.call = .returned ending)
      (ended : endingOf .primary world.primary.phase = some ending)
      (beside : world.redirector.phase.isOwn = true)
  | failed (call : world.call = .returned (.error (.redirector error)))
      (gone : world.primary.phase = .dropped listener)
      (ended : endingOf .redirector world.redirector.phase = some (.error error))
  | aborted (call : world.call = .returned (.error (.redirectorTask reason)))
      (gone : world.primary.phase = .dropped listener)
      (fate : world.redirector.phase = .aborted held reason)

namespace Joint

theorem beside (joint : Joint world) : world.redirector.phase.isOwn = true := by
  cases joint with
  | both call live beside => exact beside
  | alone call live closed => exact Phase.ended_own closed
  | settled call ended beside => exact beside
  | failed call gone ended => exact Phase.ended_own ended
  | aborted call gone fate => rw [fate]; rfl

theorem launched (joint : Joint world) : world.primary.phase ≠ .absent := by
  intro absent
  cases joint with
  | both call live | alone call live => rw [absent] at live; cases live
  | settled call ended => rw [absent] at ended; cases ended
  | failed call gone | aborted call gone => rw [absent] at gone; cases gone

theorem redirector_step (joint : Joint world) (live : world.redirector.phase.isLive = true)
    (own : next.redirector.phase.isOwn = true) (other : next.primary.phase = world.primary.phase)
    (call : next.call = world.call) : Joint next := by
  cases joint with
  | both before serving =>
    exact .both (call.trans before) (by rw [other]; exact serving) own
  | settled before ended =>
    exact .settled (call.trans before) (by rw [other]; exact ended) own
  | alone before serving closed => rw [Phase.ended_over closed] at live; cases live
  | failed before gone ended => rw [Phase.ended_over ended] at live; cases live
  | aborted before gone fate => rw [fate] at live; cases live

theorem primary_step (joint : Joint world) (waiting : world.call.isWaiting = true)
    (step : Phase.Moves .primary world.primary.phase next.primary.phase)
    (other : next.redirector.phase = world.redirector.phase)
    (call : next.call = match endingOf .primary next.primary.phase with
      | some ending => .returned ending
      | none => world.call) : Joint next := by
  have beside : next.redirector.phase.isOwn = true := by
    rw [other]
    exact joint.beside
  cases ended : endingOf .primary next.primary.phase with
  | some ending =>
    rw [ended] at call
    exact .settled call ended beside
  | none =>
    rw [ended] at call
    have live := step.unended ended
    cases joint with
    | both before => exact .both (call.trans before) live beside
    | alone before serving closed => exact .alone (call.trans before) live (by rw [other]; exact closed)
    | settled before | failed before | aborted before => rw [before] at waiting; cases waiting

theorem observed (joint : Joint world) (both : world.call = .both)
    (gone : world.redirector.phase.isLive = false) : Joint world.observe := by
  have live : world.primary.phase.isLive = true := by
    cases joint with
    | both call live => exact live
    | alone call | settled call | failed call | aborted call => rw [both] at call; cases call
  obtain ⟨held, reason, fate⟩ | ⟨error, ended⟩ | closed := redirector_over gone joint.beside
  · rw [observe_aborted fate]
    exact .aborted rfl rfl fate
  · rw [observe_failed ended]
    exact .failed rfl rfl ended
  · rw [observe_closed closed]
    exact .alone rfl live closed

theorem launch_refused (joint : Joint world) (what : Launch) :
    world.allowed (.launch what) = false := by
  have primary := joint.launched
  have redirector : world.redirector.phase ≠ .absent := by
    intro absent
    have own := joint.beside
    rw [absent] at own
    cases own
  cases what <;> simp [World.allowed, Lane.allowed, primary, redirector]

theorem preserved (joint : Joint world) (allowed : world.allowed move = true) :
    Joint (world.apply move) := by
  cases apply_advance allowed with
  | aside primary redirector call =>
    cases joint with
    | both before live beside =>
      exact .both (call.trans before) (by rw [primary]; exact live) (by rw [redirector]; exact beside)
    | alone before live closed =>
      exact .alone (call.trans before) (by rw [primary]; exact live)
        (by rw [redirector]; exact closed)
    | settled before ended beside =>
      exact .settled (call.trans before) (by rw [primary]; exact ended)
        (by rw [redirector]; exact beside)
    | failed before gone ended =>
      exact .failed (call.trans before) (primary.trans gone) (by rw [redirector]; exact ended)
    | aborted before gone fate =>
      exact .aborted (call.trans before) (primary.trans gone) (redirector.trans fate)
  | launched what asked same =>
    rw [asked, joint.launch_refused what] at allowed
    cases allowed
  | primary waiting step other call => exact joint.primary_step waiting step other call
  | redirector step other call => exact joint.redirector_step step.live step.own other call
  | aborted live fate other call => exact joint.redirector_step live (by rw [fate]; rfl) other call
  | observed both waiting gone same =>
    rw [same]
    exact joint.observed both gone

end Joint

inductive Alone (world : World) : Prop where
  | waiting (call : world.call = .primaryOnly) (live : world.primary.phase.isLive = true)
  | settled (call : world.call = .returned ending)
      (ended : endingOf .primary world.primary.phase = some ending)

namespace Alone

theorem launched (alone : Alone world) : world.primary.phase ≠ .absent := by
  intro absent
  cases alone with
  | waiting call live => rw [absent] at live; cases live
  | settled call ended => rw [absent] at ended; cases ended

theorem unmoved (alone : Alone world) (primary : next.primary.phase = world.primary.phase)
    (call : next.call = world.call) : Alone next := by
  cases alone with
  | waiting before live => exact .waiting (call.trans before) (by rw [primary]; exact live)
  | settled before ended => exact .settled (call.trans before) (by rw [primary]; exact ended)

theorem preserved (alone : Alone world) (allowed : world.allowed move = true) :
    Alone (world.apply move) := by
  cases apply_advance allowed with
  | aside primary redirector call => exact alone.unmoved primary call
  | launched what asked same =>
    subst asked
    cases what with
    | redirector => exact alone.unmoved rfl rfl
    | primary | listenAndServe => simp [World.allowed, Lane.allowed, alone.launched] at allowed
  | redirector step other call => exact alone.unmoved other call
  | aborted live fate other call => exact alone.unmoved other call
  | primary waiting step other call =>
    cases ended : endingOf .primary (world.apply move).primary.phase with
    | some ending =>
      rw [ended] at call
      exact .settled call ended
    | none =>
      rw [ended] at call
      cases alone with
      | waiting before => exact .waiting (call.trans before) (step.unended ended)
      | settled before => rw [before] at waiting; cases waiting
  | observed both waiting gone same =>
    cases alone with
    | waiting call | settled call => rw [both] at call; cases call

end Alone

theorem result_exact : world.result? = some ending ↔ world.call = .returned ending := by
  unfold result?
  split <;> simp_all

theorem launch_joint (enabled : world.options.redirectHttpToHttps = true) :
    Joint (world.launch .listenAndServe) := by
  rw [launch_enabled enabled]
  exact .both rfl rfl rfl

theorem launch_alone (world : World) : Alone (world.launch .primary) := .waiting rfl rfl

theorem Joint.returned (joint : Joint world) (before : world.call = .returned ending)
    (allowed : world.allowed move = true) : (world.apply move).call = .returned ending := by
  cases apply_advance allowed with
  | aside primary redirector call | redirector step other call | aborted live fate other call =>
    exact call.trans before
  | launched what asked =>
    rw [asked, joint.launch_refused what] at allowed
    cases allowed
  | primary waiting => rw [before] at waiting; cases waiting
  | observed both => rw [before] at both; cases both

theorem Joint.result_final (joint : Joint world) (returned : world.result? = some ending)
    (ran : world.run moves = some last) : last.result? = some ending := by
  have kept := run_preserves
    (fun later => Joint later ∧ later.call = .returned ending)
    (fun later move _ holds allowed =>
      ⟨holds.1.preserved allowed, holds.1.returned holds.2 allowed⟩)
    ⟨joint, result_exact.mp returned⟩ ran
  exact result_exact.mpr kept.2

theorem absent_preserved (disabled : world.options.redirectHttpToHttps = false)
    (absent : world.redirector.phase = .absent) (other : move ≠ .launch .redirector)
    (allowed : world.allowed move = true) : (world.apply move).redirector.phase = .absent := by
  cases apply_advance allowed with
  | aside primary redirector call => exact redirector.trans absent
  | launched what asked same =>
    cases what with
    | primary => rw [same]; exact absent
    | listenAndServe => rw [same, launch_disabled disabled]; exact absent
    | redirector => exact absurd asked other
  | primary waiting step other call => exact other.trans absent
  | redirector step => rw [absent] at step; cases step
  | aborted live => rw [absent] at live; cases live
  | observed both waiting gone same =>
    rw [same, observe_redirector]
    exact absent

theorem run_absent (disabled : world.options.redirectHttpToHttps = false)
    (absent : world.redirector.phase = .absent) (other : .launch .redirector ∉ moves)
    (ran : world.run moves = some last) : last.redirector.phase = .absent := by
  have kept := run_preserves
    (fun later => later.options = world.options ∧ later.redirector.phase = .absent)
    (fun later move present holds allowed =>
      ⟨(apply_options later move).trans holds.1,
        absent_preserved (by rw [holds.1]; exact disabled) holds.2
          (fun same => other (same ▸ present)) allowed⟩)
    ⟨rfl, absent⟩ ran
  exact kept.2

theorem run_sound (sound : Sound world) (ran : world.run moves = some last) : Sound last :=
  run_preserves Sound (fun _ _ _ holds allowed => apply_sound holds allowed) sound ran

theorem run_joint (joint : Joint world) (ran : world.run moves = some last) : Joint last :=
  run_preserves Joint (fun _ _ _ holds allowed => holds.preserved allowed) joint ran

theorem run_alone (alone : Alone world) (ran : world.run moves = some last) : Alone last :=
  run_preserves Alone (fun _ _ _ holds allowed => holds.preserved allowed) alone ran

theorem Alone.result (alone : Alone world) :
    world.result? = endingOf .primary world.primary.phase := by
  cases alone with
  | waiting call live => rw [Phase.live_ending live, result?, call]
  | settled call ended => rw [ended, result?, call]

-- What the call that serves both listeners owes its caller, wherever the two stand.
structure Faithful (world : World) : Prop where
  -- It waits for the primary listener, and for nothing else.
  pending : world.result? = none ↔ world.primary.phase.isLive = true
  final : ∀ ending moves last, world.result? = some ending → world.run moves = some last →
    last.result? = some ending
  redirector : ∀ error, world.result? = some (.error (.redirector error)) →
    endingOf .redirector world.redirector.phase = some (.error error) ∧
      (error.IsBind ∨ ∃ cause, error = .serve cause)
  task : ∀ reason, world.result? = some (.error (.redirectorTask reason)) →
    ∃ held, world.redirector.phase = .aborted held reason
  other : ∀ ending, world.result? = some ending →
    (∀ error, ending ≠ .error (.redirector error)) →
    (∀ reason, ending ≠ .error (.redirectorTask reason)) →
    endingOf .primary world.primary.phase = some ending
  own : ∀ ending, endingOf .primary world.primary.phase = some ending →
    world.result? = some ending
  closed : ∀ exit, endingOf .redirector world.redirector.phase = some (.ok exit) →
    world.result? = endingOf .primary world.primary.phase
  -- What the caller sees of a redirector that failed while the primary listener is at rest.
  failed : ∀ error, endingOf .redirector world.redirector.phase = some (.error error) →
    world.result? = none → world.primary.phase.isWaiting = true →
    ∃ next, world.execute .observe = some next ∧
      next.result? = some (.error (.redirector error)) ∧
      next.primary.phase = .dropped world.primary.phase.listener?
  aborted : ∀ held reason, world.redirector.phase = .aborted held reason →
    world.result? = none → world.primary.phase.isWaiting = true →
    ∃ next, world.execute .observe = some next ∧
      next.result? = some (.error (.redirectorTask reason)) ∧
      next.primary.phase = .dropped world.primary.phase.listener?

namespace Joint

variable {error : ListenerError} {ending : Ending}

theorem pending (joint : Joint world) :
    world.result? = none ↔ world.primary.phase.isLive = true := by
  cases joint with
  | both call live | alone call live => simp [result?, call, live]
  | settled call ended => simp [result?, call, Phase.ended_over ended]
  | failed call gone | aborted call gone => simp [result?, call, gone, Phase.isLive]

theorem own (joint : Joint world) (ended : endingOf .primary world.primary.phase = some ending) :
    world.result? = some ending := by
  cases joint with
  | both call live | alone call live => rw [Phase.live_ending live] at ended; cases ended
  | settled call same =>
    rw [same] at ended
    cases ended
    exact result_exact.mpr call
  | failed call gone | aborted call gone => rw [gone] at ended; cases ended

theorem observable (joint : Joint world) (gone : world.redirector.phase.isLive = false)
    (failing : endingOf .redirector world.redirector.phase ≠ some (.ok .closed))
    (pending : world.result? = none) (waiting : world.primary.phase.isWaiting = true) :
    world.execute .observe = some world.observe := by
  refine execute_exact.mpr ⟨?_, rfl⟩
  cases joint with
  | both call => simp [World.allowed, call, waiting, gone]
  | alone call live closed => exact absurd closed failing
  | settled call | failed call | aborted call => simp [result?, call] at pending

theorem faithful (joint : Joint world) (sound : Sound world) : Faithful world where
  pending := joint.pending
  final := fun ending moves last returned ran => joint.result_final returned ran
  own := fun ending ended => joint.own ended
  redirector := by
    intro error returned
    have call := result_exact.mp returned
    cases joint with
    | both before | alone before => rw [before] at call; cases call
    | settled before ended =>
      rw [before] at call
      cases call
      exact absurd (primary_error sound.primary ended) id
    | failed before gone ended =>
      rw [before] at call
      cases call
      exact ⟨ended, redirector_error sound.redirector ended⟩
    | aborted before => rw [before] at call; cases call
  task := by
    intro reason returned
    have call := result_exact.mp returned
    cases joint with
    | both before | alone before | failed before => rw [before] at call; cases call
    | settled before ended =>
      rw [before] at call
      cases call
      exact absurd (primary_error sound.primary ended) id
    | aborted before gone fate =>
      rw [before] at call
      cases call
      exact ⟨_, fate⟩
  other := by
    intro ending returned notFailure notAbort
    have call := result_exact.mp returned
    cases joint with
    | both before | alone before => rw [before] at call; cases call
    | settled before ended =>
      rw [before] at call
      cases call
      exact ended
    | failed before => rw [before] at call; cases call; exact absurd rfl (notFailure _)
    | aborted before => rw [before] at call; cases call; exact absurd rfl (notAbort _)
  closed := by
    intro exit ended
    cases joint with
    | both call live | alone call live => rw [Phase.live_ending live, result?, call]
    | settled call own => rw [own, result?, call]
    | failed call gone failed => rw [ended] at failed; cases failed
    | aborted call gone fate => rw [fate] at ended; cases ended
  failed := by
    intro error ended pending waiting
    have seen := joint.observable (Phase.ended_over ended) (by simp [ended]) pending waiting
    rw [observe_failed ended] at seen
    exact ⟨_, seen, rfl, rfl⟩
  aborted := by
    intro held reason fate pending waiting
    have seen := joint.observable (by rw [fate]; rfl) (by simp [fate, endingOf]) pending waiting
    rw [observe_aborted fate] at seen
    exact ⟨_, seen, rfl, rfl⟩

end Joint

end World

end WebListener.Lifecycle

namespace WebListener.Command

open Config (Options)
open Kernel (FileTree)
open Lifecycle (Ending Signal World)
open Net (Network)

theorem ofEnding_failure_iff {ending : Option Ending} :
    ending.map ExitCode.ofEnding = some .failure ↔ ∃ error, ending = some (.error error) := by
  rcases ending with _ | error | exit <;> simp [ExitCode.ofEnding]

theorem ofEnding_success_iff {ending : Option Ending} :
    ending.map ExitCode.ofEnding = some .success ↔ ∃ exit, ending = some (.ok exit) := by
  rcases ending with _ | error | exit <;> simp [ExitCode.ofEnding]

-- The program's own order of moves is one of the runs.
theorem serve_runs (options : Options) (files : FileTree) (network : Network)
    (signal : Option Signal) : ∃ moves,
      (World.initial options files network).run (.launch .listenAndServe :: moves) =
        some (serve options files network signal) := by
  have launched : (World.initial options files network).execute (.launch .listenAndServe) =
      some ((World.initial options files network).attempt (.launch .listenAndServe)) := by
    simp [World.attempt, World.execute, World.allowed, World.initial, Lifecycle.Lane.allowed,
      Lifecycle.Lane.initial]
  have settled := World.Leads.settle
    ((World.initial options files network).attempt (.launch .listenAndServe))
  have leads : World.Leads ((World.initial options files network).attempt (.launch .listenAndServe))
      (serve options files network signal) := by
    unfold serve
    dsimp only
    split
    · exact settled.trans (World.Leads.interrupt _ _)
    · exact settled
  obtain ⟨moves, ran⟩ := leads
  exact ⟨moves, World.run_cons.mpr ⟨_, launched, ran⟩⟩

variable {invocation : Invocation} {arguments : Arguments} {signal : Option Signal}

theorem run_code (asked : Request.ofWords invocation.words = .ok (.run arguments)) :
    (run invocation signal).code = match Config.load invocation.files (configPath arguments) with
      | .error _ => some .failure
      | .ok configuration =>
        (serve configuration.server invocation.files invocation.network signal).result?.map
          .ofEnding := by
  unfold run
  rw [asked]
  unfold runWith
  dsimp only
  split <;> simp_all [served]

theorem run_failure_iff (asked : Request.ofWords invocation.words = .ok (.run arguments)) :
    (run invocation signal).code = some .failure ↔
      (∃ fault, Config.load invocation.files (configPath arguments) = .error fault) ∨
      ∃ configuration error,
        Config.load invocation.files (configPath arguments) = .ok configuration ∧
        (serve configuration.server invocation.files invocation.network signal).result? =
          some (.error error) := by
  rw [run_code asked]
  split
  · rename_i fault refused
    simp [refused]
  · rename_i configuration loaded
    rw [ofEnding_failure_iff]
    constructor
    · rintro ⟨error, returned⟩
      exact .inr ⟨configuration, error, loaded, returned⟩
    · rintro (⟨fault, refused⟩ | ⟨own, error, same, returned⟩)
      · rw [loaded] at refused
        cases refused
      · rw [loaded] at same
        cases same
        exact ⟨error, returned⟩

end WebListener.Command

namespace WebListener.Lifecycle

open Command (ExitCode Request configPath)
open Config (Options)
open Kernel (FileTree)
open Net (Network)

-- Whatever happened before both listeners were launched, and in whatever order they go on: the
-- call loses no outcome, invents none and mixes none up, and the program fails only over it.
theorem listen_and_serve_outcome {options : Options} {files : FileTree} {network : Network}
    (ran : (World.initial options files network).run
      (before ++ .launch .listenAndServe :: after) = some world) :
    (options.redirectHttpToHttps = false →
      world.result? = endingOf .primary world.primary.phase ∧
      (World.initial options files network).run (before ++ .launch .primary :: after) =
        some world ∧
      (.launch .redirector ∉ before ++ after → world.redirector.phase = .absent)) ∧
    (options.redirectHttpToHttps = true → World.Faithful world) ∧
    (world.result?.map ExitCode.ofEnding = some .failure ↔
      ∃ error, world.result? = some (.error error)) ∧
    (world.result?.map ExitCode.ofEnding = some .success ↔
      ∃ exit, world.result? = some (.ok exit)) ∧
    (∀ invocation signal arguments, Request.ofWords invocation.words = .ok (.run arguments) →
      ((Command.run invocation signal).code = some .failure ↔
        (∃ fault, Config.load invocation.files (configPath arguments) = .error fault) ∨
        ∃ configuration error,
          Config.load invocation.files (configPath arguments) = .ok configuration ∧
          (Command.serve configuration.server invocation.files invocation.network
            signal).result? = some (.error error))) ∧
    ∀ options files network signal, ∃ moves,
      (World.initial options files network).run (.launch .listenAndServe :: moves) =
        some (Command.serve options files network signal) := by
  obtain ⟨middle, next, reach, step, rest⟩ := World.run_split.mp ran
  obtain ⟨allowed, rfl⟩ := World.execute_exact.mp step
  have same := World.run_options reach
  refine ⟨?_, ?_, Command.ofEnding_failure_iff, Command.ofEnding_success_iff,
    fun _ _ _ asked => Command.run_failure_iff asked, Command.serve_runs⟩
  · intro disabled
    have off : middle.options.redirectHttpToHttps = false := by
      rw [same]
      exact disabled
    have launch : middle.apply (.launch .listenAndServe) = middle.apply (.launch .primary) :=
      World.launch_disabled off
    rw [launch] at rest
    refine ⟨(World.run_alone (World.launch_alone middle) rest).result, ?_, ?_⟩
    · have allowedAlone : middle.allowed (.launch .primary) = true := by
        simpa [World.allowed, off] using allowed
      exact World.run_split.mpr
        ⟨middle, _, reach, World.execute_exact.mpr ⟨allowedAlone, rfl⟩, rest⟩
    · intro unasked
      have absent := World.run_absent disabled rfl
        (fun present => unasked (List.mem_append_left _ present)) reach
      have launched : (middle.apply (.launch .primary)).redirector.phase = .absent := absent
      have still : (middle.apply (.launch .primary)).options.redirectHttpToHttps = false := off
      exact World.run_absent still launched
        (fun present => unasked (List.mem_append_right _ present)) rest
  · intro enabled
    have on : middle.options.redirectHttpToHttps = true := by
      rw [same]
      exact enabled
    have joint := World.run_joint (World.launch_joint on) rest
    exact joint.faithful (World.run_sound World.initial_sound ran)

def redirecting : Options := { Options.standard with redirectHttpToHttps := true }

def lowPortsDenied : Network :=
  { Network.isolated with
    refusal := fun _ address =>
      if address.port < 1024 then some (.os Kernel.Errno.permissionDenied) else none }

theorem refused_redirector_ends_call : ∃ world,
    (World.initial redirecting .empty lowPortsDenied).run
      ([.touch (.publish .redirector)] ++ .launch .listenAndServe ::
        [.start .primary, .publish .primary, .start .redirector, .observe]) = some world ∧
      world.result? = some (.error (.redirector
        (.bind "tcp" ":80" (.os Kernel.Errno.permissionDenied)))) ∧
      endingOf .redirector world.redirector.phase =
        some (.error (.bind "tcp" ":80" (.os Kernel.Errno.permissionDenied))) := by
  obtain ⟨world, ran, returned⟩ : ∃ world,
      (World.initial redirecting .empty lowPortsDenied).run
        ([.touch (.publish .redirector)] ++ .launch .listenAndServe ::
          [.start .primary, .publish .primary, .start .redirector, .observe]) = some world ∧
        world.result? = some (.error (.redirector
          (.bind "tcp" ":80" (.os Kernel.Errno.permissionDenied)))) := ⟨_, rfl, rfl⟩
  have faithful := (listen_and_serve_outcome ran).2.1 rfl
  exact ⟨world, ran, returned, (faithful.redirector _ returned).1⟩

end WebListener.Lifecycle
