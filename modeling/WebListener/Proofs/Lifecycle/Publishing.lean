import WebListener.Proofs.Lifecycle.Closing
import WebListener.Proofs.Lifecycle.Starts
import WebListener.Proofs.Lifecycle.Results
-- What serving a listener does to its handle, whatever that was used for before: a refused start
-- leaves it alone, and a listener that served was bound first and then made its address known.
namespace WebListener.Lifecycle

open Kernel (FileTree IoError)

theorem State.mark_eq (handle : State) (address : Net.BoundAddress) :
    handle.mark address = if handle = .idle then .listening address else handle := by
  cases handle <;> simp [mark]

namespace World

variable {world next last : World} {move : Move} {moves : List Move} {side : Side}

def closes (world : World) (side : Side) (move : Move) : Bool :=
  (world.step? side move).any Lane.Action.isClose

def closedDuring (side : Side) : World → List Move → Bool
  | _, [] => false
  | world, move :: rest => world.closes side move || closedDuring side (world.apply move) rest

theorem closedDuring_append (reach : world.run before = some middle) :
    closedDuring side world (before ++ after) =
      (closedDuring side world before || closedDuring side middle after) := by
  induction before generalizing world with
  | nil => cases reach; rfl
  | cons move rest ih =>
    obtain ⟨next, step, reach⟩ := run_cons.mp reach
    obtain ⟨-, rfl⟩ := execute_exact.mp step
    rw [List.cons_append, closedDuring, closedDuring, ih reach, Bool.or_assoc]

theorem apply_unpublished (allowed : world.allowed move = true) (other : move ≠ .publish side) :
    ((world.apply move).lane side).handle =
      if world.closes side move then .closed else (world.lane side).handle := by
  rw [apply_lane allowed]
  cases step : world.step? side move with
  | none => simp [closes, step, Lane.after]
  | some action =>
    cases close : action.isClose with
    | true =>
      cases action <;> cases close
      simp [closes, step, Lane.after, Lane.apply, Lane.Action.isClose, State.close]
    | false =>
      have quiet : action ≠ .publish := fun same => other (step_source (same ▸ step))
      simp [closes, step, close, Lane.after, Lane.apply_handle close quiet]

theorem run_unpublished (quiet : .publish side ∉ moves) (ran : world.run moves = some last) :
    (last.lane side).handle =
      if closedDuring side world moves then .closed else (world.lane side).handle := by
  induction moves generalizing world with
  | nil => cases ran; rfl
  | cons move rest ih =>
    obtain ⟨next, step, ran⟩ := run_cons.mp ran
    obtain ⟨allowed, rfl⟩ := execute_exact.mp step
    have other : move ≠ .publish side := fun same => quiet (by simp [same])
    rw [ih (fun present => quiet (List.mem_cons_of_mem _ present)) ran,
      apply_unpublished allowed other, closedDuring]
    cases world.closes side move <;> simp

theorem apply_published (allowed : world.allowed (.publish side) = true) : ∃ listener,
    (world.lane side).phase = .bound listener ∧
      (world.apply (.publish side)).lane side = ⟨(world.lane side).handle.mark listener.address,
        (world.lane side).owed, (world.lane side).signalled, .serving listener⟩ := by
  have own : (world.lane side).allowed .publish = true := by
    simp only [World.allowed, Bool.and_eq_true] at allowed
    exact allowed.2
  cases phase : (world.lane side).phase <;> simp [Lane.allowed, phase] at own
  rename_i listener
  refine ⟨listener, rfl, ?_⟩
  rw [apply_lane allowed]
  simp [step?, Lane.after, Lane.apply, phase]

theorem run_published (present : .publish side ∈ moves) (ran : world.run moves = some last) :
    (world.lane side).phase.stage ≤ 2 ∧ 3 ≤ (last.lane side).phase.stage := by
  obtain ⟨before, after, rfl⟩ := List.append_of_mem present
  obtain ⟨middle, next, reach, step, ran⟩ := run_split.mp ran
  obtain ⟨allowed, rfl⟩ := execute_exact.mp step
  obtain ⟨listener, bound, serving⟩ := apply_published allowed
  have earlier := run_stage reach side
  have later := run_stage ran side
  rw [bound] at earlier
  rw [serving] at later
  exact ⟨earlier, later⟩

theorem run_starts (fresh : (world.lane side).phase.stage ≤ 1)
    (past : 2 ≤ (last.lane side).phase.stage) (own : (last.lane side).phase.isTaken = false)
    (ran : world.run moves = some last) : ∃ before after ready,
      moves = before ++ .start side :: after ∧ world.run before = some ready ∧
        (ready.lane side).phase = .ready ∧ ready.allowed (.start side) = true ∧
        (ready.apply (.start side)).run after = some last ∧
        ((ready.apply (.start side)).lane side).phase = match (ready.startup side).outcome with
          | .ok listener => .bound listener
          | .error error => .refused error := by
  obtain ⟨before, move, after, ready, rfl, reach, early, allowed, late, ran⟩ :=
    run_leaves (fun later => (later.lane side).phase.stage ≤ 1) fresh (by omega) ran
  refine ⟨before, after, ready, ?_⟩
  rcases phase_cases allowed side with same | ⟨action, step, follows⟩
  · rw [same] at late
    exact absurd early late
  · have source := step_source step
    generalize new : ((ready.apply move).lane side).phase = phase at follows
    cases follows with
    | publishClose | signalClose => rw [new] at late; exact absurd early late
    | launch absent => rw [new] at late; exact absurd (by decide) late
    | refuse waiting | bind waiting =>
      obtain ⟨rfl, outcome⟩ := source
      exact ⟨rfl, reach, waiting, allowed, ran, by rw [← outcome, new]⟩
    | publish before | stop before | finish before => simp [before, Phase.stage] at early
    | drop live | abort live =>
      have still := run_over (by rw [new]; rfl) ran
      rw [still, new] at own
      cases own

theorem refused_start (fresh : (world.lane side).phase.stage ≤ 1)
    (refused : (last.lane side).phase = .refused error) (ran : world.run moves = some last) :
    ∃ before after ready, moves = before ++ .start side :: after ∧
      world.run before = some ready ∧ (ready.lane side).phase = .ready ∧
      (ready.startup side).outcome = .error error ∧
      (ready.apply (.start side)).run after = some last ∧
      ((ready.apply (.start side)).lane side).phase = .refused error := by
  obtain ⟨before, after, ready, split, reach, waiting, -, ran, outcome⟩ :=
    run_starts fresh (by simp [refused, Phase.stage]) (by rw [refused]; rfl) ran
  refine ⟨before, after, ready, split, reach, waiting, ?_⟩
  cases result : (ready.startup side).outcome with
  | ok listener =>
    rw [result] at outcome
    have kept := run_listener (by rw [outcome]; rfl) ran
    rw [refused] at kept
    cases kept
  | error cause =>
    rw [result] at outcome
    have same := run_over (by rw [outcome]; rfl) ran
    rw [refused, outcome] at same
    cases same
    exact ⟨rfl, ran, outcome⟩

theorem exited_start (fresh : (world.lane side).phase.stage ≤ 1)
    (exited : (last.lane side).phase = .exited listener exit) (ran : world.run moves = some last) :
    ∃ before after ready, moves = before ++ .start side :: after ∧
      world.run before = some ready ∧ ready.allowed (.start side) = true ∧
      (ready.startup side).outcome = .ok listener ∧
      (ready.apply (.start side)).run after = some last ∧
      ((ready.apply (.start side)).lane side).phase = .bound listener := by
  obtain ⟨before, after, ready, split, reach, -, allowed, ran, outcome⟩ :=
    run_starts fresh (by simp [exited, Phase.stage]) (by rw [exited]; rfl) ran
  refine ⟨before, after, ready, split, reach, allowed, ?_⟩
  cases result : (ready.startup side).outcome with
  | error cause =>
    rw [result] at outcome
    have same := run_over (by rw [outcome]; rfl) ran
    rw [exited, outcome] at same
    cases same
  | ok own =>
    rw [result] at outcome
    have kept : (last.lane side).phase.listener? = some own :=
      run_listener (by rw [outcome]; rfl) ran
    rw [exited] at kept
    cases kept
    exact ⟨rfl, ran, outcome⟩

theorem refused_reason (fresh : (world.lane side).phase.stage ≤ 1)
    (refused : (last.lane side).phase = .refused error) (ran : world.run moves = some last) :
    side.Refuses error := by
  obtain ⟨before, after, ready, -, -, -, outcome, -⟩ := refused_start fresh refused ran
  exact startup_refusal ready side outcome

-- The handle is at every moment what it was, unless somebody has closed it in the meantime.
structure Untouched (side : Side) (world : World) (moves : List Move) : Prop where
  unpublished : .publish side ∉ moves
  handle : ∀ earlier later middle, moves = earlier ++ later → world.run earlier = some middle →
    (middle.lane side).handle =
      if closedDuring side world earlier then .closed else (world.lane side).handle

-- The listener was bound first, then it gave its address to the handle, which took it unless it was
-- closed or had one already.
structure Announced (side : Side) (listener : Bound) (world : World) (moves : List Move)
    (last : World) : Prop where
  order : ∃ opening waiting rest ready holding,
    moves = opening ++ .start side :: (waiting ++ .publish side :: rest) ∧
      world.run opening = some ready ∧ (ready.startup side).outcome = .ok listener ∧
      (ready.apply (.start side)).run waiting = some holding ∧
      (holding.lane side).phase = .bound listener ∧
      (holding.lane side).handle = (if closedDuring side world (opening ++ .start side :: waiting)
        then .closed else (world.lane side).handle) ∧
      ((holding.apply (.publish side)).lane side).handle =
        if (holding.lane side).handle = .idle then .listening listener.address
        else (holding.lane side).handle
  handle : (last.lane side).handle =
    if closedDuring side world moves then .closed
    else (world.lane side).handle.mark listener.address

theorem refused_untouched (fresh : (world.lane side).phase.stage ≤ 1)
    (refused : (last.lane side).phase = .refused error) (ran : world.run moves = some last) :
    Untouched side world moves := by
  obtain ⟨before, after, ready, rfl, reach, waiting, -, ran, outcome⟩ :=
    refused_start fresh refused ran
  have quiet : .publish side ∉ before ++ .start side :: after := by
    intro present
    rcases List.mem_append.mp present with early | late
    · have published := (run_published early reach).2
      simp [waiting, Phase.stage] at published
    · rcases List.mem_cons.mp late with same | late
      · cases same
      · have published := (run_published late ran).1
        simp [outcome, Phase.stage] at published
  refine ⟨quiet, ?_⟩
  intro earlier later middle split reached
  refine run_unpublished ?_ reached
  intro present
  exact quiet (by rw [split]; exact List.mem_append_left _ present)

theorem run_publishes (bound : (world.lane side).phase = .bound listener)
    (past : 3 ≤ (last.lane side).phase.stage) (own : (last.lane side).phase.isTaken = false)
    (ran : world.run moves = some last) : ∃ before after holding,
      moves = before ++ .publish side :: after ∧ world.run before = some holding ∧
        (holding.lane side).phase = .bound listener ∧ holding.allowed (.publish side) = true ∧
        (holding.apply (.publish side)).run after = some last := by
  have later : (last.lane side).phase ≠ .bound listener := by
    intro same
    simp [same, Phase.stage] at past
  obtain ⟨before, move, after, holding, rfl, reach, still, allowed, left, ran⟩ :=
    run_leaves (fun later => (later.lane side).phase = .bound listener) bound later ran
  refine ⟨before, after, holding, ?_⟩
  rcases phase_cases allowed side with same | ⟨action, step, follows⟩
  · exact absurd (same.trans still) left
  · have source := step_source step
    generalize new : ((holding.apply move).lane side).phase = phase at follows
    cases follows with
    | publishClose | signalClose => exact absurd (new.trans still) left
    | publish before =>
      have same : move = .publish side := source
      subst same
      exact ⟨rfl, reach, still, allowed, ran⟩
    | launch before | refuse before | bind before | stop before | finish before =>
      rw [still] at before
      cases before
    | drop live | abort live =>
      have spent := run_over (by rw [new]; rfl) ran
      rw [spent, new] at own
      cases own

theorem exited_announced (fresh : (world.lane side).phase.stage ≤ 1)
    (exited : (last.lane side).phase = .exited listener exit) (ran : world.run moves = some last) :
    Announced side listener world moves last := by
  obtain ⟨opening, later, ready, rfl, reach, allowed, bound, ran, outcome⟩ :=
    exited_start fresh exited ran
  obtain ⟨held, rest, holding, rfl, hold, still, publishable, ran⟩ :=
    run_publishes outcome (by simp [exited, Phase.stage]) (by rw [exited]; rfl) ran
  -- The one publication splits the run: none comes before it and none after it.
  have opened : world.run (opening ++ .start side :: held) = some holding :=
    run_split.mpr ⟨ready, _, reach, execute_exact.mpr ⟨allowed, rfl⟩, hold⟩
  have quiet : .publish side ∉ opening ++ .start side :: held := by
    intro present
    have published := (run_published present opened).2
    simp [still, Phase.stage] at published
  obtain ⟨own, same, serving⟩ := apply_published publishable
  rw [still] at same
  cases same
  have after : .publish side ∉ rest := by
    intro present
    have published := (run_published present ran).1
    simp [serving, Phase.stage] at published
  have before := run_unpublished quiet opened
  have taken := State.mark_eq (holding.lane side).handle listener.address
  refine ⟨⟨opening, held, rest, ready, holding, rfl, reach, bound, hold, still, before, ?_⟩, ?_⟩
  · rw [serving]
    exact taken
  · have silent : holding.closes side (.publish side) = false := by
      simp [closes, step?, Lane.Action.isClose]
    have whole : closedDuring side world
        (opening ++ .start side :: (held ++ .publish side :: rest)) =
        (closedDuring side world (opening ++ .start side :: held) ||
          closedDuring side (holding.apply (.publish side)) rest) := by
      rw [← List.cons_append, ← List.append_assoc, closedDuring_append opened, closedDuring, silent,
        Bool.false_or]
    rw [run_unpublished after ran, serving, whole, before]
    cases closedDuring side world (opening ++ .start side :: held) with
    | true => simp [State.mark]
    | false => simp

theorem failed_stopped (fresh : (world.lane side).phase.stage ≤ 1)
    (exited : (last.lane side).phase = .exited listener (.failed cause))
    (ran : world.run moves = some last) :
    ∃ before after moment, moves = before ++ .finish side :: after ∧
      world.run before = some moment ∧ (moment.lane side).phase = .stopped listener (some cause) ∧
      (moment.lane side).handle ≠ .closed := by
  have unfinished : (world.lane side).phase ≠ .exited listener (.failed cause) := by
    intro same
    simp [same, Phase.stage] at fresh
  obtain ⟨before, move, after, moment, rfl, reach, still, allowed, left, -⟩ :=
    run_leaves (fun later => (later.lane side).phase ≠ .exited listener (.failed cause))
      unfinished (fun running => running exited) ran
  have now : ((moment.apply move).lane side).phase = .exited listener (.failed cause) :=
    Classical.not_not.mp left
  rcases phase_cases allowed side with same | ⟨action, step, follows⟩
  · exact absurd (same.symm.trans now) still
  · have source := step_source step
    generalize new : ((moment.apply move).lane side).phase = phase at follows
    rw [new] at now
    cases follows with
    | publishClose | signalClose => exact absurd now still
    | finish stopped =>
      obtain ⟨rfl, failed⟩ := Phase.exited.inj now
      obtain ⟨rfl, opened⟩ := classify_failed_iff.mp failed
      have same : move = .finish side := source
      subst same
      exact ⟨before, after, moment, rfl, reach, stopped, opened⟩
    | launch | refuse | bind | publish | stop | drop | abort => cases now

theorem stopped_failed (reach : world.run before = some moment)
    (stopped : (moment.lane side).phase = .stopped listener (some cause))
    (opened : (moment.lane side).handle ≠ .closed)
    (ran : world.run (before ++ .finish side :: after) = some last) :
    (last.lane side).phase = .exited listener (.failed cause) := by
  obtain ⟨middle, next, same, step, rest⟩ := run_split.mp ran
  rw [reach] at same
  cases same
  obtain ⟨allowed, rfl⟩ := execute_exact.mp step
  have failed : classify (some cause) (moment.lane side).handle.isClosed = .failed cause :=
    classify_failed_iff.mpr ⟨rfl, opened⟩
  have exited : ((moment.apply (.finish side)).lane side).phase =
      .exited listener (.failed cause) := by
    rw [apply_lane allowed]
    simp [step?, Lane.after, Lane.apply, stopped, failed]
  rw [run_over (by rw [exited]; rfl) rest, exited]

theorem exited_failed_iff (fresh : (world.lane side).phase.stage ≤ 1)
    (ran : world.run moves = some last) :
    (∃ listener, (last.lane side).phase = .exited listener (.failed cause)) ↔
      ∃ before after moment listener, moves = before ++ .finish side :: after ∧
        world.run before = some moment ∧ (moment.lane side).phase = .stopped listener (some cause) ∧
        (moment.lane side).handle ≠ .closed := by
  constructor
  · intro ended
    obtain ⟨listener, exited⟩ := ended
    obtain ⟨before, after, moment, split, reach, stopped, opened⟩ := failed_stopped fresh exited ran
    exact ⟨before, after, moment, listener, split, reach, stopped, opened⟩
  · intro ended
    obtain ⟨before, after, moment, listener, rfl, reach, stopped, opened⟩ := ended
    exact ⟨listener, stopped_failed reach stopped opened ran⟩

theorem primary_refused_iff {phase : Phase} :
    endingOf .primary phase = some (.error error) ↔ phase = .refused error := by
  cases phase <;> simp [endingOf]

theorem primary_exited_iff {phase : Phase} :
    endingOf .primary phase = some (.ok exit) ↔ ∃ listener, phase = .exited listener exit := by
  cases phase <;> simp [endingOf]

theorem refused_socket_files (fresh : (world.lane .primary).phase.stage ≤ 1)
    (chosen : Startup.socketPath? world.options = some path)
    (refused : (last.lane .primary).phase = .refused error) (ran : world.run moves = some last) :
    (∃ cause, error = .bind "unix" path cause) ∧ last.files = world.files := by
  obtain ⟨before, after, ready, rfl, reach, waiting, outcome, ran, spent⟩ :=
    refused_start fresh refused ran
  have files : ready.files = world.files :=
    run_files_fresh (Nat.le_of_eq (congrArg Phase.stage waiting)) reach
  have startup : ready.startup .primary = Startup.unix (ready.environment .primary) path := by
    rw [startup, Startup.primary_socket]
    rw [run_options reach]
    exact chosen
  rw [startup] at outcome
  obtain ⟨reason, unchanged⟩ := Startup.unix_refused outcome
  refine ⟨reason, ?_⟩
  calc last.files = (ready.start .primary).files := run_files_over (congrArg Phase.stage spent) ran
    _ = (ready.startup .primary).files := start_files ready
    _ = (ready.environment .primary).files := by rw [startup, unchanged]
    _ = ready.files := environment_files ready .primary
    _ = world.files := files

theorem launched_fresh (step : world.step? side (.launch what) = some .launch)
    (ran : world.run (.launch what :: moves) = some last) :
    (world.lane side).phase.stage ≤ 1 := by
  obtain ⟨next, executed, -⟩ := run_cons.mp ran
  obtain ⟨allowed, -⟩ := execute_exact.mp executed
  have launchable : (world.lane side).allowed .launch = true := by
    rcases step_allowed allowed step with same | same | own
    · cases same
    · cases same
    · exact own
  have absent : (world.lane side).phase = .absent := by simpa [Lane.allowed] using launchable
  simp [absent, Phase.stage]

theorem redirector_serve_iff (fresh : (world.lane .redirector).phase.stage ≤ 1)
    (ran : world.run moves = some last) :
    endingOf .redirector (last.lane .redirector).phase = some (.error (.serve cause)) ↔
      ∃ listener, (last.lane .redirector).phase = .exited listener (.failed cause) := by
  constructor
  · intro ended
    cases phase : (last.lane .redirector).phase with
    | refused error =>
      rw [phase] at ended
      cases ended
      exact absurd (refused_reason fresh phase ran) id
    | exited listener exit =>
      rw [phase] at ended
      cases exit <;> cases ended
      exact ⟨listener, rfl⟩
    | absent | ready | bound | serving | stopped | dropped | aborted =>
      rw [phase] at ended
      cases ended
  · rintro ⟨listener, exited⟩
    rw [exited]
    rfl

theorem redirector_failed (fresh : (world.lane .redirector).phase.stage ≤ 1)
    (ran : world.run moves = some last)
    (failed : endingOf .redirector (last.lane .redirector).phase = some (.error error)) :
    (error.IsBind ∧ Untouched .redirector world moves) ∨
      ∃ cause listener, error = .serve cause ∧ Announced .redirector listener world moves last := by
  cases phase : (last.lane .redirector).phase with
  | refused reason =>
    rw [phase] at failed
    cases failed
    exact .inl ⟨refused_reason fresh phase ran, refused_untouched fresh phase ran⟩
  | exited listener exit =>
    rw [phase] at failed
    cases exit <;> cases failed
    exact .inr ⟨_, listener, rfl, exited_announced fresh phase ran⟩
  | absent | ready | bound | serving | stopped | dropped | aborted =>
    rw [phase] at failed
    cases failed

end World

-- A start that fails leaves the handle as it was and a file at the socket's path where it was, and
-- its error is one of starting. A listener that has served was bound before its address was
-- published. Only the redirector reports that serving failed, and only while it was not closed.
theorem failed_start_leaves_nothing (world : World) :
    (∀ moves last, world.run (.launch .primary :: moves) = some last →
      (∀ error, last.result? = some (.error error) →
        error.IsRefusal ∧ World.Untouched .primary world (.launch .primary :: moves) ∧
        ∀ path, Startup.socketPath? world.options = some path →
          (∃ cause, error = .bind "unix" path cause) ∧ last.files = world.files) ∧
      ∀ exit, last.result? = some (.ok exit) → ∃ listener,
        last.primary.phase = .exited listener exit ∧
          World.Announced .primary listener world (.launch .primary :: moves) last) ∧
    ∀ moves last, world.run (.launch .redirector :: moves) = some last →
      (∀ error, endingOf .redirector last.redirector.phase = some (.error error) →
        (error.IsBind ∧ World.Untouched .redirector world (.launch .redirector :: moves)) ∨
        ∃ cause listener, error = .serve cause ∧
          World.Announced .redirector listener world (.launch .redirector :: moves) last) ∧
      (∀ cause, endingOf .redirector last.redirector.phase = some (.error (.serve cause)) ↔
        ∃ before after moment listener,
          .launch .redirector :: moves = before ++ .finish .redirector :: after ∧
            world.run before = some moment ∧
            moment.redirector.phase = .stopped listener (some cause) ∧
            moment.redirector.handle ≠ .closed) ∧
      ∀ exit, endingOf .redirector last.redirector.phase = some (.ok exit) → ∃ listener,
        last.redirector.phase = .exited listener exit ∧
          World.Announced .redirector listener world (.launch .redirector :: moves) last := by
  refine ⟨?_, ?_⟩
  · intro moves last ran
    have fresh : (world.lane .primary).phase.stage ≤ 1 := World.launched_fresh rfl ran
    obtain ⟨next, executed, rest⟩ := World.run_cons.mp ran
    obtain ⟨-, rfl⟩ := World.execute_exact.mp executed
    rw [(World.run_alone (World.launch_alone world) rest).result]
    refine ⟨?_, ?_⟩
    · intro error failed
      have refused : (last.lane .primary).phase = .refused error :=
        World.primary_refused_iff.mp failed
      exact ⟨World.refused_reason fresh refused ran, World.refused_untouched fresh refused ran,
        fun path chosen => World.refused_socket_files fresh chosen refused ran⟩
    · intro exit returned
      obtain ⟨listener, exited⟩ := World.primary_exited_iff.mp returned
      exact ⟨listener, exited, World.exited_announced fresh exited ran⟩
  · intro moves last ran
    have fresh : (world.lane .redirector).phase.stage ≤ 1 := World.launched_fresh rfl ran
    refine ⟨?_, ?_, ?_⟩
    · intro error failed
      exact World.redirector_failed fresh ran failed
    · intro cause
      exact (World.redirector_serve_iff fresh ran).trans (World.exited_failed_iff fresh ran)
    · intro exit returned
      obtain ⟨rfl, listener, exited⟩ := endingOf_redirector_ok returned
      exact ⟨listener, exited, World.exited_announced fresh exited ran⟩

def occupiedPath : World :=
  let files := FileTree.ofLists [] [("/run/web.sock", [])]
  { World.initial { Config.Options.standard with httpAddress := "unix:///run/web.sock" } files
      .isolated with
    primary := { Lane.initial with handle := .listening (.unix "/run/old.sock") } }

theorem taken_path_refused : ∃ refused failed,
    occupiedPath.run [.launch .primary, .start .primary] = some refused ∧
      refused.result? =
        some (.error (.bind "unix" "/run/web.sock" (.os Kernel.Errno.addressInUse))) ∧
      refused.files = occupiedPath.files ∧
      occupiedPath.run [.launch .redirector, .start .redirector, .publish .redirector,
        .stop .redirector (some .noAddresses), .finish .redirector] = some failed ∧
      endingOf .redirector failed.redirector.phase = some (.error (.serve .noAddresses)) := by
  obtain ⟨refused, ran, returned⟩ : ∃ refused,
      occupiedPath.run [.launch .primary, .start .primary] = some refused ∧
        refused.result? =
          some (.error (.bind "unix" "/run/web.sock" (.os Kernel.Errno.addressInUse))) := ⟨_, rfl, rfl⟩
  obtain ⟨failed, served, stopped⟩ : ∃ failed,
      occupiedPath.run [.launch .redirector, .start .redirector, .publish .redirector,
        .stop .redirector (some .noAddresses), .finish .redirector] = some failed ∧
        failed.redirector.phase = .exited ⟨"HTTPS redirector", .tcp ⟨.v4 .unspecified, 80⟩⟩
          (.failed .noAddresses) := ⟨_, rfl, rfl⟩
  obtain ⟨own, beside⟩ := failed_start_leaves_nothing occupiedPath
  have kept := ((own _ _ ran).1 _ returned).2.2 "/run/web.sock" rfl
  refine ⟨refused, failed, ran, returned, kept.2, served, ?_⟩
  refine ((beside _ _ served).2.1 .noAddresses).mpr ?_
  exact ⟨[.launch .redirector, .start .redirector, .publish .redirector,
    .stop .redirector (some .noAddresses)], [], _, _, rfl, rfl, rfl, by decide⟩

end WebListener.Lifecycle
