import WebListener.Lifecycle.Schedule
import WebListener.Proofs.Lifecycle.Refusals
-- What one move does to the two listeners and to the call that waits for them, and what a property
-- of the world needs to hold along every run.
namespace WebListener.Lifecycle

open Config (Options)
open Kernel (FileTree IoError)
open Net (Network)

def Side.Refuses : Side → ListenerError → Prop
  | .primary, error => error.IsRefusal
  | .redirector, error => error.IsBind

namespace Phase

inductive Moves (side : Side) : Phase → Phase → Prop where
  | refuse (reason : side.Refuses error) : Moves side .ready (.refused error)
  | bind : Moves side .ready (.bound listener)
  | serve : Moves side (.bound listener) (.serving listener)
  | stop {failure : Option IoError} : Moves side (.serving listener) (.stopped listener failure)
  | exit {failure : Option IoError} :
      Moves side (.stopped listener failure) (.exited listener exit)

variable {phase before after : Phase} {side : Side}

theorem Moves.live (step : Moves side before after) : before.isLive = true := by
  cases step <;> rfl

theorem live_ending (live : phase.isLive = true) : endingOf side phase = none := by
  cases phase with
  | ready | bound | serving | stopped => cases side <;> rfl
  | absent | refused | exited | dropped | aborted => cases live

end Phase

namespace World

variable {world next last : World} {move : Move} {moves : List Move}

theorem execute_exact :
    world.execute move = some next ↔ world.allowed move = true ∧ world.apply move = next := by
  unfold execute
  split <;> simp_all

theorem run_cons : world.run (move :: moves) = some last ↔
    ∃ next, world.execute move = some next ∧ next.run moves = some last :=
  Option.bind_eq_some_iff

theorem run_append (first second : List Move) :
    world.run (first ++ second) = (world.run first).bind (run · second) := by
  induction first generalizing world with
  | nil => rfl
  | cons move rest ih =>
    cases step : world.execute move with
    | none => simp [run, step]
    | some next => simp [run, step, ih]

-- What a property needs to hold at the end of every run from where it holds.
theorem run_preserves (property : World → Prop)
    (preserved : ∀ world, ∀ move ∈ moves, property world → world.allowed move = true →
      property (world.apply move))
    (holds : property world) (ran : world.run moves = some last) : property last := by
  induction moves generalizing world with
  | nil => cases ran; exact holds
  | cons move rest ih =>
    obtain ⟨next, step, ran⟩ := run_cons.mp ran
    obtain ⟨allowed, rfl⟩ := execute_exact.mp step
    have later := fun world move present => preserved world move (List.mem_cons_of_mem _ present)
    exact ih later (preserved world move List.mem_cons_self holds allowed) ran

theorem run_split : world.run (before ++ move :: after) = some last ↔
    ∃ middle next, world.run before = some middle ∧ middle.execute move = some next ∧
      next.run after = some last := by
  rw [run_append, Option.bind_eq_some_iff]
  constructor
  · rintro ⟨middle, reach, ran⟩
    obtain ⟨next, step, ran⟩ := run_cons.mp ran
    exact ⟨middle, next, reach, step, ran⟩
  · rintro ⟨middle, next, reach, step, ran⟩
    exact ⟨middle, reach, run_cons.mpr ⟨next, step, ran⟩⟩

def fixed (world : World) : Options × Network := (world.options, world.network)

section Parts

variable (world : World) (action : Lane.Action)

@[simp] theorem act_call (side : Side) : (world.act side action).call = world.call := by
  cases side <;> rfl

@[simp] theorem act_fixed (side : Side) : (world.act side action).fixed = world.fixed := by
  cases side <;> rfl

theorem settleCall_fixed : world.settleCall.fixed = world.fixed := by
  unfold settleCall
  split <;> rfl

theorem tidy_fixed (address : Net.BoundAddress) : (world.tidy address).fixed = world.fixed := by
  unfold tidy
  split
  · rfl
  · split <;> rfl

theorem settleCall_parts : world.settleCall.primary = world.primary ∧
    world.settleCall.redirector = world.redirector ∧
    world.settleCall.call = match endingOf .primary world.primary.phase with
      | some ending => .returned ending
      | none => world.call := by
  unfold settleCall
  split <;> simp_all

theorem tidy_parts (address : Net.BoundAddress) : (world.tidy address).primary = world.primary ∧
    (world.tidy address).redirector = world.redirector ∧
    (world.tidy address).call = world.call := by
  unfold tidy
  split
  · exact ⟨rfl, rfl, rfl⟩
  · split <;> exact ⟨rfl, rfl, rfl⟩

end Parts

theorem call_unsettled {phase : Phase} (live : phase.isLive = true) (call : Call) :
    call = match endingOf .primary phase with
      | some ending => .returned ending
      | none => call := by
  rw [Phase.live_ending live]

-- What a move does to the two listeners and to the call that waits for them.
inductive Advance (world : World) (move : Move) (next : World) : Prop where
  | aside (primary : next.primary.phase = world.primary.phase)
      (redirector : next.redirector.phase = world.redirector.phase)
      (call : next.call = world.call)
  | launched (what : Launch) (asked : move = .launch what) (same : next = world.launch what)
  | primary (waiting : world.call.isWaiting = true)
      (step : Phase.Moves .primary world.primary.phase next.primary.phase)
      (other : next.redirector.phase = world.redirector.phase)
      (call : next.call = match endingOf .primary next.primary.phase with
        | some ending => .returned ending
        | none => world.call)
  | redirector (step : Phase.Moves .redirector world.redirector.phase next.redirector.phase)
      (other : next.primary.phase = world.primary.phase) (call : next.call = world.call)
  | aborted (live : world.redirector.phase.isLive = true)
      (fate : next.redirector.phase = .aborted world.redirector.phase.listener? reason)
      (other : next.primary.phase = world.primary.phase) (call : next.call = world.call)
  | observed (both : world.call = .both) (waiting : world.primary.phase.isWaiting = true)
      (gone : world.redirector.phase.isLive = false) (same : next = world.observe)

theorem startup_refusal (world : World) (side : Side)
    (refused : (world.startup side).outcome = .error error) : side.Refuses error := by
  unfold startup at refused
  cases side with
  | primary => exact Startup.primary_refusal refused
  | redirector => exact Startup.redirector_refusal refused

theorem bind_moves (lane : Lane) (ready : lane.phase = .ready)
    (reason : ∀ error, outcome = .error error → side.Refuses error) :
    Phase.Moves side lane.phase (lane.apply (.bind outcome)).phase := by
  rw [ready]
  cases outcome with
  | error error => exact .refuse (reason error rfl)
  | ok listener => exact .bind

theorem publish_moves {lane : Lane} (allowed : lane.allowed .publish = true) :
    Phase.Moves side lane.phase (lane.apply .publish).phase := by
  cases phase : lane.phase <;> simp [Lane.allowed, phase] at allowed
  simpa [Lane.apply, phase] using Phase.Moves.serve

theorem stop_moves {lane : Lane} {failure : Option IoError}
    (allowed : lane.allowed (.stop failure) = true) :
    Phase.Moves side lane.phase (lane.apply (.stop failure)).phase := by
  cases phase : lane.phase <;> simp [Lane.allowed, phase] at allowed
  simpa [Lane.apply, phase] using Phase.Moves.stop

theorem publish_live {lane : Lane} (allowed : lane.allowed .publish = true) :
    (lane.apply .publish).phase.isLive = true := by
  cases phase : lane.phase <;> simp [Lane.allowed, phase] at allowed
  simp [Lane.apply, phase, Phase.isLive]

theorem stop_live {lane : Lane} {failure : Option IoError}
    (allowed : lane.allowed (.stop failure) = true) :
    (lane.apply (.stop failure)).phase.isLive = true := by
  cases phase : lane.phase <;> simp [Lane.allowed, phase] at allowed
  simp [Lane.apply, phase, Phase.isLive]

theorem finish_moves {lane : Lane} (allowed : lane.allowed .finish = true) :
    Phase.Moves side lane.phase (lane.apply .finish).phase := by
  cases phase : lane.phase <;> simp [Lane.allowed, phase] at allowed
  simpa [Lane.apply, phase] using Phase.Moves.exit

theorem touch_phase (world : World) (touch : Touch) (side : Side) :
    ((world.act (touchAction touch).1 (touchAction touch).2).lane side).phase =
      (world.lane side).phase := by
  cases touch <;> rename_i touched <;> cases touched <;> cases side <;> rfl

theorem touch_aside (world : World) (touch : Touch) :
    Advance world move (world.act (touchAction touch).1 (touchAction touch).2) :=
  .aside (touch_phase world touch .primary) (touch_phase world touch .redirector)
    (act_call world _ _)

theorem launch_disabled (disabled : world.options.redirectHttpToHttps = false) :
    world.launch .listenAndServe = world.launch .primary := by
  simp [launch, disabled]

theorem launch_enabled (enabled : world.options.redirectHttpToHttps = true) :
    world.launch .listenAndServe =
      { (world.act .primary .launch).act .redirector .launch with call := .both } := by
  simp [launch, enabled]

theorem start_primary (world : World) : (world.start .primary).primary =
      world.primary.apply (.bind (world.startup .primary).outcome) ∧
    (world.start .primary).redirector = world.redirector ∧
    (world.start .primary).call = match endingOf .primary (world.start .primary).primary.phase with
      | some ending => .returned ending
      | none => world.call := by
  simp only [start]
  refine ⟨(settleCall_parts _).1, (settleCall_parts _).2.1, ?_⟩
  rw [(settleCall_parts _).2.2, (settleCall_parts _).1]
  rfl

theorem start_redirector (world : World) : (world.start .redirector).redirector =
      world.redirector.apply (.bind (world.startup .redirector).outcome) ∧
    (world.start .redirector).primary = world.primary ∧
    (world.start .redirector).call = world.call := by
  simp only [start]
  generalize world.startup .redirector = startup
  exact ⟨rfl, rfl, rfl⟩

theorem finish_primary (world : World) (allowed : world.primary.allowed .finish = true) :
    (world.finish .primary).primary = world.primary.apply .finish ∧
      (world.finish .primary).redirector = world.redirector ∧
      (world.finish .primary).call =
        match endingOf .primary (world.finish .primary).primary.phase with
        | some ending => .returned ending
        | none => world.call := by
  cases phase : world.primary.phase <;> simp [Lane.allowed, phase] at allowed
  rename_i listener failure
  simp only [finish, lane, phase, Phase.listener?]
  refine ⟨?_, ?_, ?_⟩
  · rw [(settleCall_parts _).1, (tidy_parts _ _).1]
    rfl
  · rw [(settleCall_parts _).2.1, (tidy_parts _ _).2.1]
    rfl
  · rw [(settleCall_parts _).2.2, (settleCall_parts _).1, (tidy_parts _ _).2.2]
    rfl

theorem finish_redirector (world : World) :
    (world.finish .redirector).redirector = world.redirector.apply .finish ∧
      (world.finish .redirector).primary = world.primary ∧
      (world.finish .redirector).call = world.call := by
  simp only [finish]
  exact ⟨rfl, rfl, rfl⟩

theorem apply_advance (allowed : world.allowed move = true) :
    Advance world move (world.apply move) := by
  cases move with
  | launch what => exact .launched what rfl rfl
  | touch touch => exact touch_aside world touch
  | report | receive => exact .aside rfl rfl rfl
  | closeNext =>
    cases owed : world.shutdown with
    | none => exact .aside (by simp [apply, owed]) (by simp [apply, owed]) (by simp [apply, owed])
    | some touches =>
      cases touches with
      | nil => exact .aside (by simp [apply, owed]) (by simp [apply, owed]) (by simp [apply, owed])
      | cons touch rest =>
        simp only [apply, owed]
        exact .aside (touch_phase world touch .primary) (touch_phase world touch .redirector)
          (act_call world _ _)
  | observe =>
    cases call : world.call <;> simp [World.allowed, call] at allowed
    exact .observed call allowed.1 allowed.2 rfl
  | abort reason => exact .aborted allowed rfl rfl rfl
  | start side =>
    simp only [World.allowed, Bool.and_eq_true, beq_iff_eq] at allowed
    obtain ⟨runs, ready⟩ := allowed
    have step := bind_moves (world.lane side) ready fun _ => startup_refusal world side
    cases side with
    | primary =>
      obtain ⟨own, other, call⟩ := start_primary world
      refine .primary runs ?_ (congrArg Lane.phase other) call
      rw [apply, own]
      exact step
    | redirector =>
      obtain ⟨own, other, call⟩ := start_redirector world
      refine .redirector ?_ (congrArg Lane.phase other) call
      rw [apply, own]
      exact step
  | publish side =>
    simp only [World.allowed, Bool.and_eq_true] at allowed
    have step : Phase.Moves side _ _ := publish_moves allowed.2
    cases side with
    | primary => exact .primary allowed.1 step rfl (call_unsettled (publish_live allowed.2) _)
    | redirector => exact .redirector step rfl rfl
  | stop side failure =>
    simp only [World.allowed, Bool.and_eq_true] at allowed
    have step : Phase.Moves side _ _ := stop_moves allowed.2
    cases side with
    | primary => exact .primary allowed.1 step rfl (call_unsettled (stop_live allowed.2) _)
    | redirector => exact .redirector step rfl rfl
  | finish side =>
    simp only [World.allowed, Bool.and_eq_true] at allowed
    have step : Phase.Moves side _ _ := finish_moves allowed.2
    cases side with
    | primary =>
      obtain ⟨own, other, call⟩ := finish_primary world allowed.2
      refine .primary allowed.1 ?_ (congrArg Lane.phase other) call
      rw [apply, own]
      exact step
    | redirector =>
      obtain ⟨own, other, call⟩ := finish_redirector world
      refine .redirector ?_ (congrArg Lane.phase other) call
      rw [apply, own]
      exact step

theorem apply_fixed (world : World) (move : Move) : (world.apply move).fixed = world.fixed := by
  cases move with
  | launch what =>
    cases what with
    | primary | redirector => rfl
    | listenAndServe =>
      cases enabled : world.options.redirectHttpToHttps with
      | true => rw [apply, launch_enabled enabled]; rfl
      | false => rw [apply, launch_disabled enabled]; rfl
  | touch touch => exact act_fixed world _ _
  | start side =>
    simp only [apply, start]
    generalize world.startup side = startup
    cases side with
    | primary => rw [settleCall_fixed]; rfl
    | redirector => rfl
  | publish side | stop side failure => exact act_fixed world _ _
  | finish side =>
    simp only [apply, finish]
    cases side with
    | redirector => rfl
    | primary =>
      split
      · rw [settleCall_fixed, tidy_fixed, act_fixed]; rfl
      · rw [act_fixed]; rfl
  | report | receive | abort => rfl
  | observe =>
    simp only [apply, observe]
    split <;> rfl
  | closeNext =>
    simp only [apply]
    split
    · exact act_fixed world _ _
    · rfl

theorem apply_options (world : World) (move : Move) :
    (world.apply move).options = world.options := congrArg Prod.fst (world.apply_fixed move)

theorem apply_network (world : World) (move : Move) :
    (world.apply move).network = world.network := congrArg Prod.snd (world.apply_fixed move)

theorem run_fixed (ran : world.run moves = some last) : last.fixed = world.fixed :=
  run_preserves (fun later => later.fixed = world.fixed)
    (fun later move _ same _ => (apply_fixed later move).trans same) rfl ran

theorem run_options (ran : world.run moves = some last) : last.options = world.options :=
  congrArg Prod.fst (run_fixed ran)

def Leads (world next : World) : Prop := ∃ moves, world.run moves = some next

namespace Leads

theorem refl (world : World) : Leads world world := ⟨[], rfl⟩

theorem trans (one : Leads world next) (two : Leads next last) : Leads world last := by
  obtain ⟨first, reach⟩ := one
  obtain ⟨second, ran⟩ := two
  exact ⟨first ++ second, by rw [run_append, reach]; exact ran⟩

theorem attempt (world : World) (move : Move) : Leads world (world.attempt move) := by
  unfold World.attempt
  cases step : world.execute move with
  | none => exact refl world
  | some next => exact ⟨[move], run_cons.mpr ⟨next, step, rfl⟩⟩

theorem fold {step : World → α → World} (leads : ∀ world item, Leads world (step world item))
    (items : List α) (world : World) : Leads world (items.foldl step world) := by
  induction items generalizing world with
  | nil => exact refl world
  | cons item rest ih => exact (leads world item).trans (ih (step world item))

theorem settle (world : World) : Leads world world.settle := by
  have rest (world : World) (side : Side) : Leads world (world.rest side) :=
    fold (fun world _ => attempt world _) _ world
  have watched := ((rest world .primary).trans (rest _ .redirector)).trans (attempt _ .observe)
  exact watched.trans (fold (fun world _ => attempt world _) _ _)

theorem interrupt (world : World) (signal : Signal) : Leads world (world.interrupt signal) := by
  have closed := (attempt world (.receive signal)).trans
    (fold (fun world _ => attempt world .closeNext) closeAll _)
  exact closed.trans (settle _)

end Leads

end World

end WebListener.Lifecycle
