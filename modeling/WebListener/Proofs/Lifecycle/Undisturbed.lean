import WebListener.Proofs.Lifecycle.Closing
import WebListener.Proofs.Lifecycle.MaterialSource
import WebListener.Proofs.Lifecycle.Starts
-- Runs that nothing disturbs: every start succeeds, no serve loop ends before its own handle is
-- closed, and no task is taken away. Along such a run no listener fails, and no error is reported
-- but what went wrong at the certificate authority.
namespace WebListener.Lifecycle

open Config (Options)
open Kernel (IoError)
open Log (Event)
open Net (Authority Issuance)

namespace Startup

variable {options : Options} {world : Environment} {startup : Startup} {item : Issuance}

theorem Quiet.calm (quiet : Quiet startup) : errors startup.events = [] := by
  simpa [errors] using fun event present => (quiet event present).2

theorem primary_calm (options : Options) (world : Environment) :
    errors (primary options world).events = [] := by
  unfold primary
  split
  · exact (http_quiet _ _).calm
  · have told : errors (if options.staticPathsIgnored then [pathsIgnored] else []) = [] := by
      cases options.staticPathsIgnored <;> rfl
    rw [after, errors_append, told, (https_quiet options world).calm]
    rfl

def Issues (options : Options) (authority : Authority) (item : Issuance) : Prop :=
  ∃ settings files, options.certificateSource = .automatic settings ∧
    item ∈ authority settings files

theorem bindTcp_unattended :
    (bindTcp world label address family listening).background = [] := by
  unfold bindTcp
  split <;> rfl

theorem http_unattended (address : String) (world : Environment) :
    (http address world).background = [] := by
  unfold http
  split
  · rfl
  · split
    · rfl
    · unfold unix
      split <;> rfl
    · exact bindTcp_unattended

theorem attended_background {reports : List Issuance} (unattended : startup.background = [])
    (present : item ∈ (attended reports startup).background) : item ∈ reports := by
  unfold attended at present
  split at present
  · rw [unattended] at present
    cases present
  · exact present

theorem automatic_background
    (present : item ∈ (automatic settings address world).background) :
    ∃ files, item ∈ world.network.authority settings files := by
  unfold automatic at present
  generalize world.files.makeDirectories settings.cacheDir = cache at present
  cases failure : cache.failure with
  | some cause => simp [failure, after, refused] at present
  | none =>
    simp only [failure, after] at present
    exact ⟨_, attended_background bindTcp_unattended present⟩

theorem primary_issues (present : item ∈ (primary options world).background) :
    Issues options world.network.authority item := by
  unfold primary at present
  cases mode : options.listenMode with
  | http =>
    rw [mode] at present
    simp [http_unattended] at present
  | https =>
    simp only [mode, after, https] at present
    cases source : options.certificateSource with
    | static certFile keyFile =>
      simp only [source, static, bindHttps] at present
      split at present
      · simp [refused] at present
      · simp [bindTcp_unattended] at present
    | automatic settings =>
      simp only [source] at present
      obtain ⟨files, issued⟩ := automatic_background present
      exact ⟨settings, files, source, issued⟩

end Startup

namespace Phase

def Unfailing (handle : State) : Phase → Prop
  | .refused _ | .dropped _ | .aborted .. => False
  | .stopped .. => handle = .closed
  | .exited _ exit => exit = .closed
  | .absent | .ready | .bound _ | .serving _ => True

variable {phase : Phase} {handle : State}

theorem Unfailing.ended (unfailing : phase.Unfailing handle)
    (ended : endingOf side phase = some ending) : ending = .ok .closed := by
  cases phase with
  | exited listener exit =>
    cases unfailing
    cases side <;> cases ended <;> rfl
  | refused => cases unfailing
  | absent | ready | bound | serving | stopped | dropped | aborted => cases side <;> cases ended

end Phase

namespace Lane

variable {lane : Lane} {action : Action}

structure Unfailing (lane : Lane) : Prop where
  orderly : lane.Orderly
  phase : lane.phase.Unfailing lane.handle

theorem closed_kept (closed : lane.handle = .closed) (action : Action) :
    (lane.apply action).handle = .closed := closed_iff_published.mpr (.inl closed)

theorem signalled_kept (signalled : lane.signalled = true) (action : Action) :
    (lane.apply action).signalled = true := by
  cases action with
  | bind outcome => cases outcome <;> exact signalled
  | signalClose => rfl
  | publish | stop | finish => simp only [apply]; split <;> exact signalled
  | publishClose | launch | drop | abort => exact signalled

-- A signal that finds its handle closed keeps the order of the two steps, whoever sends it.
theorem orderly_step (orderly : lane.Orderly)
    (allowed : lane.allowed action = true ∨ action = .publishClose ∨
      action = .signalClose ∧ lane.handle = .closed) : (lane.apply action).Orderly := by
  rcases allowed with allowed | rfl | ⟨rfl, closed⟩
  · exact orderly_preserved orderly allowed
  · exact orderly_preserved orderly rfl
  · exact ⟨fun _ => closed, fun _ => closed, fun _ _ => closed⟩

def Action.disturbs (lane : Lane) : Action → Prop
  | .bind outcome => ∃ error, outcome = .error error
  | .stop _ => lane.handle ≠ .closed
  | .drop | .abort _ => True
  | .publishClose | .signalClose | .launch | .publish | .finish => False

theorem phase_unfailing (unfailing : lane.Unfailing) (quiet : ¬action.disturbs lane)
    (follows : lane.Follows action (lane.apply action).phase) :
    (lane.apply action).phase.Unfailing (lane.apply action).handle := by
  have kept := unfailing.phase
  generalize (lane.apply action).phase = phase at follows
  cases follows with
  | publishClose =>
    cases before : lane.phase <;> simp_all [Phase.Unfailing, apply, State.close]
  | signalClose => exact kept
  | launch | bind | publish => trivial
  | refuse => exact absurd ⟨_, rfl⟩ quiet
  | stop serving =>
    have closed : lane.handle = .closed := Decidable.not_not.mp quiet
    exact closed_kept closed _
  | @finish listener failure stopped =>
    rw [stopped] at kept
    have closed : lane.handle = .closed := kept
    rw [closed]
    cases failure <;> rfl
  | drop | abort => exact absurd trivial quiet

end Lane

namespace World

variable {world last : World} {move : Move} {moves : List Move} {side : Side}

def undisturbed (world : World) : Move → Bool
  | .start side => (world.startup side).outcome.isOk
  | .stop side _ => (world.lane side).handle == .closed
  | .abort _ => false
  | _ => true

def performed (world : World) : Touch → Prop
  | .publish side => (world.lane side).handle = .closed
  | .signal side => (world.lane side).handle = .closed ∧ (world.lane side).signalled = true

-- What the signal task has left to do are the last of its touches, and it has made the others.
def Interrupting (world : World) : Prop :=
  ∀ rest, world.shutdown = some rest →
    ∃ done, closeAll = done ++ rest ∧ ∀ touch ∈ done, world.performed touch

def Issues (world : World) (item : Issuance) : Prop :=
  Startup.Issues world.options world.network.authority item

-- Something that went wrong at the authority and not here.
def Troubles (world : World) (event : Event) : Prop :=
  ∃ text, world.Issues (.failure text) ∧ event = (Issuance.failure text).event

-- A world in which nothing of its own has failed.
structure Unfailing (world : World) : Prop where
  lane : ∀ side, (world.lane side).Unfailing
  interrupting : world.Interrupting
  events : ∀ event ∈ errors world.events, world.Troubles event
  background : ∀ item ∈ world.background, world.Issues item

section Parts

variable (world : World)

@[simp] theorem act_background (side : Side) (action : Lane.Action) :
    (world.act side action).background = world.background := by
  cases side <;> rfl

@[simp] theorem settleCall_background :
    world.settleCall.background = world.background := by
  unfold settleCall
  split <;> rfl

@[simp] theorem tidy_background (address : Net.BoundAddress) :
    (world.tidy address).background = world.background := by
  unfold tidy
  split
  · rfl
  · split <;> rfl

@[simp] theorem act_shutdown (side : Side) (action : Lane.Action) :
    (world.act side action).shutdown = world.shutdown := by
  cases side <;> rfl

@[simp] theorem settleCall_shutdown : world.settleCall.shutdown = world.shutdown := by
  unfold settleCall
  split <;> rfl

@[simp] theorem tidy_shutdown (address : Net.BoundAddress) :
    (world.tidy address).shutdown = world.shutdown := by
  unfold tidy
  split
  · rfl
  · split <;> rfl

theorem apply_rest (move : Move) :
    (world.apply move).background = (match move with
      | .start .primary => (world.startup .primary).background
      | .report => Issuance.later world.background
      | _ => world.background) ∧
    (world.apply move).shutdown = match move with
      | .receive _ => some closeAll
      | .closeNext => world.shutdown.map List.tail
      | _ => world.shutdown := by
  cases move with
  | launch what =>
    cases what with
    | primary | redirector => exact ⟨rfl, rfl⟩
    | listenAndServe =>
      cases enabled : world.options.redirectHttpToHttps with
      | true => rw [apply, launch_enabled enabled]; exact ⟨rfl, rfl⟩
      | false => rw [apply, launch_disabled enabled]; exact ⟨rfl, rfl⟩
  | touch touch => exact ⟨act_background _ _ _, act_shutdown _ _ _⟩
  | start side =>
    simp only [apply, start]
    cases side with
    | primary =>
      rw [settleCall_background, settleCall_shutdown]
      exact ⟨rfl, act_shutdown _ _ _⟩
    | redirector =>
      generalize world.startup .redirector = began
      exact ⟨act_background _ _ _, act_shutdown _ _ _⟩
  | publish side | stop side failure => exact ⟨act_background _ _ _, act_shutdown _ _ _⟩
  | finish side =>
    simp only [apply, finish]
    split <;> simp <;> exact ⟨rfl, rfl⟩
  | report | abort | receive => exact ⟨rfl, rfl⟩
  | observe =>
    simp only [apply, observe]
    split <;> exact ⟨rfl, rfl⟩
  | closeNext =>
    simp only [apply]
    split
    · rename_i touch rest owed
      exact ⟨act_background _ _ _, by rw [owed]; rfl⟩
    · rename_i spent
      refine ⟨rfl, ?_⟩
      cases owed : world.shutdown with
      | none => rfl
      | some touches =>
        cases touches with
        | nil => rfl
        | cons touch rest => exact absurd owed (spent touch rest)

end Parts

theorem redirector_unfailed (unfailing : Unfailing world) : world.redirectorFailed = false := by
  have phase := (unfailing.lane .redirector).phase
  simp only [lane] at phase
  unfold redirectorFailed
  cases fate : world.redirector.phase with
  | refused | dropped | aborted => rw [fate] at phase; cases phase
  | exited listener exit => rw [fate] at phase; cases phase; rfl
  | absent | ready | bound | serving | stopped => rfl

theorem taken_source (step : world.step? side move = some action) : match action with
    | .drop => world.redirectorFailed = true
    | .abort reason => move = .abort reason
    | _ => True := by
  cases move with
  | launch what =>
    have launched : action = .launch := by
      cases what <;> cases side <;> simp_all [step?]
    subst launched
    trivial
  | touch touch => rcases touchOn_closes step with rfl | rfl <;> trivial
  | start own | publish own | stop own failure | finish own =>
    simp only [step?, Option.ite_none_right_eq_some, Option.some.injEq] at step
    obtain ⟨-, rfl⟩ := step
    trivial
  | observe =>
    simp only [step?, Option.ite_none_right_eq_some, Option.some.injEq] at step
    obtain ⟨failed, rfl⟩ := step
    exact failed.2
  | abort reason =>
    simp only [step?, Option.ite_none_right_eq_some, Option.some.injEq] at step
    obtain ⟨-, rfl⟩ := step
    rfl
  | report | receive => cases step
  | closeNext =>
    obtain ⟨touch, -, touched⟩ := Option.bind_eq_some_iff.mp step
    rcases touchOn_closes touched with rfl | rfl <;> trivial

theorem step_quiet (unfailing : Unfailing world) (quiet : world.undisturbed move = true)
    (step : world.step? side move = some action) : ¬action.disturbs (world.lane side) := by
  have source := step_source step
  have taken := taken_source step
  cases action with
  | bind outcome =>
    obtain ⟨rfl, rfl⟩ := source
    rintro ⟨error, refused⟩
    simp [undisturbed, refused, Except.isOk, Except.toBool] at quiet
  | stop failure =>
    have same : move = .stop side failure := source
    subst same
    have closed : (world.lane side).handle = .closed := by simpa [undisturbed] using quiet
    exact fun opened => opened closed
  | drop =>
    have failed : world.redirectorFailed = true := taken
    rw [redirector_unfailed unfailing] at failed
    cases failed
  | abort reason =>
    have same : move = .abort reason := taken
    subst same
    cases quiet
  | publishClose | signalClose | launch | publish | finish => exact id

theorem performed_kept (allowed : world.allowed move = true) {touch : Touch}
    (done : world.performed touch) : (world.apply move).performed touch := by
  have closed (side : Side) (before : (world.lane side).handle = .closed) :
      ((world.apply move).lane side).handle = .closed := by
    rw [apply_lane allowed]
    cases world.step? side move with
    | none => exact before
    | some action => exact Lane.closed_kept before action
  cases touch with
  | publish side => exact closed side done
  | signal side =>
    refine ⟨closed side done.1, ?_⟩
    rw [apply_lane allowed]
    cases world.step? side move with
    | none => exact done.2
    | some action => exact Lane.signalled_kept done.2 action

theorem published_first (order : closeAll = done ++ .signal side :: later) :
    .publish side ∈ done := by
  rcases done with _ | ⟨one, _ | ⟨two, _ | ⟨three, _ | ⟨four, more⟩⟩⟩⟩ <;>
    simp [closeAll] at order <;> grind

theorem interrupting_preserved (interrupting : world.Interrupting)
    (allowed : world.allowed move = true) : (world.apply move).Interrupting := by
  intro rest left
  have shutdown := (world.apply_rest move).2
  rw [left] at shutdown
  have kept (same : world.shutdown = some rest) : ∃ done, closeAll = done ++ rest ∧
      ∀ touch ∈ done, (world.apply move).performed touch := by
    obtain ⟨done, order, made⟩ := interrupting rest same
    exact ⟨done, order, fun touch present => performed_kept allowed (made touch present)⟩
  cases move with
  | receive signal =>
    cases shutdown
    exact ⟨[], rfl, by simp⟩
  | closeNext =>
    cases owed : world.shutdown with
    | none => simp [owed] at shutdown
    | some touches =>
      cases touches with
      | nil => simp [World.allowed, owed] at allowed
      | cons touch later =>
        obtain rfl : rest = later := by simpa [owed] using shutdown
        obtain ⟨done, order, made⟩ := interrupting _ owed
        refine ⟨done ++ [touch], by rw [order]; simp, ?_⟩
        intro performed present
        rcases List.mem_append.mp present with before | last
        · exact performed_kept allowed (made performed before)
        · obtain rfl := List.mem_singleton.mp last
          cases performed with
          | publish side =>
            have step : world.step? side .closeNext = some .publishClose := by
              simp [step?, owed, touchOn, touchAction]
            rw [World.performed, apply_lane allowed, step]
            rfl
          | signal side =>
            have step : world.step? side .closeNext = some .signalClose := by
              simp [step?, owed, touchOn, touchAction]
            refine ⟨performed_kept allowed (made _ (published_first order)), ?_⟩
            rw [apply_lane allowed, step]
            rfl
  | launch | touch | start | publish | stop | finish | report | observe | abort =>
    exact kept shutdown.symm

-- A signal to a serve loop comes after its handle was closed, whoever sends it.
theorem step_orderly (unfailing : Unfailing world) (allowed : world.allowed move = true)
    (step : world.step? side move = some action) :
    ((world.lane side).apply action).Orderly := by
  refine Lane.orderly_step (unfailing.lane side).orderly ?_
  rcases step_allowed allowed step with rfl | rfl | own
  · exact .inr (.inl rfl)
  · cases move with
    | closeNext =>
      obtain ⟨touch, first, touched⟩ := Option.bind_eq_some_iff.mp step
      obtain ⟨touches, owed, head⟩ := Option.bind_eq_some_iff.mp first
      obtain ⟨later, rfl⟩ := List.head?_eq_some_iff.mp head
      obtain rfl : touch = .signal side := by
        have same := touchOn_some touched
        cases touch <;> simp_all [touchAction]
      obtain ⟨done, order, made⟩ := unfailing.interrupting _ owed
      exact .inr (.inr ⟨rfl, made _ (published_first order)⟩)
    | touch touch =>
      have same := touchOn_some step
      refine .inl ?_
      simpa [World.allowed, same] using allowed
    | launch what => cases what <;> cases side <;> simp [step?] at step
    | start own | publish own | stop own | finish own | abort => simp [step?] at step
    | observe => simp [step?] at step
    | report | receive => cases step
  · exact .inl own

theorem lane_unfailing (unfailing : Unfailing world) (allowed : world.allowed move = true)
    (quiet : world.undisturbed move = true) (side : Side) :
    ((world.apply move).lane side).Unfailing := by
  cases step : world.step? side move with
  | none =>
    rw [apply_lane allowed, step]
    exact unfailing.lane side
  | some action =>
    have follows := step_follows allowed step
    rw [apply_lane allowed, step] at follows ⊢
    exact ⟨step_orderly unfailing allowed step,
      Lane.phase_unfailing (unfailing.lane side) (step_quiet unfailing quiet step) follows⟩

theorem tidy_calm (address : Net.BoundAddress) :
    errors (world.tidy address).events = errors world.events := by
  unfold tidy
  split
  · rfl
  · split
    · rfl
    · rw [tell_events, errors_append]
      exact List.append_nil _

theorem finish_calm (unfailing : Unfailing world) (side : Side) :
    errors (world.finish side).events = errors world.events := by
  have emitted : errors ((world.lane side).emitted .finish) = [] := by
    have phase := (unfailing.lane side).phase
    cases before : (world.lane side).phase with
    | stopped listener failure =>
      rw [before] at phase
      have closed : (world.lane side).handle = .closed := phase
      simp only [Lane.emitted, before, closed, errors_of_exit]
      cases failure <;> rfl
    | _ => simp [Lane.emitted, before, errors]
  have told : errors (world.events ++ (world.lane side).emitted .finish) =
      errors world.events := by
    rw [errors_append, emitted, List.append_nil]
  simp only [finish]
  split
  · rw [settleCall_events, tidy_calm, act_events]
    exact told
  · rw [act_events]
    exact told

theorem startup_calm (world : World) (side : Side) :
    errors (world.startup side).events = [] := by
  cases side with
  | primary => exact Startup.primary_calm world.options (world.environment .primary)
  | redirector =>
    exact (Startup.redirector_quiet world.options (world.environment .redirector)).calm

theorem start_calm (world : World) (side : Side) :
    errors (world.start side).events = errors world.events := by
  have told := world.startup_calm side
  simp only [start]
  cases side with
  | primary =>
    rw [settleCall_events]
    simp [errors_append, told]
  | redirector =>
    generalize world.startup .redirector = began at told
    simp [errors_append, told]

theorem apply_calm (unfailing : Unfailing world) (own : move ≠ .report) :
    errors (world.apply move).events = errors world.events := by
  cases move with
  | launch what =>
    cases what with
    | primary | redirector => rfl
    | listenAndServe =>
      cases enabled : world.options.redirectHttpToHttps with
      | true => rw [apply, launch_enabled enabled]; rfl
      | false => rw [apply, launch_disabled enabled]; rfl
  | touch touch => rw [apply, act_events]
  | start side => exact start_calm world side
  | publish side | stop side failure => rw [apply, act_events]
  | finish side => exact finish_calm unfailing side
  | report => exact absurd rfl own
  | observe =>
    simp only [apply, observe]
    split
    · rw [act_events]
    · rw [act_events]
    · rfl
  | abort reason => rfl
  | receive signal =>
    rw [apply, tell_events, errors_append]
    cases signal <;> exact List.append_nil _
  | closeNext =>
    simp only [apply]
    split
    · rw [act_events]
    · rfl

theorem issues_kept (world : World) (move : Move) (item : Issuance) :
    (world.apply move).Issues item ↔ world.Issues item := by
  rw [Issues, Issues, apply_options, apply_network]

theorem later_mem {items : List Issuance} (present : item ∈ Issuance.later items) :
    item ∈ items := by
  unfold Issuance.later at present
  split at present
  · cases present
  · cases present
  · exact List.mem_cons_of_mem _ present

theorem events_preserved (unfailing : Unfailing world) (move : Move) :
    ∀ event ∈ errors (world.apply move).events, (world.apply move).Troubles event := by
  intro event present
  simp only [Troubles, issues_kept]
  by_cases own : move = .report
  · subst own
    rw [apply, tell_events, errors_append] at present
    rcases List.mem_append.mp present with before | told
    · exact unfailing.events event before
    · obtain ⟨issued, error⟩ := List.mem_filter.mp told
      obtain ⟨item, first, rfl⟩ := List.mem_map.mp issued
      cases item with
      | failure text => exact ⟨text, unfailing.background _ (List.mem_of_mem_take first), rfl⟩
      | step | ended => cases error
  · rw [apply_calm unfailing own] at present
    exact unfailing.events event present

theorem background_preserved (unfailing : Unfailing world) (move : Move) :
    ∀ item ∈ (world.apply move).background, (world.apply move).Issues item := by
  intro item present
  rw [issues_kept]
  rw [(world.apply_rest move).1] at present
  split at present
  · have issued := Startup.primary_issues present
    unfold environment at issued
    split at issued <;> exact issued
  · exact unfailing.background item (later_mem present)
  · exact unfailing.background item present

theorem unfailing_preserved (unfailing : Unfailing world) (allowed : world.allowed move = true)
    (quiet : world.undisturbed move = true) : Unfailing (world.apply move) where
  lane := lane_unfailing unfailing allowed quiet
  interrupting := interrupting_preserved unfailing.interrupting allowed
  events := events_preserved unfailing move
  background := background_preserved unfailing move

end World

end WebListener.Lifecycle
