import WebListener.Proofs.Kernel.SocketFiles
import WebListener.Proofs.Lifecycle.Results
import WebListener.Proofs.Lifecycle.Starts
-- The file of the primary listener's local socket, from the bind to what the call leaves behind.
-- Only a listener that comes to its own end takes its file away; one that is dropped because the
-- redirector failed does not.
namespace WebListener.Lifecycle

open Config (Options)
open Kernel (FileTree Node Path)
open Kernel.FileTree (isAbstract)
open Net (Network)

namespace Phase

def left : Phase → Option Node
  | .exited .. => none
  | _ => some .socket

variable {phase : Phase} {listener : Bound}

theorem left_live (live : phase.isLive = true) : phase.left = some .socket := by
  cases phase <;> first | rfl | cases live

end Phase

theorem Lane.Follows.left_kept {lane : Lane} {action : Lane.Action} {phase : Phase}
    (step : lane.Follows action phase) (notBind : ∀ outcome, action ≠ .bind outcome)
    (notFinish : action ≠ .finish) : phase.listener? = lane.phase.listener? ∧
      (phase.listener? ≠ none → phase.left = lane.phase.left) := by
  cases step with
  | publishClose | signalClose => exact ⟨rfl, fun _ => rfl⟩
  | launch before =>
    rw [before]
    exact ⟨rfl, fun bound => absurd rfl bound⟩
  | refuse | bind => exact absurd rfl (notBind _)
  | finish => exact absurd rfl notFinish
  | publish before | stop before =>
    rw [before]
    exact ⟨rfl, fun _ => rfl⟩
  | drop live | abort live => exact ⟨rfl, fun _ => (Phase.left_live live).symm⟩

namespace World

variable {world last : World} {move : Move} {moves : List Move} {files : FileTree} {path : Path}

inductive SocketKept (files : FileTree) (path : Path) (world : World) : Prop where
  | unbound (none : world.primary.phase.listener? = none) (same : world.files = files)
  | bound {placed : FileTree}
      (held : world.primary.phase.listener? = some ⟨Startup.httpLabel, .unix path⟩)
      (granted : files.bindSocket path = .ok placed)
      (file : isAbstract path = false → ∃ place, files.locate path = .ok place ∧
        world.files.Leads path place world.primary.phase.left ∧
        world.files.denial = files.denial)

theorem start_kept (kept : SocketKept files path world) (ready : world.primary.phase = .ready)
    (chosen : Startup.socketPath? world.options = some path) :
    SocketKept files path (world.start .primary) := by
  cases kept with
  | bound held =>
    rw [ready] at held
    cases held
  | unbound _ same =>
    obtain ⟨own, -, -⟩ := start_primary world
    have started := start_files world
    rw [startup, Startup.primary_socket chosen] at own started
    have here : (world.environment .primary).files = files :=
      (environment_files world .primary).trans same
    cases outcome : (Startup.unix (world.environment .primary) path).outcome with
    | error error =>
      refine .unbound (by rw [own, outcome]; rfl) ?_
      rw [started, (Startup.unix_refused outcome).2, here]
    | ok listener =>
      obtain ⟨rfl, granted⟩ := Startup.unix_bound outcome
      rw [here] at granted
      refine .bound (by rw [own, outcome]; rfl) granted fun named => ?_
      obtain ⟨-, place, leads, -, placed⟩ := Kernel.FileTree.bindSocket_parts named granted
      rw [started, placed, own, outcome]
      exact ⟨place, leads.located, Kernel.FileTree.put_leads leads, rfl⟩

theorem finish_kept (kept : SocketKept files path world) (removable : files.Removable path)
    (allowed : world.primary.allowed .finish = true) :
    SocketKept files path (world.finish .primary) := by
  obtain ⟨own, -, -⟩ := finish_primary world allowed
  cases phase : world.primary.phase <;> simp [Lane.allowed, phase] at allowed
  rename_i listener failure
  cases kept with
  | unbound none =>
    rw [phase] at none
    cases none
  | bound held granted file =>
    rw [phase] at held file
    cases held
    have exited : (world.finish .primary).primary.phase = .exited ⟨Startup.httpLabel, .unix path⟩
        (classify failure world.primary.handle.isClosed) := by
      rw [own]
      simp [Lane.apply, phase]
    refine .bound (by rw [exited]; rfl) granted fun named => ?_
    obtain ⟨place, located, leads, same⟩ := file named
    have free : world.files.denial .remove place = none := by
      rw [same]
      exact removable place located
    obtain ⟨after, removed, vacant, kept⟩ := Kernel.FileTree.remove_leads leads free
    have placed : (world.finish .primary).files = after := by
      simp only [finish, lane, phase, Phase.listener?, settleCall_files, tidy]
      rw [act_files, show (world.tell _).files = world.files from rfl, removed]
    rw [placed, exited]
    exact ⟨place, located, vacant, kept.trans same⟩

theorem socket_preserved (kept : SocketKept files path world) (removable : files.Removable path)
    (chosen : Startup.socketPath? world.options = some path) (allowed : world.allowed move = true) :
    SocketKept files path (world.apply move) := by
  by_cases starts : move = .start .primary
  · subst starts
    simp only [World.allowed, Bool.and_eq_true, beq_iff_eq] at allowed
    exact start_kept kept allowed.2 chosen
  by_cases finishes : move = .finish .primary
  · subst finishes
    simp only [World.allowed, Bool.and_eq_true] at allowed
    exact finish_kept kept removable allowed.2
  -- Between the two the file stays, and what the listener holds follows its phase.
  have unmoved : (world.apply move).files = world.files := apply_files starts finishes
  have follows : (world.apply move).primary.phase.listener? = world.primary.phase.listener? ∧
      ((world.apply move).primary.phase.listener? ≠ none →
        (world.apply move).primary.phase.left = world.primary.phase.left) := by
    rcases phase_cases allowed .primary with same | ⟨action, step, follows⟩
    · simp only [lane] at same
      rw [same]
      exact ⟨rfl, fun _ => rfl⟩
    · have source := step_source step
      refine follows.left_kept ?_ ?_
      · intro outcome same
        subst same
        exact starts source.1
      · intro same
        subst same
        exact finishes source
  obtain ⟨listener, left⟩ := follows
  cases kept with
  | unbound none same => exact .unbound (listener.trans none) (unmoved.trans same)
  | bound held granted file =>
    refine .bound (listener.trans held) granted fun named => ?_
    rw [unmoved, left (by simp [listener, held])]
    exact file named

theorem run_socket (kept : SocketKept files path world) (removable : files.Removable path)
    (chosen : Startup.socketPath? world.options = some path) (ran : world.run moves = some last) :
    SocketKept files path last := by
  have along := run_preserves
    (fun later => later.options = world.options ∧ SocketKept files path later)
    (fun later move _ holds allowed => ⟨(apply_options later move).trans holds.1,
      socket_preserved holds.2 removable (by rw [holds.1]; exact chosen) allowed⟩)
    ⟨rfl, kept⟩ ran
  exact along.2

theorem SocketKept.stands_iff (kept : SocketKept files path world)
    (bound : world.primary.phase.listener? ≠ none) :
    world.files.holds path = true ↔
      isAbstract path = false ∧ world.primary.phase.left = some .socket := by
  cases kept with
  | unbound none => exact absurd none bound
  | bound held granted file =>
    cases named : isAbstract path with
    | true => simp [Kernel.FileTree.abstract_unheld named]
    | false =>
      obtain ⟨place, -, leads, -⟩ := file named
      rw [leads.holds_iff]
      cases world.primary.phase <;> simp [Phase.left]

theorem SocketKept.rebind (kept : SocketKept files path world)
    (bound : world.primary.phase.listener? ≠ none) (network : Network) :
    (Startup.unix ⟨world.files, network⟩ path).outcome =
      if world.files.holds path then .error (.bind "unix" path (.os Kernel.Errno.addressInUse))
      else .ok ⟨Startup.httpLabel, .unix path⟩ := by
  cases kept with
  | unbound none => exact absurd none bound
  | bound held granted file =>
    unfold Startup.unix
    dsimp only
    cases named : isAbstract path with
    | true =>
      rw [Kernel.FileTree.abstract_bindSocket named granted, Kernel.FileTree.abstract_unheld named]
      rfl
    | false =>
      obtain ⟨place, located, leads, denial⟩ := file named
      obtain ⟨fit, earlier, vacant, free, -⟩ := Kernel.FileTree.bindSocket_parts named granted
      obtain rfl : place = earlier := Except.ok.inj (located.symm.trans vacant.located)
      have still : world.files.granted .bind place = .ok () := by
        rw [Kernel.FileTree.granted_iff, denial]
        exact free
      have holds := leads.holds_iff
      rw [fit.bindSocket leads]
      cases left : world.primary.phase.left with
      | none =>
        have gone : world.files.holds path = false := by simpa [left] using holds
        simp [still, gone, Except.map]
      | some node =>
        have there : world.files.holds path = true := by simpa [left] using holds
        simp [there, Startup.refused]

end World

def OfRedirector (ending : Ending) : Prop :=
  (∃ error, ending = .error (.redirector error)) ∨
    ∃ reason, ending = .error (.redirectorTask reason)

theorem ended_left {phase : Phase} (ended : endingOf .primary phase = some ending)
    (bound : phase.listener? ≠ none) : phase.left = none ∧ ¬OfRedirector ending := by
  cases phase with
  | refused => exact absurd rfl bound
  | exited listener exit =>
    cases ended
    refine ⟨rfl, ?_⟩
    rintro (⟨error, same⟩ | ⟨reason, same⟩) <;> cases same
  | absent | ready | bound | serving | stopped | dropped | aborted => cases ended

namespace World

variable {world : World} {ending : Ending}

theorem Alone.left_iff (alone : Alone world) (returned : world.result? = some ending)
    (bound : world.primary.phase.listener? ≠ none) :
    world.primary.phase.left = some .socket ↔ OfRedirector ending := by
  rw [alone.result] at returned
  obtain ⟨gone, other⟩ := ended_left returned bound
  simp [gone, other]

theorem Joint.left_iff (joint : Joint world) (returned : world.result? = some ending)
    (bound : world.primary.phase.listener? ≠ none) :
    world.primary.phase.left = some .socket ↔ OfRedirector ending := by
  have call := result_exact.mp returned
  cases joint with
  | both before | alone before => rw [before] at call; cases call
  | settled before ended =>
    rw [before] at call
    cases call
    obtain ⟨gone, other⟩ := ended_left ended bound
    simp [gone, other]
  | failed before dropped =>
    rw [before] at call
    cases call
    rw [dropped]
    exact ⟨fun _ => .inl ⟨_, rfl⟩, fun _ => rfl⟩
  | aborted before dropped =>
    rw [before] at call
    cases call
    rw [dropped]
    exact ⟨fun _ => .inr ⟨_, rfl⟩, fun _ => rfl⟩

end World

-- When a call whose listener was bound to a local socket has returned, the socket's file is left
-- behind exactly where the call returned over the redirector; and exactly then the next listener at
-- that path is refused.
theorem socket_left_behind_iff {options : Options} {files : FileTree} {network : Network}
    {path : Path} (chosen : Startup.socketPath? options = some path)
    (removable : files.Removable path)
    (ran : (World.initial options files network).run
      (before ++ .launch .listenAndServe :: after) = some world)
    (returned : world.result? = some ending) (bound : world.primary.phase.listener? ≠ none) :
    (world.files.holds path = true ↔ isAbstract path = false ∧ OfRedirector ending) ∧
      ∀ later other, Startup.socketPath? later = some path →
        (Startup.primary later ⟨world.files, other⟩).outcome =
          if world.files.holds path then .error (.bind "unix" path (.os Kernel.Errno.addressInUse))
          else .ok ⟨"HTTP", .unix path⟩ := by
  have kept : World.SocketKept files path world :=
    World.run_socket (.unbound rfl rfl) removable chosen ran
  obtain ⟨middle, next, reach, step, rest⟩ := World.run_split.mp ran
  obtain ⟨-, rfl⟩ := World.execute_exact.mp step
  have left : world.primary.phase.left = some .socket ↔ OfRedirector ending := by
    cases enabled : middle.options.redirectHttpToHttps with
    | true => exact (World.run_joint (World.launch_joint enabled) rest).left_iff returned bound
    | false =>
      have alone := World.launch_alone middle
      rw [← World.launch_disabled enabled] at alone
      exact (World.run_alone alone rest).left_iff returned bound
  refine ⟨(kept.stands_iff bound).trans (and_congr_right fun _ => left), ?_⟩
  intro later other same
  rw [Startup.primary_socket same]
  exact kept.rebind bound other

def besideRedirector : Options :=
  { Options.standard with httpAddress := "unix:///run/web.sock", redirectHttpToHttps := true }

def withRun : FileTree := .ofLists ["/run"] []

theorem closed_socket_reusable : ∃ world,
    (World.initial besideRedirector withRun .isolated).run
      ([] ++ .launch .listenAndServe :: [.start .primary, .publish .primary, .start .redirector,
        .publish .redirector, .touch (.publish .primary), .stop .primary none,
        .finish .primary]) = some world ∧
      world.result? = some (.ok .closed) ∧ world.files.holds "/run/web.sock" = false ∧
      (Startup.primary besideRedirector ⟨world.files, .isolated⟩).outcome =
        .ok ⟨"HTTP", .unix "/run/web.sock"⟩ := by
  obtain ⟨world, ran, returned, bound⟩ : ∃ world,
      (World.initial besideRedirector withRun .isolated).run
        ([] ++ .launch .listenAndServe :: [.start .primary, .publish .primary, .start .redirector,
          .publish .redirector, .touch (.publish .primary), .stop .primary none,
          .finish .primary]) = some world ∧
        world.result? = some (.ok .closed) ∧
        world.primary.phase.listener? = some ⟨"HTTP", .unix "/run/web.sock"⟩ := ⟨_, rfl, rfl, rfl⟩
  have chosen : Startup.socketPath? besideRedirector = some "/run/web.sock" := rfl
  have removable : withRun.Removable "/run/web.sock" := fun _ _ => rfl
  obtain ⟨left, again⟩ := socket_left_behind_iff chosen removable ran returned (by simp [bound])
  have gone : world.files.holds "/run/web.sock" = false := by
    simpa [OfRedirector] using left
  have granted := again besideRedirector .isolated chosen
  rw [gone] at granted
  exact ⟨world, ran, returned, gone, granted⟩

theorem redirector_failure_leaves_socket : ∃ world,
    (World.initial besideRedirector withRun lowPortsDenied).run
      ([] ++ .launch .listenAndServe ::
        [.start .primary, .publish .primary, .start .redirector, .observe]) = some world ∧
      world.result? = some (.error (.redirector
        (.bind "tcp" ":80" (.os Kernel.Errno.permissionDenied)))) ∧
      world.primary.phase.listener? = some ⟨"HTTP", .unix "/run/web.sock"⟩ ∧
      world.files.holds "/run/web.sock" = true ∧
      (Startup.primary besideRedirector ⟨world.files, lowPortsDenied⟩).outcome =
        .error (.bind "unix" "/run/web.sock" (.os Kernel.Errno.addressInUse)) := by
  obtain ⟨world, ran, returned, bound, files⟩ : ∃ world,
      (World.initial besideRedirector withRun lowPortsDenied).run
        ([] ++ .launch .listenAndServe ::
          [.start .primary, .publish .primary, .start .redirector, .observe]) = some world ∧
        world.result? = some (.error (.redirector
          (.bind "tcp" ":80" (.os Kernel.Errno.permissionDenied)))) ∧
        world.primary.phase.listener? = some ⟨"HTTP", .unix "/run/web.sock"⟩ ∧
        world.files = withRun.put ["run", "web.sock"] .socket := ⟨_, rfl, rfl, rfl, rfl⟩
  refine ⟨world, ran, returned, bound, ?_, ?_⟩
  · rw [files]
    rfl
  · rw [files]
    rfl

end WebListener.Lifecycle
