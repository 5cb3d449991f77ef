import WebListener.Proofs.Lifecycle.Publishing
-- HTTPS needs its certificate, or the directory for one, before it needs a socket. What is wrong
-- with that is reported whatever the address is and whatever the network would have answered.
namespace WebListener.Lifecycle

open Config (Options given)
open Kernel (FileTree Path)
open Net (Network)

namespace Startup

def shownPath (path : Option Path) : String :=
  if path = none ∨ path = some "" then "<unset>" else path.getD ""

variable {options : Options} {files : FileTree} {error : ListenerError}

-- What keeps an HTTPS listener from having its material, with the error that says so.
inductive Unusable (options : Options) (files : FileTree) : ListenerError → Prop where
  | pair (manual : options.letsencryptEnabled = false)
      (faulty : Tls.Material.load files (given options.tlsCertFile) (given options.tlsKeyFile) =
        .error fault) :
      Unusable options files
        (.certificate (given options.tlsCertFile) (given options.tlsKeyFile) fault)
  | cache (automatic : options.letsencryptEnabled = true)
      (stopped : (files.makeDirectories options.letsencryptCacheDir).failure = some cause) :
      Unusable options files (.acmeCache options.letsencryptCacheDir cause)

def Usable (options : Options) (files : FileTree) : Prop :=
  if options.letsencryptEnabled then
    (files.makeDirectories options.letsencryptCacheDir).failure = none
  else ∃ material,
    Tls.Material.load files (given options.tlsCertFile) (given options.tlsKeyFile) = .ok material

theorem usable_or (options : Options) (files : FileTree) :
    Usable options files ∨ ∃ error, Unusable options files error := by
  cases enabled : options.letsencryptEnabled with
  | true =>
    cases failure : (files.makeDirectories options.letsencryptCacheDir).failure with
    | none => exact .inl (by simpa [Usable, enabled] using failure)
    | some cause => exact .inr ⟨_, .cache enabled failure⟩
  | false =>
    cases loaded :
        Tls.Material.load files (given options.tlsCertFile) (given options.tlsKeyFile) with
    | ok material => exact .inl (by simp [Usable, enabled, loaded])
    | error fault => exact .inr ⟨_, .pair enabled loaded⟩

theorem primary_unusable (mode : options.listenMode = .https)
    (unusable : Unusable options files error) (network : Network) :
    (primary options ⟨files, network⟩).outcome = .error error := by
  unfold primary https Options.certificateSource
  rw [mode]
  cases unusable with
  | pair manual faulty =>
    simp only [manual, Bool.false_eq_true, if_false, after_outcome, static, faulty]
    rfl
  | cache automatic stopped =>
    simp only [automatic, if_true, after_outcome, Startup.automatic, stopped]
    rfl

theorem primary_unasked (mode : options.listenMode = .https)
    (unusable : Unusable options files error) (address : String) (network other : Network) :
    primary { options with httpsAddress := address } ⟨files, network⟩ =
      primary options ⟨files, other⟩ := by
  have same : ({ options with httpsAddress := address } : Options).listenMode = .https := mode
  unfold primary https Options.certificateSource
  rw [mode, same]
  cases unusable with
  | pair manual faulty =>
    simp only [manual, Bool.false_eq_true, if_false, static, faulty, Options.staticPathsIgnored]
    rfl
  | cache automatic stopped =>
    simp only [automatic, if_true, Startup.automatic, stopped, Options.staticPathsIgnored]
    rfl

theorem given_none_iff {path : Option Path} : given path = none ↔ path = none ∨ path = some "" := by
  cases path with
  | none => simp [given]
  | some text => simp [given, Option.filter]

theorem given_some {path : Path} (named : path ≠ "") : given (some path) = some path := by
  simp [given, Option.filter, named]

theorem pathText_given (path : Option Path) :
    ListenerError.pathText (given path) = shownPath path := by
  by_cases unset : path = none ∨ path = some ""
  · rw [given_none_iff.mpr unset, shownPath, if_pos unset]
    rfl
  · cases path with
    | none => exact absurd (.inl rfl) unset
    | some text =>
      have named : text ≠ "" := fun same => unset (.inr (congrArg some same))
      rw [given_some named, shownPath, if_neg unset]
      rfl

theorem certificate_message (options : Options) (fault : Tls.MaterialFault) :
    (ListenerError.certificate (given options.tlsCertFile) (given options.tlsKeyFile)
        fault).message =
      "loading tls config (" ++ shownPath options.tlsCertFile ++ ", " ++
        shownPath options.tlsKeyFile ++ ") failed - " ++ fault.message := by
  rw [← pathText_given, ← pathText_given]
  rfl

theorem lone_key_message (path : Path) :
    (ListenerError.certificate none (some path) .certFileUnset).message =
      "loading tls config (<unset>, " ++ path ++ ") failed - tls-cert-file is not set" := by
  have closing : ") failed - tls-cert-file is not set" =
      ") failed - " ++ "tls-cert-file is not set" := rfl
  rw [closing, ← String.append_assoc]
  rfl

theorem lone_certificate_message (path : Path) :
    (ListenerError.certificate (some path) none .keyFileUnset).message =
      "loading tls config (" ++ path ++ ", <unset>) failed - tls-key-file is not set" := by
  have closing : ", <unset>) failed - tls-key-file is not set" =
      ", " ++ "<unset>" ++ ") failed - " ++ "tls-key-file is not set" := rfl
  simp only [closing, ← String.append_assoc]
  rfl

end Startup

namespace World

variable {world last : World} {moves : List Move} {error : ListenerError}

theorem Alone.untaken (alone : Alone world) : (world.lane .primary).phase.isTaken = false := by
  cases alone with
  | waiting call live =>
    simp only [lane]
    cases phase : world.primary.phase <;> simp [phase, Phase.isLive] at live
    all_goals rfl
  | settled call ended =>
    simp only [lane]
    cases phase : world.primary.phase <;> simp [phase, endingOf] at ended
    all_goals rfl

theorem launch_runs_alone (ran : world.run (.launch .primary :: moves) = some last) :
    Alone last := by
  obtain ⟨next, executed, rest⟩ := run_cons.mp ran
  obtain ⟨-, rfl⟩ := execute_exact.mp executed
  exact run_alone (launch_alone world) rest

theorem unstarted_ready (quiet : .start .primary ∉ moves)
    (ran : world.run (.launch .primary :: moves) = some last) :
    last.primary.phase = .ready ∧ last.call = .primaryOnly := by
  have alone := launch_runs_alone ran
  have fresh : (world.lane .primary).phase.stage ≤ 1 := launched_fresh rfl ran
  have early : (last.lane .primary).phase.stage ≤ 1 := by
    refine Nat.le_of_not_lt fun past => ?_
    obtain ⟨before, after, ready, split, -⟩ := run_starts fresh past alone.untaken ran
    have present : .start .primary ∈ .launch .primary :: moves := by simp [split]
    rcases List.mem_cons.mp present with same | present
    · cases same
    · exact quiet present
  obtain ⟨next, executed, rest⟩ := run_cons.mp ran
  obtain ⟨-, rfl⟩ := execute_exact.mp executed
  have launched : 1 ≤ (last.lane .primary).phase.stage := run_stage rest .primary
  simp only [lane] at early launched
  have ready : last.primary.phase = .ready := by
    cases phase : last.primary.phase <;> simp [phase, Phase.stage] at early launched
    rfl
  refine ⟨ready, ?_⟩
  cases alone with
  | waiting call => exact call
  | settled call ended => rw [ready] at ended; cases ended

theorem refused_result (outcome : (world.startup .primary).outcome = .error error) :
    (world.start .primary).primary.phase = .refused error ∧
      (world.start .primary).result? = some (.error error) := by
  obtain ⟨own, -, call⟩ := start_primary world
  have refused : (world.start .primary).primary.phase = .refused error := by rw [own, outcome]; rfl
  refine ⟨refused, result_exact.mpr ?_⟩
  rw [call, refused]
  rfl

structure Refused (moves : List Move) (last : World) (error : ListenerError) : Prop where
  unbound : last.primary.phase.listener? = none
  started : .start .primary ∈ moves → last.result? = some (.error error)
  waiting : .start .primary ∉ moves → last.result? = none ∧
    ∃ next, last.execute (.start .primary) = some next ∧ next.result? = some (.error error)

theorem unusable_refused (https : world.options.listenMode = .https)
    (unusable : Startup.Unusable world.options world.files error)
    (ran : world.run (.launch .primary :: moves) = some last) : Refused moves last error := by
  have alone := launch_runs_alone ran
  have decided : ∀ before ready, world.run before = some ready →
      ready.primary.phase = .ready → (ready.startup .primary).outcome = .error error := by
    intro before ready reach waiting
    have files : ready.files = world.files :=
      run_files_fresh (Nat.le_of_eq (congrArg Phase.stage waiting)) reach
    have same : ready.environment .primary =
        ⟨world.files, (ready.environment .primary).network⟩ := by
      rw [← files, ← environment_files ready .primary]
    rw [startup, same, run_options reach]
    exact Startup.primary_unusable https unusable _
  by_cases present : .start .primary ∈ moves
  · have launched := List.mem_cons_of_mem (.launch .primary) present
    obtain ⟨before, after, split⟩ := List.append_of_mem launched
    obtain ⟨ready, next, reach, executed, rest⟩ := run_split.mp (split ▸ ran)
    obtain ⟨allowed, rfl⟩ := execute_exact.mp executed
    have waiting : ready.primary.phase = .ready := by
      simp only [World.allowed, Bool.and_eq_true, beq_iff_eq] at allowed
      exact allowed.2
    obtain ⟨spent, -⟩ := refused_result (decided before ready reach waiting)
    have settled : ((ready.apply (.start .primary)).lane .primary).phase.stage = 5 :=
      congrArg Phase.stage spent
    have refused : last.primary.phase = .refused error := (run_over settled rest).trans spent
    refine ⟨by rw [refused]; rfl, fun _ => ?_, fun quiet => absurd present quiet⟩
    rw [alone.result, refused]
    rfl
  · obtain ⟨ready, call⟩ := unstarted_ready present ran
    refine ⟨by rw [ready]; rfl, fun started => absurd started present, fun _ => ?_⟩
    refine ⟨by rw [alone.result, ready]; rfl, _, execute_exact.mpr ⟨?_, rfl⟩, ?_⟩
    · simp [World.allowed, runs, call, Call.isWaiting, lane, ready]
    · exact (refused_result (decided _ last ran ready)).2

theorem bound_usable (https : world.options.listenMode = .https)
    (ran : world.run (.launch .primary :: moves) = some last)
    (asked : last.primary.phase.listener? ≠ none ∨
      ∃ network address cause, last.result? = some (.error (.bind network address cause))) :
    Startup.Usable world.options world.files := by
  rcases Startup.usable_or world.options world.files with usable | ⟨error, unusable⟩
  · exact usable
  · have refused := unusable_refused https unusable ran
    rcases asked with bound | ⟨network, address, cause, returned⟩
    · exact absurd refused.unbound bound
    · by_cases present : .start .primary ∈ moves
      · rw [refused.started present] at returned
        cases returned
        cases unusable
      · rw [(refused.waiting present).1] at returned
        cases returned

end World

-- Material before socket, for every option, every file and every network: an unusable pair or cache
-- directory is what the call returns, and nothing else decides it. Only usable material leads to
-- a bind, granted or refused.
theorem material_before_socket {world last : World} {moves : List Move}
    (https : world.options.listenMode = .https)
    (ran : world.run (.launch .primary :: moves) = some last) :
    (world.options.letsencryptEnabled = false →
      (∀ fault, Tls.Material.load world.files (given world.options.tlsCertFile)
          (given world.options.tlsKeyFile) = .error fault →
        ∃ error, World.Refused moves last error ∧
          error = .certificate (given world.options.tlsCertFile) (given world.options.tlsKeyFile)
            fault ∧
          error.message = "loading tls config (" ++ Startup.shownPath world.options.tlsCertFile ++
            ", " ++ Startup.shownPath world.options.tlsKeyFile ++ ") failed - " ++ fault.message) ∧
      ∀ path, path ≠ "" →
        (world.options.tlsCertFile = none ∨ world.options.tlsCertFile = some "" →
          world.options.tlsKeyFile = some path → ∃ error, World.Refused moves last error ∧
            error = .certificate none (some path) .certFileUnset ∧
            error.message = "loading tls config (<unset>, " ++ path ++
              ") failed - tls-cert-file is not set") ∧
        (world.options.tlsKeyFile = none ∨ world.options.tlsKeyFile = some "" →
          world.options.tlsCertFile = some path → ∃ error, World.Refused moves last error ∧
            error = .certificate (some path) none .keyFileUnset ∧
            error.message = "loading tls config (" ++ path ++
              ", <unset>) failed - tls-key-file is not set")) ∧
    (world.options.letsencryptEnabled = true →
      ∀ cause,
        (world.files.makeDirectories world.options.letsencryptCacheDir).failure = some cause →
        World.Refused moves last (.acmeCache world.options.letsencryptCacheDir cause)) ∧
    (¬Startup.Usable world.options world.files → ∀ address network other,
      Startup.primary { world.options with httpsAddress := address } ⟨world.files, network⟩ =
        Startup.primary world.options ⟨world.files, other⟩) ∧
    (last.primary.phase.listener? ≠ none ∨
        (∃ network address cause, last.result? = some (.error (.bind network address cause))) →
      Startup.Usable world.options world.files) := by
  refine ⟨?_, ?_, ?_, ?_⟩
  · intro manual
    have pair : ∀ fault, Tls.Material.load world.files (given world.options.tlsCertFile)
        (given world.options.tlsKeyFile) = .error fault → World.Refused moves last _ :=
      fun fault faulty => World.unusable_refused https (.pair manual faulty) ran
    refine ⟨?_, ?_⟩
    · intro fault faulty
      exact ⟨_, pair fault faulty, rfl, Startup.certificate_message _ fault⟩
    · intro path named
      have set := Startup.given_some named
      refine ⟨?_, ?_⟩
      · intro unset key
        have refused := pair .certFileUnset (by rw [Startup.given_none_iff.mpr unset]; rfl)
        rw [Startup.given_none_iff.mpr unset, key, set] at refused
        exact ⟨_, refused, rfl, Startup.lone_key_message path⟩
      · intro unset cert
        have refused := pair .keyFileUnset
          (by rw [Startup.given_none_iff.mpr unset, cert, set]; rfl)
        rw [Startup.given_none_iff.mpr unset, cert, set] at refused
        exact ⟨_, refused, rfl, Startup.lone_certificate_message path⟩
  · intro automatic cause stopped
    exact World.unusable_refused https (.cache automatic stopped) ran
  · intro unusable address network other
    rcases Startup.usable_or world.options world.files with usable | ⟨error, why⟩
    · exact absurd usable unusable
    · exact Startup.primary_unasked https why address network other
  · exact World.bound_usable https ran

def loneKey : Options :=
  { Options.standard with
    httpsAddress := "nowhere", tlsCertFile := some "", tlsKeyFile := some "/etc/tls/key.pem" }

def deniedCache : Options :=
  { Options.standard with
    httpsAddress := "nowhere", letsencryptEnabled := true,
    letsencryptCacheDir := "/var/cache/acme" }

def guardedVar : FileTree :=
  (FileTree.ofLists ["/var"] []).denying .makeDirectory "/var/cache"
    (.os Kernel.Errno.permissionDenied)

theorem malformed_address_unseen : ∃ lone denied,
    (World.initial loneKey .empty .isolated).run [.launch .primary, .start .primary] = some lone ∧
      lone.result? =
        some (.error (.certificate none (some "/etc/tls/key.pem") .certFileUnset)) ∧
      (World.initial deniedCache guardedVar .isolated).run
        [.launch .primary, .start .primary] = some denied ∧
      denied.result? =
        some (.error (.acmeCache "/var/cache/acme" (.os Kernel.Errno.permissionDenied))) := by
  obtain ⟨lone, first⟩ : ∃ lone, (World.initial loneKey .empty .isolated).run
      [.launch .primary, .start .primary] = some lone := ⟨_, rfl⟩
  obtain ⟨denied, second⟩ : ∃ denied, (World.initial deniedCache guardedVar .isolated).run
      [.launch .primary, .start .primary] = some denied := ⟨_, rfl⟩
  obtain ⟨-, named⟩ := (material_before_socket rfl first).1 rfl
  obtain ⟨error, refused, rfl, -⟩ := (named "/etc/tls/key.pem" (by decide)).1 (.inr rfl) rfl
  have kept := (material_before_socket rfl second).2.1 rfl (.os Kernel.Errno.permissionDenied) rfl
  exact ⟨lone, denied, first, refused.started (by decide), second, kept.started (by decide)⟩

end WebListener.Lifecycle
