import WebListener.Proofs.Lifecycle.Moves
import WebListener.Proofs.Lifecycle.Twins
-- Certificates come from one source. The settings of the other one decide nothing, and the warning
-- that they are ignored is all that is ever seen of them.
namespace WebListener.Lifecycle

open Config (Options given)
open Kernel (FileTree Path)
open Log (Event)
open Net (Issuance Network)

theorem unwarning {event : Event} (calm : (event.level == .warn) = false) :
    Startup.pathsIgnored ≠ event := by
  intro same
  rw [← same] at calm
  cases calm

namespace Startup

variable {options : Options} {world : Environment} {startup : Startup}

-- A start that tells how far it came: no error, and nothing of paths that are ignored.
def Quiet (startup : Startup) : Prop :=
  ∀ event ∈ startup.events, event ≠ pathsIgnored ∧ event.level ≠ .error

theorem Quiet.unwarned (quiet : Quiet startup) : pathsIgnored ∉ startup.events :=
  fun present => (quiet _ present).1 rfl

theorem info_quiet {event : Event} (info : event.level = .info) :
    event ≠ pathsIgnored ∧ event.level ≠ .error := by
  constructor
  · intro same
    rw [same] at info
    cases info
  · rw [info]
    exact Log.Level.noConfusion

theorem refused_quiet (world : Environment) (error : ListenerError) :
    Quiet (refused world error) := by
  simp [Quiet, refused]

theorem Quiet.after {told : List Event} (quiet : Quiet startup)
    (silent : ∀ event ∈ told, event ≠ pathsIgnored ∧ event.level ≠ .error) :
    Quiet (after told startup) := by
  intro event present
  rcases List.mem_append.mp present with first | later
  · exact silent event first
  · exact quiet event later

theorem bindTcp_quiet {listening : Net.SocketAddress → Event}
    (info : ∀ bound, (listening bound).level = .info) :
    Quiet (bindTcp world label address family listening) := by
  unfold bindTcp
  split
  · exact refused_quiet _ _
  · intro event present
    rw [List.mem_singleton.mp present]
    exact info_quiet (info _)

theorem unix_quiet (world : Environment) (path : Path) : Quiet (unix world path) := by
  unfold unix
  split
  · exact refused_quiet _ _
  · intro event present
    rw [List.mem_singleton.mp present]
    exact info_quiet rfl

theorem http_quiet (address : String) (world : Environment) : Quiet (http address world) := by
  unfold http
  split
  · exact refused_quiet _ _
  · split
    · exact refused_quiet _ _
    · exact unix_quiet _ _
    · exact bindTcp_quiet fun _ => rfl

theorem bindHttps_quiet (address : String) (world : Environment) :
    Quiet (bindHttps address world) := by
  unfold bindHttps
  exact bindTcp_quiet fun _ => rfl

theorem automatic_quiet (settings : Config.AcmeSettings) (address : String) (world : Environment) :
    Quiet (automatic settings address world) := by
  have configured := info_quiet (show (configuring settings).level = .info from rfl)
  have staged : stagingWarning ≠ pathsIgnored ∧ stagingWarning.level ≠ .error := by decide
  unfold automatic
  refine Quiet.after ?_ ?_
  · generalize world.files.makeDirectories settings.cacheDir = cache
    cases cache.failure with
    | some cause => exact refused_quiet _ _
    | none =>
      dsimp only
      rw [Quiet, (attended_parts _ _).2]
      exact bindHttps_quiet address _
  · cases settings.production <;> simp [configured, staged]

theorem https_quiet (options : Options) (world : Environment) : Quiet (https options world) := by
  unfold https
  split
  · unfold static
    split
    · exact refused_quiet _ _
    · exact bindHttps_quiet _ _
  · exact automatic_quiet _ _ _

theorem redirector_quiet (options : Options) (world : Environment) :
    Quiet (redirector options world) := by
  unfold redirector
  exact bindTcp_quiet fun _ => rfl

theorem primary_warns_iff (options : Options) (world : Environment) :
    pathsIgnored ∈ (primary options world).events ↔ options.staticPathsIgnored = true := by
  unfold primary
  cases mode : options.listenMode with
  | http =>
    have quiet := (http_quiet options.httpAddress world).unwarned
    have unset : options.staticPathsIgnored = false := by
      unfold Options.listenMode at mode
      split at mode
      · cases mode
      · rename_i none
        simp only [Bool.or_eq_true, not_or, Bool.not_eq_true] at none
        simp [Options.staticPathsIgnored, none]
    simp [quiet, unset]
  | https =>
    have quiet := (https_quiet options world).unwarned
    cases ignored : options.staticPathsIgnored <;> simp [after, quiet]

end Startup

namespace World

variable {world last : World} {move : Move} {moves : List Move}

@[simp] theorem act_events (world : World) (side : Side) (action : Lane.Action) :
    (world.act side action).events = world.events := by
  cases side <;> rfl

@[simp] theorem settleCall_events (world : World) : world.settleCall.events = world.events := by
  unfold settleCall
  split <;> rfl

@[simp] theorem tell_events (world : World) (events : List Event) :
    (world.tell events).events = world.events ++ events := rfl

theorem tidy_warned (world : World) (address : Net.BoundAddress) :
    Startup.pathsIgnored ∈ (world.tidy address).events ↔ Startup.pathsIgnored ∈ world.events := by
  unfold tidy
  split
  · rfl
  · split
    · rfl
    · rename_i path _ cause _
      have other : Startup.pathsIgnored ≠ removeFailed path cause := unwarning rfl
      simp [other]

theorem emitted_unwarned (lane : Lane) : Startup.pathsIgnored ∉ lane.emitted .finish := by
  have failed (label : String) (cause : Kernel.IoError) :
      Startup.pathsIgnored ≠ serveFailed label cause := unwarning rfl
  have closed (label bound : String) : Startup.pathsIgnored ≠ closing label bound :=
    unwarning rfl
  simp only [Lane.emitted]
  cases lane.phase with
  | stopped listener failure =>
    dsimp only
    cases classify failure lane.handle.isClosed <;> simp [Exit.events, failed, closed]
  | _ => simp

theorem finish_warned (world : World) (side : Side) :
    Startup.pathsIgnored ∈ (world.finish side).events ↔ Startup.pathsIgnored ∈ world.events := by
  have quiet := emitted_unwarned (world.lane side)
  unfold finish
  dsimp only
  split
  · rw [settleCall_events, tidy_warned]
    simp [quiet]
  · simp [quiet]

theorem start_warned (world : World) (side : Side) :
    Startup.pathsIgnored ∈ (world.start side).events ↔ Startup.pathsIgnored ∈ world.events ∨
      side = .primary ∧ world.options.staticPathsIgnored = true := by
  unfold start
  dsimp only
  cases side with
  | primary =>
    have warns := Startup.primary_warns_iff world.options (world.environment .primary)
    simp [startup, warns]
  | redirector =>
    have quiet :=
      (Startup.redirector_quiet world.options (world.environment .redirector)).unwarned
    simp [startup, quiet]

theorem issued_unwarned (items : List Issuance) :
    Startup.pathsIgnored ∉ items.map Issuance.event := by
  simp only [List.mem_map, not_exists, not_and]
  intro item _ same
  cases item <;> exact unwarning rfl same.symm

theorem apply_warned (world : World) (move : Move) :
    Startup.pathsIgnored ∈ (world.apply move).events ↔ Startup.pathsIgnored ∈ world.events ∨
      move = .start .primary ∧ world.options.staticPathsIgnored = true := by
  cases move with
  | launch what =>
    cases what with
    | primary | redirector => simp [apply, launch]
    | listenAndServe =>
      cases enabled : world.options.redirectHttpToHttps <;> simp [apply, launch, enabled]
  | touch touch => simp [apply]
  | start side => simpa [apply] using start_warned world side
  | publish side | stop side failure => simp [apply]
  | finish side => simpa [apply] using finish_warned world side
  | report =>
    have quiet := issued_unwarned (world.background.take 1)
    rw [apply]
    simp only [tell_events, List.mem_append, quiet]
    simp
  | observe =>
    simp only [apply, observe]
    split <;> simp
  | abort reason => simp [apply]
  | receive signal =>
    have other : Startup.pathsIgnored ≠ signal.received := by cases signal <;> exact unwarning rfl
    simp [apply, other]
  | closeNext =>
    simp only [apply]
    split <;> simp

theorem run_warned (ran : world.run moves = some last) :
    Startup.pathsIgnored ∈ last.events ↔ Startup.pathsIgnored ∈ world.events ∨
      .start .primary ∈ moves ∧ world.options.staticPathsIgnored = true := by
  induction moves generalizing world with
  | nil => cases ran; simp
  | cons move rest ih =>
    obtain ⟨next, step, ran⟩ := run_cons.mp ran
    obtain ⟨-, rfl⟩ := execute_exact.mp step
    rw [ih ran, apply_warned, apply_options, List.mem_cons]
    constructor
    · rintro ((told | ⟨rfl, ignored⟩) | ⟨later, ignored⟩)
      · exact .inl told
      · exact .inr ⟨.inl rfl, ignored⟩
      · exact .inr ⟨.inr later, ignored⟩
    · rintro (told | ⟨same | later, ignored⟩)
      · exact .inl (.inl told)
      · exact .inl (.inr ⟨same.symm, ignored⟩)
      · exact .inr ⟨later, ignored⟩

end World

namespace Alike

variable {options other : Options}

theorem ofPaths (enabled : options.letsencryptEnabled = true) (certFile keyFile : Option Path) :
    Alike options { options with tlsCertFile := certFile, tlsKeyFile := keyFile } where
  mode := by simp [Options.listenMode, enabled]
  source := by simp [Options.certificateSource, enabled]
  httpAddress := rfl
  httpsAddress := rfl
  redirectorAddress := rfl
  redirect := rfl

theorem ofIssuance (disabled : options.letsencryptEnabled = false)
    (sameCert : SamePath options.tlsCertFile certFile)
    (sameKey : SamePath options.tlsKeyFile keyFile)
    (cacheDir : Path) (hosts : List String) (email : Option String) (staging : Bool) :
    Alike options { options with
      tlsCertFile := certFile, tlsKeyFile := keyFile, letsencryptCacheDir := cacheDir,
      letsencryptHosts := hosts, letsencryptAdminEmail := email,
      letsencryptStaging := staging } where
  mode := by simp [Options.listenMode, sameCert.given, sameKey.given]
  source := by simp [Options.certificateSource, disabled, sameCert.given, sameKey.given]
  httpAddress := rfl
  httpsAddress := rfl
  redirectorAddress := rfl
  redirect := rfl

theorem twin (alike : Alike options other) (world : World) :
    Twin { world with options := options } { world with options := other } :=
  ⟨alike, rfl, rfl, rfl, rfl, rfl, rfl, rfl, rfl⟩

end Alike

-- In whatever state the world is and in whatever order things happen, the options choose the same
-- listener and the calls return the same; worlds part only in the options and in the warning.
structure Indistinct (options other : Options) : Prop where
  mode : options.listenMode = other.listenMode
  source : options.certificateSource = other.certificateSource
  port : options.httpsPort = other.httpsPort
  outcome : ∀ (world : World) moves,
    (World.run { world with options := options } moves).map World.result? =
      (World.run { world with options := other } moves).map World.result?
  run : ∀ (world : World) moves,
    Option.Rel Twin (World.run { world with options := options } moves)
      (World.run { world with options := other } moves)

theorem Alike.indistinct {options other : Options} (alike : Alike options other) :
    Indistinct options other where
  mode := alike.mode
  source := alike.source
  port := alike.port
  run := fun world moves => (alike.twin world).run moves
  outcome := by
    intro world moves
    have twins := (alike.twin world).run moves
    generalize World.run { world with options := options } moves = one at twins
    generalize World.run { world with options := other } moves = two at twins
    cases twins with
    | none => rfl
    | some twin => simp [twin.result]

theorem given_isSome_iff {path : Option Path} :
    (given path).isSome = true ↔ ∃ text, text ≠ "" ∧ path = some text := by
  cases path with
  | none => simp [given]
  | some text => simp [given, Option.filter]

theorem https_iff_source (options : Options) :
    options.listenMode = .https ↔
      (∃ settings, options.certificateSource = .automatic settings) ∨
      ∃ certFile keyFile, options.certificateSource = .static certFile keyFile ∧
        (certFile ≠ none ∨ keyFile ≠ none) := by
  cases enabled : options.letsencryptEnabled with
  | true => simp [Options.listenMode, Options.certificateSource, enabled]
  | false =>
    have source : options.certificateSource =
        .static (given options.tlsCertFile) (given options.tlsKeyFile) := by
      simp [Options.certificateSource, enabled]
    have selected : options.listenMode = .https ↔
        given options.tlsCertFile ≠ none ∨ given options.tlsKeyFile ≠ none := by
      cases cert : given options.tlsCertFile <;> cases key : given options.tlsKeyFile <;>
        simp [Options.listenMode, enabled, cert, key]
    rw [selected, source]
    constructor
    · intro present
      exact .inr ⟨_, _, rfl, present⟩
    · rintro (⟨settings, automatic⟩ | ⟨certFile, keyFile, same, present⟩)
      · cases automatic
      · cases same
        exact present

-- At most one source of certificates means anything: with automatic issuance on, the two paths only
-- decide whether the server says that it ignores them, and with it off its settings decide nothing
-- and neither does an empty path.
theorem one_source_decides (options : Options) :
    (options.letsencryptEnabled = true → ∀ certFile keyFile,
      Indistinct options { options with tlsCertFile := certFile, tlsKeyFile := keyFile }) ∧
    (options.letsencryptEnabled = false → ∀ certFile keyFile cacheDir hosts email staging,
      SamePath options.tlsCertFile certFile → SamePath options.tlsKeyFile keyFile →
      Indistinct options { options with
        tlsCertFile := certFile, tlsKeyFile := keyFile, letsencryptCacheDir := cacheDir,
        letsencryptHosts := hosts, letsencryptAdminEmail := email,
        letsencryptStaging := staging }) ∧
    (∀ files network moves last, (World.initial options files network).run moves = some last →
      (Startup.pathsIgnored ∈ last.events ↔ .start .primary ∈ moves ∧
        options.letsencryptEnabled = true ∧ ∃ path, path ≠ "" ∧
          (options.tlsCertFile = some path ∨ options.tlsKeyFile = some path))) ∧
    (options.listenMode = .https ↔
      (∃ settings, options.certificateSource = .automatic settings) ∨
      ∃ certFile keyFile, options.certificateSource = .static certFile keyFile ∧
        (certFile ≠ none ∨ keyFile ≠ none)) := by
  refine ⟨?_, ?_, ?_, https_iff_source options⟩
  · intro enabled certFile keyFile
    exact (Alike.ofPaths enabled certFile keyFile).indistinct
  · intro disabled certFile keyFile cacheDir hosts email staging sameCert sameKey
    exact (Alike.ofIssuance disabled sameCert sameKey cacheDir hosts email staging).indistinct
  · intro files network moves last ran
    have ignored : options.staticPathsIgnored = true ↔ options.letsencryptEnabled = true ∧
        ∃ path, path ≠ "" ∧ (options.tlsCertFile = some path ∨ options.tlsKeyFile = some path) := by
      simp only [Options.staticPathsIgnored, Bool.and_eq_true, Bool.or_eq_true, given_isSome_iff,
        and_or_left, exists_or]
    rw [World.run_warned ran, ← ignored]
    simp [World.initial]

def ignoredCertificate : Options :=
  { Options.standard with
    letsencryptEnabled := true, letsencryptHosts := ["example.com"],
    tlsCertFile := some "cert.pem" }

theorem ignored_certificate_warned : ∃ last,
    (World.initial ignoredCertificate .empty .isolated).run [.launch .primary, .start .primary] =
        some last ∧
      Startup.pathsIgnored ∈ last.events ∧
      Indistinct ignoredCertificate
        { ignoredCertificate with tlsCertFile := none, tlsKeyFile := some "key.pem" } ∧
      Indistinct Options.standard
        { Options.standard with
          tlsCertFile := some "", tlsKeyFile := none, letsencryptCacheDir := "elsewhere",
          letsencryptHosts := ["example.com"], letsencryptAdminEmail := none,
          letsencryptStaging := true } := by
  obtain ⟨last, ran⟩ : ∃ last, (World.initial ignoredCertificate .empty .isolated).run
      [.launch .primary, .start .primary] = some last := ⟨_, rfl⟩
  obtain ⟨automatic, -, warned, -⟩ := one_source_decides ignoredCertificate
  obtain ⟨-, static, -, -⟩ := one_source_decides Options.standard
  have said := (warned _ _ _ last ran).mpr ⟨by decide, rfl, "cert.pem", by decide, .inl rfl⟩
  exact ⟨last, ran, said, automatic rfl none (some "key.pem"),
    static rfl (some "") none "elsewhere" ["example.com"] none true (.inr (.inl ⟨rfl, rfl⟩))
      (.inl rfl)⟩

end WebListener.Lifecycle
