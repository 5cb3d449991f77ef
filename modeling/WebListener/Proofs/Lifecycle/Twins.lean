import WebListener.Lifecycle.World
-- Two servers whose options differ in settings that mean nothing: step by step they do the same,
-- and only one of them may say that it ignores a path.
namespace WebListener.Lifecycle

open Config (Options CertificateSource given)
open Kernel (FileTree Path)
open Log (Event)
open Net (Network)

def unwarned (events : List Event) : List Event :=
  events.filter fun event => event ≠ Startup.pathsIgnored

theorem unwarned_append (first second : List Event) :
    unwarned (first ++ second) = unwarned first ++ unwarned second := List.filter_append _ _

def SamePath (path other : Option Path) : Prop :=
  path = other ∨ (path = none ∧ other = some "") ∨ (path = some "" ∧ other = none)

theorem SamePath.given {path other : Option Path} (same : SamePath path other) :
    Config.given path = Config.given other := by
  rcases same with rfl | ⟨rfl, rfl⟩ | ⟨rfl, rfl⟩ <;> rfl

structure Alike (options other : Options) : Prop where
  mode : options.listenMode = other.listenMode
  source : options.certificateSource = other.certificateSource
  httpAddress : options.httpAddress = other.httpAddress
  httpsAddress : options.httpsAddress = other.httpsAddress
  redirectorAddress : options.redirectorAddress = other.redirectorAddress
  redirect : options.redirectHttpToHttps = other.redirectHttpToHttps

namespace Alike

variable {options other : Options}

theorem port (alike : Alike options other) : options.httpsPort = other.httpsPort := by
  rw [Options.httpsPort, Options.httpsPort, alike.httpsAddress]

theorem redirector (alike : Alike options other) (world : Environment) :
    Startup.redirector options world = Startup.redirector other world := by
  rw [Startup.redirector, Startup.redirector, alike.redirectorAddress, alike.port]

theorem https (alike : Alike options other) (world : Environment) :
    Startup.https options world = Startup.https other world := by
  rw [Startup.https, Startup.https, alike.source, alike.httpsAddress]

theorem primary (alike : Alike options other) (world : Environment) :
    ∃ events, unwarned events = unwarned (Startup.primary other world).events ∧
      Startup.primary options world = { Startup.primary other world with events := events } := by
  unfold Startup.primary
  rw [alike.mode]
  cases mode : other.listenMode with
  | http => exact ⟨_, rfl, by rw [alike.httpAddress]⟩
  | https =>
    have silent (ignored : Bool) :
        unwarned (if ignored then [Startup.pathsIgnored] else []) = [] := by
      cases ignored <;> simp [unwarned]
    refine ⟨(Startup.after (if options.staticPathsIgnored then [Startup.pathsIgnored] else [])
      (Startup.https other world)).events, ?_, ?_⟩
    · simp only [Startup.after, unwarned_append, silent]
    · rw [alike.https]
      rfl

end Alike

-- Worlds in which all but the options and the warning is the same.
structure Twin (world other : World) : Prop where
  options : Alike world.options other.options
  files : world.files = other.files
  network : world.network = other.network
  primary : world.primary = other.primary
  redirector : world.redirector = other.redirector
  call : world.call = other.call
  background : world.background = other.background
  shutdown : world.shutdown = other.shutdown
  events : unwarned world.events = unwarned other.events

namespace Twin

variable {world other : World} {move : Move} {moves : List Move}

theorem lane (twin : Twin world other) (side : Side) : world.lane side = other.lane side := by
  cases side with
  | primary => exact twin.primary
  | redirector => exact twin.redirector

theorem result (twin : Twin world other) : world.result? = other.result? := by
  rw [World.result?, World.result?, twin.call]

theorem tell (twin : Twin world other) {told said : List Event}
    (same : unwarned told = unwarned said) : Twin (world.tell told) (other.tell said) :=
  { twin with events := by simp only [World.tell, unwarned_append, twin.events, same] }

theorem act (twin : Twin world other) (side : Side) (action : Lane.Action) :
    Twin (world.act side action) (other.act side action) := by
  cases side with
  | primary =>
    exact { twin with
      primary := by simp only [World.act, World.setLane, World.lane, twin.primary] }
  | redirector =>
    exact { twin with
      redirector := by simp only [World.act, World.setLane, World.lane, twin.redirector] }

theorem settleCall (twin : Twin world other) : Twin world.settleCall other.settleCall := by
  have ending : endingOf .primary world.primary.phase = endingOf .primary other.primary.phase := by
    rw [twin.primary]
  unfold World.settleCall
  rw [ending]
  split
  · exact { twin with call := rfl }
  · exact twin

theorem tidy (twin : Twin world other) (address : Net.BoundAddress) :
    Twin (world.tidy address) (other.tidy address) := by
  unfold World.tidy
  cases address with
  | tcp address => exact twin
  | unix path =>
    dsimp only
    rw [twin.files]
    split
    · exact { twin with files := rfl }
    · exact twin.tell rfl

theorem environment (twin : Twin world other) (side : Side) :
    world.environment side = other.environment side := by
  rw [World.environment, World.environment, twin.lane, twin.files, twin.network]

theorem startup (twin : Twin world other) (side : Side) :
    ∃ events, unwarned events = unwarned (other.startup side).events ∧
      world.startup side = { other.startup side with events := events } := by
  unfold World.startup
  rw [twin.environment]
  cases side with
  | primary => exact twin.options.primary _
  | redirector => exact ⟨_, rfl, by rw [twin.options.redirector]⟩

theorem start (twin : Twin world other) (side : Side) :
    Twin (world.start side) (other.start side) := by
  obtain ⟨events, same, startup⟩ := twin.startup side
  unfold World.start
  rw [startup]
  generalize other.startup side = began at same
  have placed : Twin { world with files := began.files } { other with files := began.files } :=
    { twin with files := rfl }
  have told := placed.tell same
  cases side with
  | primary =>
    have next := told.act .primary (.bind began.outcome)
    exact Twin.settleCall { next with background := rfl }
  | redirector => exact told.act .redirector (.bind began.outcome)

theorem launch (twin : Twin world other) (what : Launch) :
    Twin (world.launch what) (other.launch what) := by
  cases what with
  | primary => exact { twin.act .primary .launch with call := rfl }
  | redirector => exact twin.act .redirector .launch
  | listenAndServe =>
    unfold World.launch
    dsimp only
    rw [twin.options.redirect]
    split
    · exact { (twin.act .primary .launch).act .redirector .launch with call := rfl }
    · exact { twin.act .primary .launch with call := rfl }

theorem finish (twin : Twin world other) (side : Side) :
    Twin (world.finish side) (other.finish side) := by
  have next : Twin ((world.tell ((world.lane side).emitted .finish)).act side .finish)
      ((other.tell ((other.lane side).emitted .finish)).act side .finish) :=
    (twin.tell (by rw [twin.lane])).act side .finish
  unfold World.finish
  rw [twin.lane] at next ⊢
  dsimp only
  split
  · exact (next.tidy _).settleCall
  · exact next

theorem observe (twin : Twin world other) : Twin world.observe other.observe := by
  have failed (error : ListenerError) :
      Twin { world.act .primary .drop with call := .returned (.error error) }
        { other.act .primary .drop with call := .returned (.error error) } :=
    { twin.act .primary .drop with call := rfl }
  have phase : world.redirector.phase = other.redirector.phase := by rw [twin.redirector]
  unfold World.observe
  dsimp only
  rw [phase]
  split
  · exact failed _
  · exact failed _
  · exact { twin with call := rfl }

theorem apply (twin : Twin world other) (move : Move) :
    Twin (world.apply move) (other.apply move) := by
  cases move with
  | launch what => exact twin.launch what
  | touch touch => exact twin.act _ _
  | start side => exact twin.start side
  | publish side | stop side failure => exact twin.act side _
  | finish side => exact twin.finish side
  | report =>
    unfold World.apply
    dsimp only
    rw [twin.background]
    exact { twin.tell rfl with background := rfl }
  | observe => exact twin.observe
  | abort reason => exact twin.act .redirector _
  | receive signal => exact { twin.tell rfl with shutdown := rfl }
  | closeNext =>
    unfold World.apply
    dsimp only
    rw [twin.shutdown]
    split
    · exact { twin.act _ _ with shutdown := rfl }
    · exact twin

theorem allowed (twin : Twin world other) (move : Move) :
    world.allowed move = other.allowed move := by
  have runs (side : Side) : world.runs side = other.runs side := by
    cases side <;> simp only [World.runs, twin.call]
  cases move with
  | launch what =>
    cases what <;> simp only [World.allowed, twin.primary, twin.redirector, twin.options.redirect]
  | touch touch => simp only [World.allowed, twin.lane]
  | start side | publish side | stop side failure | finish side =>
    simp only [World.allowed, twin.lane, runs]
  | report => simp only [World.allowed, twin.primary, twin.background]
  | observe => simp only [World.allowed, twin.primary, twin.redirector, twin.call]
  | abort reason => simp only [World.allowed, twin.redirector]
  | receive signal | closeNext => simp only [World.allowed, twin.shutdown]

-- Any order of moves is a run of both or of neither, and they are twins at its end.
theorem run (twin : Twin world other) (moves : List Move) :
    Option.Rel Twin (world.run moves) (other.run moves) := by
  induction moves generalizing world other with
  | nil => exact .some twin
  | cons move rest ih =>
    simp only [World.run, World.execute, twin.allowed move]
    split
    · exact ih (twin.apply move)
    · exact .none

end Twin

end WebListener.Lifecycle
