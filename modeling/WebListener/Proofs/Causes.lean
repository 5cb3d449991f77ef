import Mathlib.Data.List.Chain
import WebListener.Command.Run
-- What an error says of what is behind it. The text of each cause is the end of the text in front
-- of it, so the one line that the program writes at its end names them all.
namespace WebListener.ListenerError

open Config (Options)
open Kernel (FileTree Path IoError)
open Lifecycle (Signal)
open Net (Network)
open Tls (TlsFault MaterialFault)

def nested : Nat → ListenerError → ListenerError
  | 0, error => error
  | depth + 1, error => .redirector (nested depth error)

inductive Root : ListenerError → List Cause → Prop where
  | address (text : String) (fault : Net.AddressFault) : Root (.address text fault) []
  | unsupportedTransport (network : String) : Root (.unsupportedTransport network) []
  | bind (network text : String) (cause : IoError) : Root (.bind network text cause) [.io cause]
  | certificate (certFile keyFile : Option Path) (fault : MaterialFault) :
      Root (.certificate certFile keyFile fault) []
  | tls (cause : TlsFault) : Root (.tls cause) [.tls cause]
  | acmeCache (directory : Path) (cause : IoError) : Root (.acmeCache directory cause) [.io cause]
  | serve (cause : IoError) : Root (.serve cause) [.io cause]
  | redirectorTask (reason : String) : Root (.redirectorTask reason) []

def Cause.behind? : Cause → Option Cause
  | .listener error => error.cause?
  | .io _ | .tls _ => none

-- All causes that are met by asking each one for the next, until there is none.
inductive Follows : Option Cause → List Cause → Prop where
  | ended : Follows none []
  | behind {cause : Cause} {rest : List Cause} (later : Follows cause.behind? rest) :
      Follows (some cause) (cause :: rest)

variable {cause next : Cause} {chain other root : List Cause} {error innermost : ListenerError}

theorem nested_exists (error : ListenerError) :
    ∃ depth innermost root, error = nested depth innermost ∧ Root innermost root := by
  induction error with
  | address text fault => exact ⟨0, _, _, rfl, .address text fault⟩
  | unsupportedTransport network => exact ⟨0, _, _, rfl, .unsupportedTransport network⟩
  | bind network text cause => exact ⟨0, _, _, rfl, .bind network text cause⟩
  | certificate certFile keyFile fault => exact ⟨0, _, _, rfl, .certificate certFile keyFile fault⟩
  | tls cause => exact ⟨0, _, _, rfl, .tls cause⟩
  | acmeCache directory cause => exact ⟨0, _, _, rfl, .acmeCache directory cause⟩
  | serve cause => exact ⟨0, _, _, rfl, .serve cause⟩
  | redirectorTask reason => exact ⟨0, _, _, rfl, .redirectorTask reason⟩
  | redirector cause ih =>
    obtain ⟨depth, innermost, root, same, own⟩ := ih
    refine ⟨depth + 1, innermost, root, ?_, own⟩
    rw [nested, same]

theorem Root.causes (own : Root innermost root) : innermost.causes = root := by
  cases own <;> rfl

def levels (depth : Nat) (innermost : ListenerError) : List Cause :=
  (List.range depth).reverse.map fun level => .listener (nested level innermost)

theorem levels_succ (depth : Nat) (innermost : ListenerError) :
    levels (depth + 1) innermost = .listener (nested depth innermost) :: levels depth innermost := by
  simp [levels, List.range_succ]

theorem nested_causes (own : Root innermost root) (depth : Nat) :
    (nested depth innermost).causes = levels depth innermost ++ root := by
  induction depth with
  | zero => exact own.causes
  | succ depth ih => rw [nested, causes, ih, levels_succ, List.cons_append]

theorem causes_followed (error : ListenerError) : Follows error.cause? error.causes := by
  induction error with
  | address | unsupportedTransport | certificate | redirectorTask => exact .ended
  | bind | tls | acmeCache | serve => exact .behind .ended
  | redirector cause ih => exact .behind ih

theorem Follows.unique {start : Option Cause} (follows : Follows start chain)
    (again : Follows start other) : chain = other := by
  induction follows generalizing other with
  | ended =>
    cases again
    rfl
  | behind later ih =>
    cases again with
    | behind further => rw [ih further]

theorem followed_iff : Follows error.cause? chain ↔ chain = error.causes := by
  constructor
  · intro follows
    exact follows.unique (causes_followed error)
  · intro same
    rw [same]
    exact causes_followed error

def EndsWith (outer inner : Cause) : Prop := inner.message.toList <:+ outer.message.toList

instance : Trans EndsWith EndsWith EndsWith where
  trans := fun first second => second.trans first

theorem ends_append {text front tail : String} (same : text = front ++ tail) :
    tail.toList <:+ text.toList := by
  rw [same, String.toList_append]
  exact List.suffix_append _ _

theorem behind_ends (behind : cause.behind? = some next) : EndsWith cause next := by
  cases cause with
  | io | tls => cases behind
  | listener error =>
    cases error with
    | address | unsupportedTransport | certificate | redirectorTask => cases behind
    | bind | tls | acmeCache | serve | redirector =>
      cases behind
      exact ends_append rfl

theorem Follows.chained (follows : Follows cause.behind? chain) :
    List.IsChain EndsWith (cause :: chain) := by
  generalize start : cause.behind? = behind at follows
  induction follows generalizing cause with
  | ended => exact .singleton cause
  | behind later ih => exact .cons_cons (behind_ends start) (ih rfl)

theorem redirector_message (error : ListenerError) :
    (redirector error).message = "HTTPS redirector failed: " ++ error.message := rfl

theorem nested_message (depth : Nat) (innermost : ListenerError) :
    (nested depth innermost).message =
      String.join (List.replicate depth "HTTPS redirector failed: ") ++ innermost.message := by
  induction depth with
  | zero => rw [nested, List.replicate_zero, String.join_nil, String.empty_append]
  | succ depth ih =>
    rw [nested, redirector_message, ih, List.replicate_succ, String.join_cons, String.append_assoc]

theorem failure_logged {options : Options} {files : FileTree} {network : Network}
    {signal : Option Signal}
    (failed : (Command.serve options files network signal).result? = some (.error error)) :
    ∃ event ∈ (Command.served options files network signal).2, event.level = .error ∧
      event.fields.lookup "error" = some (.shown error.message) := by
  refine ⟨Command.listenerFailed error, ?_, rfl, rfl⟩
  unfold Command.served
  dsimp only
  rw [failed]
  exact List.mem_append_right _ (List.mem_singleton.mpr rfl)

-- An error has as many others behind it as there are redirectors around the innermost one, then the
-- cause of that one if it has any, and each text is the end of the one before.
theorem every_cause_told :
    (∀ error : ListenerError, ∃ depth innermost root,
      error = nested depth innermost ∧ Root innermost root) ∧
    ∀ depth innermost root, Root innermost root →
      let error := nested depth innermost
      let text := String.join (List.replicate depth "HTTPS redirector failed: ") ++
        innermost.message
      (∀ chain, Follows error.cause? chain ↔ chain = levels depth innermost ++ root) ∧
      error.causes = levels depth innermost ++ root ∧
      List.IsChain EndsWith (.listener error :: error.causes) ∧
      error.message = text ∧
      ∀ options files network signal,
        (Command.serve options files network signal).result? = some (.error error) →
        ∃ event ∈ (Command.served options files network signal).2, event.level = .error ∧
          event.fields.lookup "error" = some (.shown text) ∧
          ∀ cause ∈ error.causes, cause.message.toList <:+ text.toList := by
  refine ⟨nested_exists, ?_⟩
  intro depth innermost root own error text
  have follows : Follows (Cause.listener error).behind? error.causes := causes_followed error
  have causes : error.causes = levels depth innermost ++ root := nested_causes own depth
  have told : error.message = text := nested_message depth innermost
  refine ⟨?_, causes, follows.chained, told, ?_⟩
  · intro chain
    rw [followed_iff, causes]
  · intro options files network signal failed
    obtain ⟨event, present, level, shown⟩ := failure_logged failed
    rw [told] at shown
    refine ⟨event, present, level, shown, ?_⟩
    intro cause behind
    rw [← told]
    exact follows.chained.rel_cons behind

end WebListener.ListenerError
