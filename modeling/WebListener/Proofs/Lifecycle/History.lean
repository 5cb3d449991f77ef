import WebListener.Lifecycle.Family
-- Histories of operations on handles. The family of a handle is read off the history alone, from
-- who was cloned from whom, and so is what the family's own operations come to.
namespace WebListener.Lifecycle

open Net (BoundAddress)

namespace State

-- Idle, then listening at one address, then closed; nothing leads back, and no address replaces
-- another.
inductive Forward : State → State → Prop where
  | stay : Forward state state
  | bound : Forward .idle (.listening address)
  | closed : Forward state .closed

end State

namespace Operation

def handle? : Operation → Option Nat
  | .create | .poll _ => none
  | .clone handle | .close handle | .mark handle _ | .isClosed handle | .look handle _
  | .await handle _ | .finish handle _ _ _ => some handle

def makes? : Operation → Option (Option Nat)
  | .create => some none
  | .clone handle => some (some handle)
  | _ => none

def awaits : Operation → Bool
  | .await .. => true
  | _ => false

def closes : Operation → Bool
  | .close _ => true
  | _ => false

def marks? : Operation → Option BoundAddress
  | .mark _ address => some address
  | _ => none

def transition : Operation → State → State
  | .close _ => State.close
  | .mark _ address => State.mark address
  | _ => id

def names (handles waiters : Nat) : Operation → Bool
  | .poll waiter => waiter < waiters
  | operation => operation.handle?.all (· < handles)

theorem transition_forward (operation : Operation) (state : State) :
    state.Forward (operation.transition state) := by
  cases operation with
  | close handle => exact .closed
  | mark handle address =>
    cases state with
    | idle => exact .bound
    | listening first => exact .stay
    | closed => exact .stay
  | _ => exact .stay

end Operation

-- What the operations on one family come to, in the order in which they were called: closed once
-- any of them closes, otherwise the first address marked.
def settled (operations : List Operation) : State :=
  if operations.any Operation.closes then .closed
  else match operations.findSome? Operation.marks? with
    | some address => .listening address
    | none => .idle

theorem settled_append (operations : List Operation) (operation : Operation) :
    settled (operations ++ [operation]) = operation.transition (settled operations) := by
  cases closed : operations.any Operation.closes with
  | true =>
    cases operation <;>
      simp [settled, closed, Operation.transition, State.close, State.mark]
  | false =>
    cases marked : operations.findSome? Operation.marks? <;> cases operation <;>
      simp [settled, closed, marked, Operation.transition, Operation.closes, Operation.marks?,
        State.close, State.mark]

namespace History

def parents (history : List Operation) : List (Option Nat) :=
  history.filterMap Operation.makes?

def made (history : List Operation) : Nat := (parents history).length

def founderIn : List (Option Nat) → Nat → Option Nat
  | [], _ => none
  | parent :: earlier, handle =>
    if handle = earlier.length then
      match parent with
      | none => some handle
      | some source => founderIn earlier source
    else founderIn earlier handle

-- Two handles are of one family when they go back, directly or through other clones, to the same
-- new handle.
def founder? (history : List Operation) (handle : Nat) : Option Nat :=
  founderIn (parents history).reverse handle

def concerns (history : List Operation) (handle : Nat) (operation : Operation) : Bool :=
  operation.handle?.any fun called => founder? history called == founder? history handle

def own (history : List Operation) (handle : Nat) : List Operation :=
  history.filter (concerns history handle)

def legalFrom (handles waiters : Nat) : List Operation → Bool
  | [] => true
  | operation :: rest =>
    operation.names handles waiters &&
      legalFrom (handles + operation.makes?.toList.length)
        (if operation.awaits then waiters + 1 else waiters) rest

def legal (history : List Operation) : Bool := legalFrom 0 0 history

theorem parents_append (history : List Operation) (operation : Operation) :
    parents (history ++ [operation]) = parents history ++ operation.makes?.toList := by
  cases makes : operation.makes? <;> simp [parents, makes]

theorem made_append (history : List Operation) (operation : Operation) :
    made (history ++ [operation]) = made history + operation.makes?.toList.length := by
  simp [made, parents_append]

theorem founderIn_lt (found : founderIn earlier handle = some founder) :
    founder < earlier.length := by
  induction earlier generalizing handle with
  | nil => cases found
  | cons parent earlier ih =>
    unfold founderIn at found
    split at found
    · cases parent with
      | none =>
        cases found
        simp_all
      | some source => exact Nat.lt_succ_of_lt (ih found)
    · exact Nat.lt_succ_of_lt (ih found)

theorem founder?_lt (found : founder? history handle = some founder) : founder < made history := by
  simpa [made] using founderIn_lt found

theorem founder?_append_old (operation : Operation) (old : handle < made history) :
    founder? (history ++ [operation]) handle = founder? history handle := by
  cases makes : operation.makes? with
  | none => simp [founder?, parents_append, makes]
  | some parent =>
    have notNew : handle ≠ (parents history).length := Nat.ne_of_lt old
    simp [founder?, parents_append, makes, founderIn, notNew]

theorem founder?_created :
    founder? (history ++ [.create]) (made history) = some (made history) := by
  simp [founder?, parents_append, Operation.makes?, founderIn, made]

theorem founder?_cloned :
    founder? (history ++ [.clone source]) (made history) = founder? history source := by
  simp [founder?, parents_append, Operation.makes?, founderIn, made]

def Named (history : List Operation) : Prop :=
  ∀ operation ∈ history, ∀ handle, operation.handle? = some handle → handle < made history

theorem own_same (same : founder? history x = founder? history y) :
    own history x = own history y := by
  have concern : concerns history x = concerns history y := by
    funext operation
    simp [concerns, same]
  rw [own, own, concern]

theorem concerns_append_old (known : ∀ called, operation.handle? = some called →
      called < made history) (old : handle < made history) :
    concerns (history ++ [latest]) handle operation = concerns history handle operation := by
  cases called : operation.handle? with
  | none => simp [concerns, called]
  | some other =>
    simp only [concerns, called, Option.any_some, founder?_append_old latest (known other called),
      founder?_append_old latest old]

theorem own_append_old (named : Named history) (known : ∀ called, latest.handle? = some called →
      called < made history) (old : handle < made history) :
    own (history ++ [latest]) handle =
      own history handle ++ if concerns history handle latest then [latest] else [] := by
  have earlier : history.filter (concerns (history ++ [latest]) handle) =
      history.filter (concerns history handle) :=
    List.filter_congr fun operation present =>
      concerns_append_old (named operation present) old
  rw [own, List.filter_append, earlier, List.filter_cons, concerns_append_old known old]
  rfl

theorem settled_own_append (named : Named history) (known : ∀ called,
      latest.handle? = some called → called < made history) (old : handle < made history) :
    settled (own (history ++ [latest]) handle) =
      if concerns history handle latest then latest.transition (settled (own history handle))
      else settled (own history handle) := by
  rw [own_append_old named known old]
  split
  · exact settled_append _ _
  · rw [List.append_nil]

theorem own_created (named : Named history) :
    own (history ++ [.create]) (made history) = [] := by
  refine List.filter_eq_nil_iff.mpr ?_
  intro operation present concern
  obtain ⟨called, handle, same⟩ : ∃ called, operation.handle? = some called ∧
      founder? (history ++ [.create]) called = some (made history) := by
    cases called : operation.handle? with
    | none => simp [concerns, called] at concern
    | some handle => exact ⟨handle, rfl, by simpa [concerns, called, founder?_created] using concern⟩
  rcases List.mem_append.mp present with old | new
  · have known := named operation old called handle
    rw [founder?_append_old _ known] at same
    exact Nat.lt_irrefl _ (founder?_lt same)
  · cases List.mem_singleton.mp new
    cases handle

end History

end WebListener.Lifecycle
