import Ros2CudaIpc.BufferRef
import Ros2CudaIpc.Reachability
import Ros2CudaIpc.WeightedLists

/-!
# Publishers and subscribers on one block

Any number of threads operate on one BlockMetadata. A state holds the shared
words, the calls which are between two of their atomic operations, the returned
reservations nobody has settled yet, and the BufferRef objects. An action
starts a call, performs the next atomic operation of a running call, or moves
or destroys a BufferRef. A returning call delivers its result in the step of
its last operation, since the code in between is thread private.

Each reservation is handed to at most one commit or cancel. That is the
caller's side of the contract; everything else follows from the operations.
-/

namespace Ros2CudaIpc.BlockProtocol

open Reachability WeightedLists

/-- A call between two of its atomic operations. A released BufferRef needs a
second operation only when its decrement met a zero count. -/
inductive Call where
  | reserve (call : ReserveCall)
  | settle (call : SettleCall)
  | acquire (call : AcquireCall)
  | underflowedRelease
deriving DecidableEq, Repr

/-- The result of a finished commit or cancel: its uid, whether it was a commit, and whether it
gave the count back. -/
structure Settlement where
  uid : Nat
  published : Bool
  released : Bool
deriving DecidableEq, Repr

/-- What one operation leaves of its call: the running call, or the result which reaches its
caller in the same step. -/
inductive Progress where
  | running (call : Call)
  | reserved (reservation : Option Nat)
  | settled (settlement : Settlement)
  | acquired (reference : BufferRef)
  | released
deriving DecidableEq, Repr

/-- The BufferRef an acquire returns. A refused acquire returns an empty one, whatever uid it
asked for. -/
def acquiredRef (uid : Nat) (valid : Bool) : BufferRef :=
  if valid then ⟨true, uid⟩ else BufferRef.empty

/-- What an operation leaves of a reservation attempt: the attempt at its next position, or a
reservation if it got one. -/
def reserveProgress : Outcome ReserveCall (Option Nat) → Progress
  | .running next => .running (.reserve next)
  | .returned reservation => .reserved reservation

/-- What an operation leaves of a commit or cancel of a uid: the call at its next position, or its
result. -/
def settleProgress (uid : Nat) (published : Bool) : Outcome SettleCall Bool → Progress
  | .running next => .running (.settle next)
  | .returned released => .settled ⟨uid, published, released⟩

/-- What an operation leaves of an acquire with a uid: the call at its next position, or the
BufferRef it returns. -/
def acquireProgress (uid : Nat) : Outcome AcquireCall Bool → Progress
  | .running next => .running (.acquire next)
  | .returned valid => .acquired (acquiredRef uid valid)

/-- The next atomic operation of a running call on the shared words. The clock matters to the two
publisher's calls and the spurious failure to the acquire only. -/
def Call.step (clock : Nat) (spurious : Bool) (metadata : BlockMetadata) :
    Call → BlockMetadata × Progress
  | .reserve call =>
    ((call.step clock metadata).1, reserveProgress (call.step clock metadata).2)
  | .settle call =>
    ((call.step clock metadata).1,
      settleProgress call.uid call.published (call.step clock metadata).2)
  | .acquire call =>
    ((call.step spurious metadata).1, acquireProgress call.uid (call.step spurious metadata).2)
  | .underflowedRelease => ({ metadata with refcount := 0 }, .released)

/-- One block with everything that operates on it. The lists are the parties' private state, of
which the block knows nothing. -/
structure State where
  metadata : BlockMetadata
  calls : List Call
  reservations : List Nat
  refs : List BufferRef
  settlements : List Settlement
deriving DecidableEq, Repr

/-- The call which keeps running, if any. A call which returns is in no list any more. -/
def Progress.calls : Progress → List Call
  | .running call => [call]
  | _ => []

/-- The reservation which reached its caller, if any. A refused attempt adds none. -/
def Progress.reservations : Progress → List Nat
  | .reserved reservation => reservation.toList
  | _ => []

/-- The BufferRef which reached its caller, if any. An empty one is listed too, since the caller
has the object. -/
def Progress.refs : Progress → List BufferRef
  | .acquired reference => [reference]
  | _ => []

/-- The result of a commit or cancel, if any. It is listed for the properties to speak about; no
step reads it. -/
def Progress.settlements : Progress → List Settlement
  | .settled settlement => [settlement]
  | _ => []

/-- Replace the running call at a position by what its operation left. The positions of the other
calls are those they had, up to the one which ended. -/
def State.deliver (state : State) (index : Nat) (progress : Progress) : State :=
  { metadata := state.metadata
    calls := state.calls.take index ++ progress.calls ++ state.calls.drop (index + 1)
    reservations := progress.reservations ++ state.reservations
    refs := state.refs ++ progress.refs
    settlements := progress.settlements ++ state.settlements }

/-- `BufferRef::release` on a detached object: the decrement, and the call which
still has to store zero when the decrement met a zero count. -/
def State.release (state : State) (reference : BufferRef) : State :=
  if reference.valid then
    { state with
      metadata := state.metadata.fetchSub
      calls :=
        if state.metadata.refcount = 0 then state.calls ++ [.underflowedRelease]
        else state.calls }
  else state

/-- What a thread can do next. Indices select a running call, an unsettled
reservation or a BufferRef object. -/
inductive Action where
  | reserve
  | settle (index : Nat) (published : Bool)
  | acquire (uid : Nat)
  | advance (index clock : Nat) (spurious : Bool)
  | moveConstruct (source : Nat)
  | moveAssign (target source : Nat)
  | destroy (index : Nat)
deriving DecidableEq, Repr

/-- One action. Move construction goes through the move assignment onto an
empty object; self-assignment changes nothing. -/
def step (state : State) : Action → Option State
  | .reserve => some { state with calls := state.calls ++ [.reserve ReserveCall.start] }
  | .settle index published =>
    match state.reservations[index]? with
    | none => none
    | some uid =>
      let call := if published then SettleCall.commitPublish uid else SettleCall.cancelPublish uid
      some { state with
        reservations := state.reservations.eraseIdx index
        calls := state.calls ++ [.settle call] }
  | .acquire uid => some { state with calls := state.calls ++ [.acquire (AcquireCall.start uid)] }
  | .advance index clock spurious =>
    match state.calls[index]? with
    | none => none
    | some call =>
      let after := call.step clock spurious state.metadata
      some ({ state with metadata := after.1 }.deliver index after.2)
  | .moveConstruct source =>
    match state.refs[source]? with
    | none => none
    | some reference =>
      some { state with refs := state.refs.set source BufferRef.empty ++ [reference] }
  | .moveAssign target source =>
    match state.refs[target]?, state.refs[source]? with
    | some old, some reference =>
      if target = source then some state
      else some { state.release old with
        refs := (state.refs.set target reference).set source BufferRef.empty }
    | _, _ => none
  | .destroy index =>
    match state.refs[index]? with
    | none => none
    | some old => some { state.release old with refs := state.refs.eraseIdx index }

/-- A created block on which nobody operates yet. Its uid is any which a creation can give it. -/
def Initial (state : State) : Prop :=
  ∃ value, state = ⟨BlockMetadata.create value, [], [], [], []⟩

/-- References a running call holds in the count. The zeroing behind an underflow has given its
reference up already. -/
def Call.share : Call → Nat
  | .reserve call => call.share
  | .settle call => call.share
  | .acquire call => call.share
  | .underflowedRelease => 0

/-- The publisher's part of a call's share. An acquire holds its reference for a subscriber. -/
def Call.publisherShare : Call → Nat
  | .reserve call => call.share
  | .settle call => call.share
  | .acquire _ | .underflowedRelease => 0

/-- References held by what an operation leaves of its call: by the call, the reservation or the
BufferRef, of which there is one at most. -/
def Progress.share (progress : Progress) : Nat :=
  total Call.share progress.calls + progress.reservations.length +
    total BufferRef.share progress.refs

/-- The publisher's part of such a share, for which no BufferRef counts. -/
def Progress.publisherShare (progress : Progress) : Nat :=
  total Call.publisherShare progress.calls + progress.reservations.length

/-- What a running call's position says about the current uid. Positions which
hold no publisher reference say nothing about it; the two underflow positions
never occur. -/
def Call.Sound (uid : Nat) : Call → Prop
  | .reserve call =>
    match call.pc with
    | .storeRefcount => uid = uint64Max
    | .storeUid nextUid => nextUid = uid + 1 ∧ uid < uint64Max
    | .storeTimestamp nextUid => nextUid = uid
    | _ => True
  | .settle call => call.pc ≠ .storeRefcount ∧ call.uid = uid
  | .acquire call =>
    match call.pc with
    | .exchange observedRef => observedRef < uint32Max
    | _ => True
  | .underflowedRelease => False

/-- The same of an operation's outcome. A finished settlement released its
reference, and a returned reservation carries the current uid. -/
def Progress.Sound (uid : Nat) (progress : Progress) : Prop :=
  (∀ call ∈ progress.calls, call.Sound uid) ∧
  (∀ reserved ∈ progress.reservations, reserved = uid) ∧
  (∀ reference ∈ progress.refs, reference.valid = true → reference.uid = uid) ∧
  ∀ settlement ∈ progress.settlements, settlement.released = true

end Ros2CudaIpc.BlockProtocol
