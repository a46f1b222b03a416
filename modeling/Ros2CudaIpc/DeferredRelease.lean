import Ros2CudaIpc.Ledger
import Ros2CudaIpc.Reachability
import Ros2CudaIpc.ReadHandle

/-!
# Deferred release of read handles

Destroying or overwriting a read handle does not release what it holds. The
releasing thread records the handle's completion event on its consumer stream
and submits an item to the process-wide queue; one worker waits for the event
and releases the item. Every step which fails puts the item where it is never
released: on the failed list, or in no container at all.

Several threads may be releasing at once. An action performs the next driver call
or critical section of one of them, or of the worker; the queue's mutex makes
each access to its containers one step. The log records what happened to each
handle; no step reads it.
-/

namespace Ros2CudaIpc.DeferredRelease

open Reachability

/-- A fallible step on the way from a dropped handle to its release. Each is a driver call or an
allocation which the code checks or catches. -/
inductive FallibleStep where
  | pushCurrent
  | eventRecord
  | queueConstruction
  | queueInsertion
  | workerPushCurrent
  | eventSynchronize
deriving DecidableEq, Repr

/-- What is logged about the handle of a number, from its binding to the release of its resource
and its reference, or to the step which failed. -/
inductive Event where
  | bound (handle event : Nat) (stream : CUstream)
  | dropped (handle : Nat)
  | recorded (handle event : Nat) (stream : CUstream)
  | synchronized (handle event : Nat)
  | resourceReleased (handle : Nat)
  | bufferRefReleased (handle : Nat)
  | failed (handle : Nat) (failure : FallibleStep)
deriving DecidableEq, Repr

/-- The handle an event is about. No event is about two, although one event of the driver serves
several bindings. -/
def Event.handle : Event → Nat
  | .bound handle _ _ | .dropped handle | .recorded handle _ _ | .synchronized handle _
  | .resourceReleased handle | .bufferRefReleased handle | .failed handle _ => handle

/-- A handle's state with the number of its binding, which moves along with the state when the
handle is moved. -/
structure Bound where
  number : Nat
  impl : ReadHandle.Impl
deriving DecidableEq, Repr

/-- `DeferredItem`: what the queue keeps of a handle. Its members are reset one after another by
the worker. -/
structure DeferredItem where
  number : Nat
  completion : Option CompletionEvent
  resource : Option ImportedResources
  bufferRef : Option BufferRef
deriving DecidableEq, Repr

/-- The item `submit` fills from a handle's state. The consumer stream is not part of it, as the
event was recorded before. -/
def Bound.item (bound : Bound) : DeferredItem :=
  ⟨bound.number, bound.impl.completion, bound.impl.resource, bound.impl.bufferRef⟩

/-- A running `ReadHandle::Impl::release` with a completion event: before
`push_current`, before `cuEventRecord`, before the queue instance is at hand, and
before the insertion into the list which the failure flag selects. -/
inductive Release where
  | activating (bound : Bound)
  | recording (bound : Bound)
  | submitting (failed : Bool) (item : DeferredItem)
  | inserting (failed : Bool) (item : DeferredItem)
deriving DecidableEq, Repr

/-- The handle a release is about, whether its state is still whole or already moved into an item.
-/
def Release.number : Release → Nat
  | .activating bound | .recording bound => bound.number
  | .submitting _ item | .inserting _ item => item.number

/-- Position of the worker in its loop body. While it synchronises, the queue's mutex is free and
other releases go on. -/
inductive Worker where
  | waiting
  | activating (item : DeferredItem)
  | synchronizing (item : DeferredItem)
  | retaining (item : DeferredItem)
  | resettingCompletion (item : DeferredItem)
  | resettingResource (item : DeferredItem)
  | resettingBufferRef (item : DeferredItem)
deriving DecidableEq, Repr

/-- The handle whose item the worker holds, if any. The item is in no list of the queue then. -/
def Worker.numbers : Worker → List Nat
  | .waiting => []
  | .activating item | .synchronizing item | .retaining item | .resettingCompletion item
  | .resettingResource item | .resettingBufferRef item => [item.number]

/-- The handle objects, the running releases, the queue with its two lists, the
items no container holds, the worker, and what has been released. -/
structure State where
  handles : List (Option Bound)
  releases : List Release
  constructed : Bool
  items : List DeferredItem
  failed : List DeferredItem
  leaked : List DeferredItem
  worker : Worker
  released : List Nat
  created : Nat
  log : List Event
deriving DecidableEq, Repr

/-- The numbers of the bound handles, place by place: handle object, running
release, pending queue, failed list, intentional leak, worker, released. -/
def State.places (state : State) : List Nat :=
  state.handles.filterMap (Option.map Bound.number) ++ state.releases.map Release.number ++
    state.items.map DeferredItem.number ++ state.failed.map DeferredItem.number ++
    state.leaked.map DeferredItem.number ++ state.worker.numbers ++ state.released

/-- Nothing is bound, and no queue exists. The worker waits, since it starts with the first item. -/
def initial : State := ⟨[], [], false, [], [], [], .waiting, [], 0, []⟩

/-- `~Impl`. Without a BufferRef nothing is held; without a completion event the
members are reset at once. Otherwise a release begins. -/
def State.drop (state : State) : Option Bound → State
  | none => state
  | some bound =>
    if bound.impl.bufferRef = none then state
    else if bound.impl.completion = none then
      { state with
        released := bound.number :: state.released
        log := .bufferRefReleased bound.number :: .resourceReleased bound.number ::
          .dropped bound.number :: state.log }
    else
      { state with
        releases := state.releases ++ [.activating bound]
        log := .dropped bound.number :: state.log }

/-- The next step of a running release, and whether its driver call or
allocation succeeds. The queue instance is constructed by its first user. -/
def State.advance (state : State) (succeeds : Bool) : Release → State × Option Release
  | .activating bound =>
    if succeeds then (state, some (.recording bound))
    else
      ({ state with log := .failed bound.number .pushCurrent :: state.log },
        some (.submitting true bound.item))
  | .recording bound =>
    if succeeds then
      ({ state with
          log := .recorded bound.number (bound.impl.completion.elim 0 CompletionEvent.event)
            bound.impl.consumerStream :: state.log },
        some (.submitting false bound.item))
    else
      ({ state with log := .failed bound.number .eventRecord :: state.log },
        some (.submitting true bound.item))
  | .submitting failed item =>
    if state.constructed ∨ succeeds then
      ({ state with constructed := true }, some (.inserting failed item))
    else
      ({ state with
          leaked := state.leaked ++ [item]
          log := .failed item.number .queueConstruction :: state.log }, none)
  | .inserting failed item =>
    if succeeds = false then
      ({ state with
          leaked := state.leaked ++ [item]
          log := .failed item.number .queueInsertion :: state.log }, none)
    else if failed then ({ state with failed := state.failed ++ [item] }, none)
    else ({ state with items := state.items ++ [item] }, none)

/-- The next step of the worker. A popped item without a completion event is
deleted at once. -/
def State.work (state : State) (succeeds : Bool) : Option State :=
  match state.worker with
  | .waiting =>
    match state.items with
    | [] => none
    | item :: rest => some { state with items := rest, worker := .activating item }
  | .activating item =>
    if item.completion = none then
      some { state with
        worker := .waiting
        released := item.number :: state.released
        log := .bufferRefReleased item.number :: .resourceReleased item.number :: state.log }
    else if succeeds then some { state with worker := .synchronizing item }
    else
      some { state with
        worker := .retaining item
        log := .failed item.number .workerPushCurrent :: state.log }
  | .synchronizing item =>
    if succeeds then
      some { state with
        worker := .resettingCompletion item
        log := .synchronized item.number (item.completion.elim 0 CompletionEvent.event) ::
          state.log }
    else
      some { state with
        worker := .retaining item
        log := .failed item.number .eventSynchronize :: state.log }
  | .retaining item =>
    if succeeds then some { state with worker := .waiting, failed := state.failed ++ [item] }
    else
      some { state with
        worker := .waiting
        leaked := state.leaked ++ [item]
        log := .failed item.number .queueInsertion :: state.log }
  | .resettingCompletion item =>
    some { state with worker := .resettingResource { item with completion := none } }
  | .resettingResource item =>
    some { state with
      worker := .resettingBufferRef { item with resource := none }
      log := .resourceReleased item.number :: state.log }
  | .resettingBufferRef item =>
    some { state with
      worker := .waiting
      released := item.number :: state.released
      log := .bufferRefReleased item.number :: state.log }

/-- What can happen next: a handle is bound, moved or destroyed, or a running release or the
worker takes its next step. A destroyed object leaves the list of handles. -/
inductive Action where
  | makeBound (outcomes : BindOutcomes) (publication : MappedPublication) (stream : CUstream)
  | moveConstruct (source : Nat)
  | moveAssign (target source : Nat)
  | destroy (index : Nat)
  | release (index : Nat) (succeeds : Bool)
  | work (succeeds : Bool)
deriving DecidableEq, Repr

/-- One action. Move assignment stores the new state before the old one is
deleted; self-assignment changes nothing. -/
def step (state : State) : Action → Option State
  | .makeBound outcomes publication stream =>
    match (ReadHandleFactory.makeBound outcomes publication stream).2 with
    | .ok (some ⟨some impl⟩) =>
      some { state with
        handles := state.handles ++ [some ⟨state.created, impl⟩]
        created := state.created + 1
        log := .bound state.created (impl.completion.elim 0 CompletionEvent.event) stream ::
          state.log }
    | _ => some state
  | .moveConstruct source =>
    match state.handles[source]? with
    | none => none
    | some bound => some { state with handles := state.handles.set source none ++ [bound] }
  | .moveAssign target source =>
    match state.handles[target]?, state.handles[source]? with
    | some old, some bound =>
      if target = source then some state
      else some { state.drop old with
        handles := (state.handles.set target bound).set source none }
    | _, _ => none
  | .destroy index =>
    match state.handles[index]? with
    | none => none
    | some old => some { state.drop old with handles := state.handles.eraseIdx index }
  | .release index succeeds =>
    match state.releases[index]? with
    | none => none
    | some release =>
      let after := state.advance succeeds release
      some { after.1 with
        releases := state.releases.take index ++ after.2.toList ++
          state.releases.drop (index + 1) }
  | .work succeeds => state.work succeeds

/-- The handles in question: their resource has a CUDA context. A resource without one has no
event to record, and its handle is released at once. -/
def WithContext (_ : State) : Action → Prop
  | .makeBound _ publication _ => ∀ resource, publication.resource = some resource →
      resource.context.isSome
  | _ => True

end Ros2CudaIpc.DeferredRelease
