import Ros2CudaIpc.GpuBufferPool
import Ros2CudaIpc.Reachability

/-!
# A GpuBufferManager, its PublishBlocks and the subscribers

One manager with its pool, every PublishBlock object obtained from it, every
metadata object it ever created, and every BufferRef any process acquired on
those. Threads interleave: an action starts a call or performs the next step of a
running one, and a step is one atomic operation on a metadata object or one
critical section of the pool mutex without such an operation.

A thread which scans or commits stays inside the mutex and its call is kept
there; a cancel needs no mutex and is kept in its PublishBlock. `locked` is the
outcome of a mutex lock. A lock which would have to wait refuses the action.
`initialise` and `reset` write the pool's fields outside the mutex, so calls of
these two on one manager exclude each other; they may overlap everything else.

PublishBlocks, metadata objects and acquires are numbered in the order of their
creation and stay in their lists. The log lists what happened, the latest first;
no step reads it.
-/

namespace Ros2CudaIpc

/-- `GpuBufferManager::Config` apart from the block count, which the pool has. It is fixed when
the manager is constructed. -/
structure ManagerConfig where
  byteSize : Nat
  deviceIndex : Int
deriving DecidableEq, Repr

namespace GpuBufferManager

open Reachability

/-- A metadata object, with the block id of its name. The words stay readable through every
mapping after the name is unlinked. -/
structure MetadataObject where
  blockId : Nat
  metadata : BlockMetadata
deriving DecidableEq, Repr

/-- What a PublishBlock goes on with after its `cancel()`: nothing, the rest of a move assignment,
or the end of its destructor. -/
inductive AfterCancel where
  | idle
  | assigning (source : Nat)
  | destroyed
deriving DecidableEq, Repr

/-- Between two operations a PublishBlock's `owner_` is set or not; in the middle
of `prepare_publish` or `cancel` it is set, and in the assignment behind a cancel
or at the end of its life it is not. -/
inductive Stage where
  | idle (owner : Bool)
  | recorded
  | described (descriptor : BufferDescriptor)
  | committing
  | cancelling (call : SettleCall) (after : AfterCancel)
  | assigning (source : Nat)
  | destroyed
deriving DecidableEq, Repr

/-- The stage a `cancel()` ends in. The block no longer owns the reservation in any of them. -/
def AfterCancel.stage : AfterCancel → Stage
  | .idle => .idle false
  | .assigning source => .assigning source
  | .destroyed => .destroyed

/-- A PublishBlock object: the reservation it was given, and how far its operation has come. -/
structure PublishBlock where
  reservation : BlockReservation
  stage : Stage
deriving DecidableEq, Repr

/-- `PublishBlock::valid`: `owner_` is set. It is cleared by the commit, the cancel, a move and a
failed publication. -/
def PublishBlock.valid (block : PublishBlock) : Bool :=
  match block.stage with
  | .idle owner => owner
  | .recorded | .described _ | .committing | .cancelling _ _ => true
  | .assigning _ | .destroyed => false

/-- The call inside the pool mutex: a reservation scan between two blocks or on
the block at an index, or a commit for the PublishBlock at an index. -/
inductive Holder where
  | scanning (offset : Nat)
  | reserving (offset index mapping : Nat) (call : ReserveCall)
  | committing (index : Nat) (reservation : BlockReservation) (descriptor : BufferDescriptor)
      (call : SettleCall)
deriving DecidableEq, Repr

/-- Position of a running `initialise`, from its checks over the blocks one by one to the
allocation of their memory. -/
inductive Initialising where
  | checking
  | retaining
  | loading (index : Nat)
  | allocating (index current : Nat)
  | creating (index blockId : Nat)
  | equipping
deriving DecidableEq, Repr

/-- What the outside world answers to the next step of `initialise`: locks, driver calls, a
spurious exchange, and what was obtained. -/
structure Supply where
  locked : Bool
  succeeded : Bool
  spurious : Bool
  initialUid : UInt64
  resources : List BlockResources
deriving DecidableEq, Repr

/-- How far an acquire and its BufferRef are. A released or refused acquire stays in its list. -/
inductive Phase where
  | acquiring (pc : AcquirePc)
  | refused
  | holding
  | underflowed
  | released
deriving DecidableEq, Repr

/-- An `acquire(mapping, uid)` and the BufferRef it returns, on one metadata object from its call
to the release. -/
structure Acquisition where
  mapping : Nat
  uid : Nat
  phase : Phase
deriving DecidableEq, Repr

/-- What happened. `reserved` carries the clock sampled for the block, `prepared`
the timestamp its commit stored; `retired` ends a generation of blocks. -/
inductive Event where
  | reserved (reservation : BlockReservation) (now : Nat)
  | decremented (mapping : Option Nat) (uid : Nat)
  | prepared (descriptor : BufferDescriptor) (mapping : Option Nat) (timestamp : Nat)
  | prepareFailed (reservation : BlockReservation)
  | cancelled (reservation : BlockReservation)
  | cancelFailed (reservation : BlockReservation)
  | allocated (blockId : Nat)
  | retired
  | initialised (succeeded : Bool)
deriving DecidableEq, Repr

/-- The manager, the objects it created and everyone who operates on them.
`nextProcessBlockId` is the counter all managers of the process share. -/
structure State where
  config : ManagerConfig
  pool : GpuBufferPool
  initialising : Option Initialising
  mutex : Option Holder
  publishBlocks : List PublishBlock
  objects : List MetadataObject
  acquisitions : List Acquisition
  nextProcessBlockId : Nat
  clock : Nat
  log : List Event
deriving DecidableEq, Repr

/-- The objects after a write through a mapping. A reservation whose mapping was moved away writes
nothing. -/
def writeObject (objects : List MetadataObject) (mapping : Option Nat) (metadata : BlockMetadata) :
    List MetadataObject :=
  match mapping with
  | none => objects
  | some number => objects.modify number ({ · with metadata := metadata })

/-- The event of an operation which decrements a count for the publisher, and none for its other
operations. -/
def decrements (mapping : Option Nat) (call : SettleCall) : List Event :=
  if call.pc = .fetchSub then [.decremented mapping call.uid] else []

namespace State

/-- Write the words of a metadata object through a mapping, and leave everything else of the
state. -/
def write (state : State) (mapping : Option Nat) (metadata : BlockMetadata) : State :=
  { state with objects := writeObject state.objects mapping metadata }

/-- The words behind a mapping, as long as there is a mapping and it names a created object. -/
def read (state : State) (mapping : Option Nat) : Option BlockMetadata :=
  mapping.bind fun number => state.objects[number]?.map MetadataObject.metadata

/-- Replace a PublishBlock at its place in the list; the list keeps its length. -/
def put (state : State) (index : Nat) (block : PublishBlock) : State :=
  { state with publishBlocks := state.publishBlocks.set index block }

/-- Log an event in front of the others. No step reads the log. -/
def note (state : State) (event : Event) : State := { state with log := event :: state.log }

/-- End the current generation: the pool loses its blocks, and whoever holds a reservation of them
keeps the mapping. -/
def retire (state : State) : State :=
  { state with pool := state.pool.destroyBlocks, log := .retired :: state.log }

/-- `destroy_blocks`: it waits for the mutex, and does nothing if locking failed, so the blocks
stay then. -/
def destroyBlocks (state : State) (locked : Bool) : Option State :=
  if locked = false then some state else if state.mutex.isSome then none else some state.retire

/-- Leave `initialise` with its result, which the log records. The pool is as the last step has
left it. -/
def finish (state : State) (succeeded : Bool) : State :=
  { state with initialising := none, log := .initialised succeeded :: state.log }

/-- The next step of `initialise`. The name and stale-name handling of an object's creation is
part of its outcome `succeeded`.

The checks are those of GpuBufferPool::initialise, which the manager's own reset precedes. Only
where destroying the old blocks could not lock is a thread still inside; the vector is not
replaced under it. -/
def advanceInitialise (state : State) (supply : Supply) : Initialising → Option State
  | .checking =>
    if state.pool.blockCount = 0 ∨ uint32Max < state.pool.blockCount ∨ state.config.byteSize = 0
    then some (state.finish false)
    else
      (if state.pool.initialised ∨ state.pool.blocks ≠ [] then state.destroyBlocks supply.locked
        else some state).map fun cleared => { cleared with initialising := some .retaining }
  | .retaining =>
    if supply.succeeded = false then some (state.finish false)
    else if state.mutex.isSome then none
    else some { state with
      pool := state.pool.resize state.config.byteSize state.config.deviceIndex
      initialising := some (.loading 0)
      log := .retired :: state.log }
  | .loading index =>
    if index < state.pool.blocks.length then
      some { state with initialising := some (.allocating index state.nextProcessBlockId) }
    else some { state with initialising := some .equipping }
  | .allocating index current =>
    if current = uint32Max then (state.destroyBlocks supply.locked).map (finish · false)
    else if state.nextProcessBlockId = current ∧ supply.spurious = false then
      some { state with
        nextProcessBlockId := current + 1
        initialising := some (.creating index current)
        log := .allocated current :: state.log }
    else some { state with initialising := some (.allocating index state.nextProcessBlockId) }
  | .creating index blockId =>
    if supply.succeeded = false then (state.destroyBlocks supply.locked).map (finish · false)
    else some { state with
      objects := state.objects ++ [⟨blockId, BlockMetadata.create supply.initialUid⟩]
      pool := state.pool.identify index blockId state.objects.length
      initialising := some (.loading (index + 1)) }
  | .equipping =>
    let equipped := { state with pool := state.pool.equip supply.resources }
    if supply.succeeded = false then (equipped.destroyBlocks supply.locked).map (finish · false)
    else some ({ equipped with pool := equipped.pool.ready }.finish true)

/-- The reservation of the block at an index reaches its caller: the cursor moves behind the
block, and a new PublishBlock holds it. -/
def grant (state : State) (index mapping uid now : Nat) : Option State :=
  (state.pool.resources index).map fun block =>
    let reservation : BlockReservation :=
      ⟨some mapping, block.blockId, uid, state.pool.publisherPid, index⟩
    { state with
      mutex := none
      pool := { state.pool with nextBlock := (index + 1) % state.pool.blocks.length }
      publishBlocks := state.publishBlocks ++ [⟨reservation, .idle true⟩]
      log := .reserved reservation now :: state.log }

/-- One operation of a commit or cancel: the words it leaves, and its decrement. -/
def settle (state : State) (mapping : Option Nat) (call : SettleCall) (changed : BlockMetadata) :
    State :=
  { state.write mapping changed with log := decrements mapping call ++ state.log }

/-- The next step of the call inside the mutex. A scan visits one block a step, and a BufferRef
call takes a step for each atomic operation. -/
def advanceHolder (state : State) : Holder → Option State
  | .scanning offset =>
    if offset < state.pool.blocks.length then
      let index := state.pool.scanIndex offset
      match (state.pool.resources index).bind GpuBufferBlock.sharedMetadata with
      | none => some { state with mutex := some (.scanning (offset + 1)) }
      | some mapping =>
        some { state with mutex := some (.reserving offset index mapping ReserveCall.start) }
    else some { state with mutex := none }
  | .reserving offset index mapping call =>
    (state.read (some mapping)).bind fun metadata =>
      let after := call.step state.clock metadata
      let written := state.write (some mapping) after.1
      match after.2 with
      | .running next =>
        some { written with mutex := some (.reserving offset index mapping next) }
      | .returned none => some { written with mutex := some (.scanning (offset + 1)) }
      | .returned (some uid) => written.grant index mapping uid call.now
  | .committing index reservation descriptor call =>
    (state.read reservation.mapping).map fun metadata =>
      let after := call.step state.clock metadata
      let settled := state.settle reservation.mapping call after.1
      match after.2 with
      | .running next =>
        { settled with mutex := some (.committing index reservation descriptor next) }
      | .returned released =>
        ({ settled with mutex := none }.put index ⟨reservation, .idle false⟩).note
          (if released then .prepared descriptor reservation.mapping call.now
            else .prepareFailed reservation)

/-- `quarantine` in a failed `prepare_publish`: the PublishBlock gives its owner up, and nobody
decrements the count for it. -/
def quarantine (state : State) (index : Nat) (reservation : BlockReservation) : State :=
  (state.put index ⟨reservation, .idle false⟩).note (.prepareFailed reservation)

/-- `record_ready` in `prepare_publish`, its first step. A PublishBlock without an owner is
refused and stays as it is. -/
def preparePublish (state : State) (index : Nat) (locked recorded : Bool) (stream : Nat) :
    PublishBlock → Option State
  | ⟨_, .idle false⟩ => some state
  | ⟨reservation, .idle true⟩ =>
    if locked ∧ state.mutex.isSome then none
    else
      let after := state.pool.recordReady locked reservation stream recorded
      if after.2 then some ({ state with pool := after.1 }.put index ⟨reservation, .recorded⟩)
      else some (state.quarantine index reservation)
  | _ => none

/-- `try_build_descriptor` in `prepare_publish`, its second step, in a critical section of its
own. -/
def buildDescriptor (state : State) (index : Nat) (locked copied : Bool) :
    PublishBlock → Option State
  | ⟨reservation, .recorded⟩ =>
    if locked ∧ state.mutex.isSome then none
    else
      match state.pool.tryBuildDescriptor locked reservation copied with
      | none => some (state.quarantine index reservation)
      | some descriptor => some (state.put index ⟨reservation, .described descriptor⟩)
  | _ => none

/-- `commit` in `prepare_publish` up to the BufferRef call inside the mutex. Each refusal
quarantines the block. -/
def commit (state : State) (index : Nat) (locked : Bool) : PublishBlock → Option State
  | ⟨reservation, .described descriptor⟩ =>
    if locked = false then some (state.quarantine index reservation)
    else if state.mutex.isSome then none
    else if state.pool.owns reservation = false then some (state.quarantine index reservation)
    else some ({ state with
      mutex := some (.committing index reservation descriptor
        (SettleCall.commitPublish reservation.uid)) }.put index ⟨reservation, .committing⟩)
  | _ => none

/-- `PublishBlock::cancel` up to the BufferRef call, in an operation which goes on afterwards. It
takes no mutex. -/
def beginCancel (state : State) (index : Nat) (after : AfterCancel) : PublishBlock → Option State
  | ⟨reservation, .idle false⟩ => some (state.put index ⟨reservation, after.stage⟩)
  | ⟨reservation, .idle true⟩ =>
    if reservation.publisherPid = state.pool.publisherPid ∧ reservation.mapping ≠ none then
      some (state.put index
        ⟨reservation, .cancelling (SettleCall.cancelPublish reservation.uid) after⟩)
    else some ((state.put index ⟨reservation, after.stage⟩).note (.cancelFailed reservation))
  | _ => none

/-- The next operation of a running cancel on the words of its object, which may belong to a
generation long gone. -/
def advanceCancel (state : State) (index : Nat) : PublishBlock → Option State
  | ⟨reservation, .cancelling call rest⟩ =>
    (state.read reservation.mapping).map fun metadata =>
      let after := call.step state.clock metadata
      let settled := state.settle reservation.mapping call after.1
      match after.2 with
      | .running next => settled.put index ⟨reservation, .cancelling next rest⟩
      | .returned released =>
        (settled.put index ⟨reservation, rest.stage⟩).note
          (if released then .cancelled reservation else .cancelFailed reservation)
  | _ => none

/-- `move_from` in an assignment, when the source is not in an operation itself. The target's own
reservation was cancelled before. -/
def moveFrom (state : State) (target : Nat) : PublishBlock → Option State
  | ⟨_, .assigning source⟩ =>
    match state.publishBlocks[source]? with
    | some ⟨reservation, .idle owner⟩ =>
      some ((state.put target ⟨reservation, .idle owner⟩).put source
        ⟨reservation.moved, .idle false⟩)
    | _ => none
  | _ => none

/-- Move construction of a new PublishBlock, which joins the list behind the others; the source
keeps no owner. -/
def moveConstruct (state : State) (source : Nat) : PublishBlock → Option State
  | ⟨reservation, .idle owner⟩ =>
    let moved := state.put source ⟨reservation.moved, .idle false⟩
    some { moved with publishBlocks := moved.publishBlocks ++ [⟨reservation, .idle owner⟩] }
  | _ => none

/-- `PublishBlock::device_ptr`: null without an owner, and otherwise what the pool answers for the
reservation. -/
def devicePtr (state : State) (locked : Bool) (block : PublishBlock) : Nat :=
  if block.valid then state.pool.devicePtr locked block.reservation else 0

/-- The next operation of an acquire or of an underflowed release. A refused acquire leaves no
BufferRef. -/
def advanceAcquisition (state : State) (number : Nat) (spurious : Bool) :
    Acquisition → Option State
  | ⟨mapping, uid, .acquiring pc⟩ =>
    (state.read (some mapping)).map fun metadata =>
      let after := AcquireCall.step spurious metadata ⟨uid, pc⟩
      let phase : Phase :=
        match after.2 with
        | .running next => .acquiring next.pc
        | .returned valid => if valid then .holding else .refused
      { state.write (some mapping) after.1 with
        acquisitions := state.acquisitions.set number ⟨mapping, uid, phase⟩ }
  | ⟨mapping, uid, .underflowed⟩ =>
    (state.read (some mapping)).map fun metadata =>
      { state.write (some mapping) { metadata with refcount := 0 } with
        acquisitions := state.acquisitions.set number ⟨mapping, uid, .released⟩ }
  | _ => none

/-- `BufferRef::release` of a valid BufferRef. The decrement is one step, and a count of zero
takes a second one to be restored. -/
def release (state : State) (number : Nat) : Acquisition → Option State
  | ⟨mapping, uid, .holding⟩ =>
    (state.read (some mapping)).map fun metadata =>
      { state.write (some mapping) metadata.fetchSub with
        acquisitions := state.acquisitions.set number
          ⟨mapping, uid, if metadata.refcount = 0 then .underflowed else .released⟩ }
  | _ => none

end State

/-- What a thread can do next. Numbers select a PublishBlock, a metadata object
or an acquire. -/
inductive Action where
  | tick (elapsed : Nat)
  | allocateElsewhere
  | initialise (locked : Bool)
  | advanceInitialise (supply : Supply)
  | reset (locked : Bool)
  | acquireForPublish (locked : Bool)
  | advanceHolder
  | preparePublish (index : Nat) (locked recorded : Bool) (stream : Nat)
  | buildDescriptor (index : Nat) (locked copied : Bool)
  | commit (index : Nat) (locked : Bool)
  | cancel (index : Nat)
  | advanceCancel (index : Nat)
  | moveConstruct (source : Nat)
  | moveAssign (target source : Nat)
  | moveFrom (target : Nat)
  | destroy (index : Nat)
  | acquire (mapping uid : Nat)
  | advanceAcquisition (number : Nat) (spurious : Bool)
  | release (number : Nat)
deriving DecidableEq, Repr

/-- One action. Another manager of the process may take a block id at any time. -/
def step (state : State) : Action → Option State
  | .tick elapsed => some { state with clock := state.clock + elapsed }
  | .allocateElsewhere =>
    if state.nextProcessBlockId < uint32Max then
      some { state with nextProcessBlockId := state.nextProcessBlockId + 1 }
    else none
  | .initialise locked =>
    if state.initialising.isSome then none
    else
      (state.destroyBlocks locked).map fun cleared =>
        { cleared with initialising := some .checking }
  | .advanceInitialise supply => state.initialising.bind (state.advanceInitialise supply)
  | .reset locked => if state.initialising.isSome then none else state.destroyBlocks locked
  | .acquireForPublish locked =>
    if state.pool.initialised = false ∨ locked = false then some state
    else if state.mutex.isSome then none
    else if state.pool.blocks = [] then some state
    else some { state with mutex := some (.scanning 0) }
  | .advanceHolder => state.mutex.bind state.advanceHolder
  | .preparePublish index locked recorded stream =>
    state.publishBlocks[index]?.bind (state.preparePublish index locked recorded stream)
  | .buildDescriptor index locked copied =>
    state.publishBlocks[index]?.bind (state.buildDescriptor index locked copied)
  | .commit index locked => state.publishBlocks[index]?.bind (state.commit index locked)
  | .cancel index => state.publishBlocks[index]?.bind (state.beginCancel index .idle)
  | .advanceCancel index => state.publishBlocks[index]?.bind (state.advanceCancel index)
  | .moveConstruct source => state.publishBlocks[source]?.bind (state.moveConstruct source)
  | .moveAssign target source =>
    if target = source then some state
    else state.publishBlocks[target]?.bind (state.beginCancel target (.assigning source))
  | .moveFrom target => state.publishBlocks[target]?.bind (state.moveFrom target)
  | .destroy index => state.publishBlocks[index]?.bind (state.beginCancel index .destroyed)
  | .acquire mapping uid =>
    if mapping < state.objects.length then
      some { state with
        acquisitions := state.acquisitions ++ [⟨mapping, uid, .acquiring .loadUid⟩] }
    else none
  | .advanceAcquisition number spurious =>
    state.acquisitions[number]?.bind (state.advanceAcquisition number spurious)
  | .release number => state.acquisitions[number]?.bind (state.release number)

/-- A constructed manager: nothing is initialised, and the clock is positive. The counter of block
ids is the process's, so it may have any value. -/
def Initial (state : State) : Prop :=
  ∃ config blockCount publisherPid nextBlockId clock, nextBlockId ≤ uint32Max ∧ 0 < clock ∧
    state = ⟨config, GpuBufferPool.construct blockCount publisherPid, none, none, [], [], [],
      nextBlockId, clock, []⟩

/-- A constructed manager for one block of 64 bytes, in the first process state of the examples. -/
def oneBlock : State :=
  ⟨⟨64, 0⟩, GpuBufferPool.construct 1 7, none, none, [], [], [], 0, 1, []⟩

/-- What its `initialise` is answered: every call succeeds, and the block begins with uid 4. -/
def supplied : Supply := ⟨true, true, false, 4, [⟨4096, some ⟨Vector.replicate 64 0, []⟩, []⟩]⟩

/-- An undisturbed `initialise` of the one block, from the call to its success. -/
def initialiseOnce : List Action :=
  .initialise true :: List.replicate 7 (.advanceInitialise supplied)

/-- An undisturbed `acquire_for_publish` which gets the block, from the call to the end of its
critical section. -/
def acquireOnce : List Action := .acquireForPublish true :: List.replicate 8 .advanceHolder

/-- An undisturbed `prepare_publish` of a PublishBlock, each of whose three calls to the pool
succeeds. -/
def publishOnce (index : Nat) : List Action :=
  [.preparePublish index true true 3, .buildDescriptor index true true, .commit index true] ++
    List.replicate 4 .advanceHolder

/-- A reservation of the one block with a uid, as the pool fills it. -/
def reservationOf (uid : Nat) : BlockReservation := ⟨some 0, 0, uid, 7, 0⟩

/-- The log behind the first publication, the latest event first. -/
def publishedLog : List Event :=
  [.prepared ⟨7, 0, 5, 0, 64, [], Vector.replicate 64 0⟩ (some 0) 1, .decremented (some 0) 5,
    .reserved (reservationOf 5) 1, .initialised true, .allocated 0, .retired, .retired]

example : (Reachability.run step oneBlock (initialiseOnce ++ acquireOnce ++ publishOnce 0)).map
    State.log = some publishedLog := by decide +kernel

end GpuBufferManager

end Ros2CudaIpc
