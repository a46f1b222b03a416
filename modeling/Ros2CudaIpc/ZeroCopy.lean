import Ros2CudaIpc.DeferredRelease
import Ros2CudaIpc.GpuBufferManager
import Ros2CudaIpc.StreamOrder

/-!
# A publisher, its subscriber processes and the device

The whole system around one manager. The host side of the publisher and of each
subscriber process is the code's own: the manager with its PublishBlocks and
BufferRefs, and the read handles of a process with their deferred release. The
device executes what they enqueue when its streams allow it, which may be much
later.

A publisher writes a block through the pointer its PublishBlock hands out, and
`prepare_publish` records the block's ready event. Binding a read handle makes the
consumer stream wait for the latest record of that event; reads are enqueued on
the handle's stream while the handle is alive; dropping it records its completion
event, and the worker gives the BufferRef back behind it.

A block's memory is named by the number of its metadata object. Its contents are the
writes executed on it, the oldest first. Host code of one process reaches a block
through one resource; that the resource is the block's own is the import cache's
part.
-/

namespace Ros2CudaIpc.ZeroCopy

open Reachability StreamOrder

universe u

/-- The streams of the device, by the process which owns them: a stream handle means nothing to
another process. -/
inductive Stream where
  | publisher (stream : Nat)
  | reader (process : Nat) (stream : CUstream)
deriving DecidableEq, Repr

/-- What a command does. A write and a ready record carry the uid of the reservation
they were made under, a read the handle it was made through; no command reads them. -/
inductive Task (δ : Type u) where
  | write (mapping uid : Nat) (data : δ)
  | ready (mapping uid : Nat)
  | wait
  | read (mapping reader handle : Nat)
  | completion (reader handle : Nat)
deriving DecidableEq, Repr

variable {δ : Type u}

/-- What a command writes to a block, if it writes to that block at all. -/
def Task.writesTo (mapping : Nat) : Task δ → Option δ
  | .write other _ data => if other = mapping then some data else none
  | _ => none

/-- The command records the ready event of a block, under whatever reservation. -/
def Task.recordsReady (mapping : Nat) : Task δ → Bool
  | .ready other _ => other = mapping
  | _ => false

/-- The command records the ready event of a publication, named by its block and its uid. -/
def Task.announces (mapping uid : Nat) : Task δ → Bool
  | .ready other number => other = mapping && number = uid
  | _ => false

/-- The command records the completion event of a handle, named by its process and its number
there. -/
def Task.completes (reader handle : Nat) : Task δ → Bool
  | .completion process number => process = reader && number = handle
  | _ => false

/-- A subscriber process, and the acquire behind each handle it ever bound, by the
number of the handle. -/
structure Reader where
  process : DeferredRelease.State
  bindings : List Nat
deriving DecidableEq, Repr

/-- The system. `observed` lists what executed reads saw, by the number of the read. -/
structure World (δ : Type u) where
  manager : GpuBufferManager.State
  readers : List Reader
  device : Device Stream (Task δ)
  observed : List (Nat × List δ)
deriving DecidableEq, Repr

namespace World

/-- Enqueue a command on the device, behind everything enqueued so far. -/
def enqueue (world : World δ) (stream : Stream) (awaits : Option Nat) (task : Task δ) : World δ :=
  { world with device := world.device.enqueue ⟨stream, awaits, task⟩ }

/-- The contents of a block: the writes executed on it, the oldest first. -/
def contents (world : World δ) (mapping : Nat) : List δ :=
  world.device.executed.reverse.filterMap fun index =>
    world.device.commands[index]?.bind fun command => command.task.writesTo mapping

/-- An acquire's BufferRef belongs to a handle, whose process gives it back. -/
def Bound (world : World δ) (number : Nat) : Prop :=
  ∃ reader ∈ world.readers, number ∈ reader.bindings

instance (world : World δ) (number : Nat) : Decidable (world.Bound number) :=
  inferInstanceAs (Decidable (∃ _ ∈ _, _))

/-- The completion event of a handle has completed, as its record was executed. -/
def completed (world : World δ) (reader handle : Nat) : Bool :=
  world.device.executed.any fun index =>
    world.device.commands[index]?.any (·.task.completes reader handle)

/-- The ready event a `prepare_publish` has recorded, by the block and the uid, if it has recorded
one. -/
def readyRecord (before after : GpuBufferManager.State) (index : Nat) : Option (Nat × Nat) :=
  match before.publishBlocks[index]?, after.publishBlocks[index]? with
  | some ⟨reservation, .idle true⟩, some ⟨_, .recorded⟩ =>
    reservation.mapping.map fun mapping => (mapping, reservation.uid)
  | _, _ => none

/-- A step of the manager. A BufferRef which belongs to a handle is released by its
handle. -/
def manage (world : World δ) (action : GpuBufferManager.Action) : Option (World δ) :=
  match action with
  | .preparePublish index _ _ stream =>
    (GpuBufferManager.step world.manager action).map fun next =>
      match readyRecord world.manager next index with
      | none => { world with manager := next }
      | some (mapping, uid) =>
        { world with manager := next }.enqueue (.publisher stream) none (.ready mapping uid)
  | .release number =>
    if world.Bound number then none
    else (GpuBufferManager.step world.manager action).map ({ world with manager := · })
  | action => (GpuBufferManager.step world.manager action).map ({ world with manager := · })

/-- Write to the block of a PublishBlock through its `device_ptr`, by a command on the publisher's
stream. -/
def write (world : World δ) (index stream : Nat) (data : δ) : Option (World δ) :=
  match world.manager.publishBlocks[index]? with
  | some ⟨reservation, .idle true⟩ =>
    match reservation.mapping with
    | none => none
    | some mapping =>
      if world.manager.mutex.isSome ∨
          world.manager.devicePtr true ⟨reservation, .idle true⟩ = 0 then none
      else some (world.enqueue (.publisher stream) none (.write mapping reservation.uid data))
  | _ => none

/-- Bind the BufferRef of an acquire to a consumer stream. A bound handle has made the
stream wait for the latest record of the block's ready event. -/
def bind (world : World δ) (reader number : Nat) (outcomes : BindOutcomes)
    (publication : MappedPublication) (stream : CUstream) : Option (World δ) :=
  match world.readers[reader]?, world.manager.acquisitions[number]? with
  | some ⟨process, bindings⟩, some ⟨mapping, uid, .holding⟩ =>
    if world.Bound number ∨ publication.bufferRef ≠ some ⟨true, uid⟩ then none
    else
      (DeferredRelease.step process (.makeBound outcomes publication stream)).map fun next =>
        if next.created = process.created then world
        else
          let awaited :=
            if publication.resource.elim 0 ImportedResources.event = 0 then none
            else world.device.latest (Task.recordsReady mapping)
          { world with readers := world.readers.set reader ⟨next, bindings ++ [number]⟩ }.enqueue
            (.reader reader stream) awaited .wait
  | _, _ => none

/-- What an event of a subscriber process does outside of it: a record is enqueued, a wait has
ended, a reference is released. -/
def perform (reader : Nat) (bindings : List Nat) (world : World δ) :
    DeferredRelease.Event → Option (World δ)
  | .recorded handle _ stream =>
    some (world.enqueue (.reader reader stream) none (.completion reader handle))
  | .synchronized handle _ => if world.completed reader handle then some world else none
  | .bufferRefReleased handle =>
    bindings[handle]?.bind fun number =>
      (GpuBufferManager.step world.manager (.release number)).map ({ world with manager := · })
  | _ => some world

/-- A step of a subscriber process other than a binding, with what its events do outside. -/
def handle (world : World δ) (reader : Nat) (action : DeferredRelease.Action) :
    Option (World δ) :=
  match world.readers[reader]?, action with
  | none, _ | _, .makeBound _ _ _ => none
  | some ⟨process, bindings⟩, action =>
    (DeferredRelease.step process action).bind fun next =>
      (next.log.take (next.log.length - process.log.length)).reverse.foldlM
        (perform reader bindings)
        { world with readers := world.readers.set reader ⟨next, bindings⟩ }

/-- Read the block of a living handle on the handle's stream, by a command enqueued there. -/
def read (world : World δ) (reader index : Nat) : Option (World δ) :=
  world.readers[reader]?.bind fun ⟨process, bindings⟩ =>
    match process.handles[index]? with
    | some (some bound) =>
      (bindings[bound.number]?.bind (world.manager.acquisitions[·]?)).map fun acquisition =>
        world.enqueue (.reader reader bound.impl.consumerStream) none
          (.read acquisition.mapping reader bound.number)
    | _ => none

/-- The device executes a command; executing a read notes what it found. -/
def execute (world : World δ) (index : Nat) : Option (World δ) :=
  (world.device.execute index).map fun next =>
    match world.device.commands[index]?.map Command.task with
    | some (.read mapping _ _) =>
      { world with
        device := next
        observed := (index, world.contents mapping) :: world.observed }
    | _ => { world with device := next }

end World

/-- What happens next: a step of the manager, a write, a binding, a step of a process, a read, or
an execution. -/
inductive Action (δ : Type u) where
  | manage (action : GpuBufferManager.Action)
  | write (index stream : Nat) (data : δ)
  | bind (reader number : Nat) (outcomes : BindOutcomes) (publication : MappedPublication)
      (stream : CUstream)
  | handle (reader : Nat) (action : DeferredRelease.Action)
  | read (reader index : Nat)
  | execute (index : Nat)
deriving DecidableEq, Repr

/-- One action, of whichever party. Their order is left open but for what the device waits for. -/
def step (world : World δ) : Action δ → Option (World δ)
  | .manage action => world.manage action
  | .write index stream data => world.write index stream data
  | .bind reader number outcomes publication stream =>
    world.bind reader number outcomes publication stream
  | .handle reader action => world.handle reader action
  | .read reader index => world.read reader index
  | .execute index => world.execute index

/-- A constructed manager, any number of processes without handles, and an idle device. -/
def Initial (world : World δ) : Prop :=
  GpuBufferManager.Initial world.manager ∧
    (∀ reader ∈ world.readers, reader = ⟨DeferredRelease.initial, []⟩) ∧
      world.device = Device.idle ∧ world.observed = []

/-- What was written to a block in front of the ready record of a publication. -/
def published (commands : List (Command Stream (Task δ))) (mapping uid : Nat) : List δ :=
  (commands.takeWhile fun command => !command.task.announces mapping uid).filterMap
    fun command => command.task.writesTo mapping

end Ros2CudaIpc.ZeroCopy
