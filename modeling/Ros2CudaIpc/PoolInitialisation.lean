import Ros2CudaIpc.AllocationSize
import Ros2CudaIpc.GpuBufferPool
import Ros2CudaIpc.MetadataNames
import Ros2CudaIpc.ReadHandle
import Ros2CudaIpc.SharedOwnership
import Ros2CudaIpc.UniqueOwnership

/-!
# A pool's initialisation and its resources

The pool builds its blocks in three passes: metadata objects, device memory with its
socket servers, events. A failure leaves finished blocks, one half-built state and
untouched blocks. The backend clears all blocks at once when one of them fails, and the
pool clears them again.

The world counts what is acquired and released: every driver object and descriptor has
one owner, the retained contexts are shared, and the names and socket paths which the
pool's process created are listed while they exist. An answer of the world to a call is
an input, numbered by the block which is being handled. A refused call acquires nothing.
Reservations, publications and subscribers acquire nothing of this. The contents of the
mappings are not modelled; what a context guard pushes it pops.

Of the exceptions the one of `blocks_.resize` is modelled, which leaves the pool with a
context and without blocks. Any other one leaves blocks, or a pool which is empty already;
the prior states of an `initialise` are not restricted to those modelled here.
-/

namespace Ros2CudaIpc.PoolInitialisation

open FormattedText MetadataNames SharedOwnership UniqueOwnership

/-- What a numbered resource is: a descriptor, a thread, or an object of the driver. -/
inductive Kind where
  | shmFd
  | address
  | allocation
  | shareableFd
  | socket
  | worker
  | event
deriving DecidableEq, Repr

/-- The resources and contexts acquired so far, and the names and socket paths which
exist. -/
structure World where
  resources : List (Resource Kind)
  contexts : List ControlBlock
  names : List (List Char)
  paths : List (List Char)
deriving DecidableEq, Repr

namespace World

/-- Before anything is acquired: no resource, no context, no name and no path. -/
def empty : World := ⟨[], [], [], []⟩

/-- The world with one resource more, and its number, which no earlier resource has. -/
def acquire (world : World) (kind : Kind) : World × Nat :=
  ({ world with resources := UniqueOwnership.acquire world.resources kind },
    world.resources.length)

/-- Release the resource of a number. Releasing it again would be counted, too. -/
def release (world : World) (number : Nat) : World :=
  { world with resources := UniqueOwnership.release world.resources number }

/-- Release a resource if there is one; a member which is not set is left alone. -/
def releaseHeld (world : World) : Option Nat → World
  | none => world
  | some number => world.release number

/-- The world with one retained context more, and its number; the one reference is its owner's. -/
def retain (world : World) : World × Nat :=
  ({ world with contexts := world.contexts ++ [ControlBlock.construct] }, world.contexts.length)

/-- A shared pointer to a context is copied, which retains nothing anew. -/
def copyContext (world : World) (number : Nat) : World :=
  { world with contexts := copyReference world.contexts number }

/-- A shared pointer to a context ends; the last one releases the context. -/
def dropContext (world : World) (number : Nat) : World :=
  { world with contexts := dropReference world.contexts number }

/-- A shared pointer to a context ends, if there is one. -/
def dropContextHeld (world : World) : Option Nat → World
  | none => world
  | some number => world.dropContext number

/-- `shm_open` created an object of a name, which did not exist before. -/
def shmOpen (world : World) (name : List Char) : World :=
  { world with names := name :: world.names }

/-- `shm_unlink` of a name, after which it does not exist, whether or not it did before. -/
def shmUnlink (world : World) (name : List Char) : World :=
  { world with names := world.names.filter (fun other => other ≠ name) }

/-- `bind` created a socket at a path, which stays until it is unlinked. -/
def bind (world : World) (path : List Char) : World :=
  { world with paths := path :: world.paths }

/-- `unlink` of a path, after which it does not exist, whether or not it did before. -/
def unlink (world : World) (path : List Char) : World :=
  { world with paths := world.paths.filter (fun other => other ≠ path) }

end World

/-- The world behind an operation, its value, and whether it succeeded. A failed one may have a
value to clean up. -/
structure Attempt (α : Type) where
  world : World
  value : α
  succeeded : Bool

/-- The members of `UnixFdServer` which own something; a worker is joinable while it is
there. -/
structure UnixFdServer where
  path : List Char
  listenFd : Option Nat
  worker : Option Nat
deriving DecidableEq, Repr

/-- The answers to the calls of `start`, in the order of the calls. -/
structure ServerAnswers where
  socket : Bool
  bound : Bool
  listening : Bool
deriving DecidableEq, Repr

/-- `sizeof(sun_path) - 1`, the longest path which is copied with its terminating zero. -/
def sunPathRoom : Nat := 107

namespace UnixFdServer

/-- `stop`: the socket is closed, the thread joined and the path unlinked, each if it is there. -/
def stop (server : UnixFdServer) (world : World) : World × UnixFdServer :=
  let closed := world.releaseHeld server.listenFd
  let joined := closed.releaseHeld server.worker
  (joined.unlink server.path, { server with listenFd := none, worker := none })

/-- `start`: it stops first, and undoes what it did when a call fails. The path is copied into the
address by `strncpy`. -/
def start (server : UnixFdServer) (answers : ServerAnswers) (world : World) :
    Attempt UnixFdServer :=
  let stopped := server.stop world
  if answers.socket = false then ⟨stopped.1, stopped.2, false⟩
  else
    let sock := stopped.1.acquire .socket
    let cleared := sock.1.unlink server.path
    if answers.bound = false then ⟨cleared.release sock.2, stopped.2, false⟩
    else
      let bound := cleared.bind (server.path.take sunPathRoom)
      if answers.listening = false then ⟨bound.release sock.2, stopped.2, false⟩
      else
        let worker := bound.acquire .worker
        ⟨worker.1, { server with listenFd := some sock.2, worker := some worker.2 }, true⟩

/-- `server->stop(); server.reset()`: the destructor stops once more, which then finds nothing. -/
def destruct (server : UnixFdServer) (world : World) : World :=
  let stopped := server.stop world
  (stopped.2.stop stopped.1).1

end UnixFdServer

/-- The server a state may have ends, with its socket, its thread and its path. -/
def destructServer : Option UnixFdServer → World → World
  | none, world => world
  | some server, world => server.destruct world

/-- `VmmFdBlockState`: what one block's memory consists of. An address belongs to a size above
zero. -/
structure VmmFdBlockState where
  allocation : Option Nat
  address : Option Nat
  allocationSize : UInt64
  shareableFd : Option Nat
  server : Option UnixFdServer
  sized : address ≠ none → 0 < allocationSize

/-- `~VmmFdBlockState`. The range is unmapped on its way; where it was never mapped that
call fails and changes nothing. -/
def VmmFdBlockState.destruct (state : VmmFdBlockState) (world : World) : World :=
  let stopped := destructServer state.server world
  let closed := stopped.releaseHeld state.shareableFd
  let unmapped := if 0 < state.allocationSize then closed.releaseHeld state.address else closed
  unmapped.releaseHeld state.allocation

/-- The answers to the calls for one block's memory. The driver reserves no range of no
bytes; an exported descriptor is a valid one. -/
structure VmmAnswers where
  addressReserve : UInt64 → Bool
  created : Bool
  mapped : Bool
  accessible : Bool
  exported : Bool
  uuid : Vector Char 36
  server : ServerAnswers
  refusesNothing : addressReserve 0 = false

/-- What every socket path begins with, ahead of the uuid. -/
def socketStem : List Char := "/tmp/cuda_memory_pool_".toList

/-- What every socket path ends with, behind the uuid. -/
def socketSuffix : List Char := ".sock".toList

/-- `build_socket_path` of a uuid, which has 36 characters in its usual form. -/
def buildSocketPath (uuid : Vector Char 36) : List Char := socketStem ++ uuid.toList ++ socketSuffix

/-- A driver which reserves a range was asked for some bytes, as it refuses a size of zero. -/
theorem VmmAnswers.positive (answers : VmmAnswers) {size : UInt64}
    (reserved : ¬ answers.addressReserve size = false) : 0 < size := by
  refine UInt64.pos_iff_ne_zero.mpr ?_
  rintro rfl
  exact reserved answers.refusesNothing

/-- The turn of `allocate_vmm_fd_memory` for one block, up to the point where the state
moves into the block. -/
def buildState (answers : VmmAnswers) (size : UInt64) (world : World) :
    Attempt VmmFdBlockState :=
  if reserved : answers.addressReserve size = false then
    ⟨world, ⟨none, none, size, none, none, fun reserved => absurd rfl reserved⟩, false⟩
  else
    have sized : 0 < size := answers.positive reserved
    let address := world.acquire .address
    if answers.created = false then
      ⟨address.1, ⟨none, some address.2, size, none, none, fun _ => sized⟩, false⟩
    else
      let allocation := address.1.acquire .allocation
      if answers.mapped = false ∨ answers.accessible = false ∨ answers.exported = false then
        ⟨allocation.1,
          ⟨some allocation.2, some address.2, size, none, none, fun _ => sized⟩, false⟩
      else
        let fd := allocation.1.acquire .shareableFd
        let server : UnixFdServer := ⟨buildSocketPath answers.uuid, none, none⟩
        let started := server.start answers.server fd.1
        ⟨started.world,
          ⟨some allocation.2, some address.2, size, some fd.2, some started.value, fun _ => sized⟩,
          started.succeeded⟩

/-- An `InterprocessEvent` object: its event, its shared pointer to the context, and the
handle it exports. -/
structure ReadyEvent where
  event : Nat
  context : Nat
  handle : InterprocessEvent
deriving DecidableEq, Repr

/-- `~InterprocessEvent`; without the context on top the event is given up and stays, while the
shared pointer ends. -/
def ReadyEvent.destruct (ready : ReadyEvent) (activated : Bool) (world : World) : World :=
  let world := if activated then world.release ready.event else world
  world.dropContext ready.context

/-- `backend::GpuBufferBlock`. The metadata mapping is given by its name; a device
pointer by the number of its address. -/
structure Block where
  blockId : UInt32
  sharedMetadata : Option (List Char)
  devicePtr : Option Nat
  readyEvent : Option ReadyEvent
  vmmSocketPath : List Char
  vmmFdState : Option VmmFdBlockState

/-- A default-constructed block, as `resize` appends it: without memory, event or name. -/
def Block.empty : Block := ⟨0, none, none, none, [], none⟩

/-- The block's event object ends, if it has one. The activation is that of the event's own
context. -/
def Block.resetEvent (block : Block) (activated : Bool) (world : World) : World :=
  match block.readyEvent with
  | none => world
  | some ready => ready.destruct activated world

/-- The block's memory state ends, if it has one, with everything it has got so far. -/
def Block.resetState (block : Block) (world : World) : World :=
  match block.vmmFdState with
  | none => world
  | some state => state.destruct world

/-- What a turn of a loop over the blocks leaves; a failure ends the loop. -/
structure Turn (φ : Type) where
  world : World
  block : Block
  failure : Option φ

/-- What the loop leaves: the world, all blocks, handled or not, and the failure which ended it. -/
structure Pass (φ : Type) where
  world : World
  blocks : List Block
  failure : Option φ

/-- `for (auto& block : blocks)`, from an index on. A failing turn ends the loop, and later blocks
stay as they are. -/
def forBlocks {φ : Type} (turn : Nat → World → Block → Turn φ) :
    Nat → World → List Block → Pass φ
  | _, world, [] => ⟨world, [], none⟩
  | index, world, block :: rest =>
    let taken := turn index world block
    match taken.failure with
    | some failure => ⟨taken.world, taken.block :: rest, some failure⟩
    | none =>
      let after := forBlocks turn (index + 1) taken.world rest
      ⟨after.world, taken.block :: after.blocks, after.failure⟩

/-- One turn of `destroy_vmm_fd_memory`: the state is destroyed, and the members which named it
are cleared. -/
def destroyVmmTurn (_ : Nat) (world : World) (block : Block) : Turn Empty :=
  ⟨block.resetState world,
    { block with devicePtr := none, vmmFdState := none, vmmSocketPath := [] }, none⟩

/-- `destroy_vmm_fd_memory` over all blocks, which cannot fail. -/
def destroyVmmFdMemory (world : World) (blocks : List Block) : Pass Empty :=
  forBlocks destroyVmmTurn 0 world blocks

/-- One turn of `allocate_vmm_fd_memory`; a failure leaves the state it has built beside the
blocks. -/
def vmmTurn (answers : Nat → VmmAnswers) (size : UInt64) (index : Nat) (world : World)
    (block : Block) : Turn VmmFdBlockState :=
  let built := buildState (answers index) size world
  if built.succeeded = false then ⟨built.world, block, some built.value⟩
  else
    ⟨block.resetState built.world,
      { block with
        vmmSocketPath := buildSocketPath (answers index).uuid
        devicePtr := built.value.address
        vmmFdState := some built.value },
      none⟩

/-- The answers to `allocate_vmm_fd_memory`: the driver, the granularity, and those for each
block. -/
structure MemoryAnswers where
  driver : Bool
  granularity : Option UInt64
  blocks : Nat → VmmAnswers

/-- `allocate_vmm_fd_memory`. At a failure all blocks are cleared; then the state of the
turn ends. -/
def allocateVmmFdMemory (answers : MemoryAnswers) (byteSize : UInt64) (world : World)
    (blocks : List Block) : Attempt (List Block) :=
  if answers.driver = false then ⟨world, blocks, false⟩
  else
    match answers.granularity with
    | none => ⟨world, blocks, false⟩
    | some granularity =>
      let pass := forBlocks (vmmTurn answers.blocks (alignUp byteSize granularity)) 0 world blocks
      match pass.failure with
      | none => ⟨pass.world, pass.blocks, true⟩
      | some state =>
        let cleared := destroyVmmFdMemory pass.world pass.blocks
        ⟨state.destruct cleared.world, cleared.blocks, false⟩

/-- The answers to `InterprocessEvent::create`: the activation, the creation and the export. -/
structure EventAnswers where
  activated : Bool
  created : Bool
  exported : Option (Vector UInt8 64)

/-- `InterprocessEvent::create` with a copy of a shared pointer to the context. A failure destroys
both the event and the copy. -/
def createEvent (answers : EventAnswers) (context : Nat) (world : World) :
    World × Option ReadyEvent :=
  let copied := world.copyContext context
  if answers.activated = false ∨ answers.created = false then (copied.dropContext context, none)
  else
    let event := copied.acquire .event
    match answers.exported with
    | none => ((event.1.release event.2).dropContext context, none)
    | some handle => (event.1, some ⟨event.2, context, ⟨handle, []⟩⟩)

/-- One turn of the loop over the events. A new event object replaces the one before. -/
def eventTurn (answers : Nat → EventAnswers) (replaced : Nat → Bool) (context : Nat) (index : Nat)
    (world : World) (block : Block) : Turn Unit :=
  let created := createEvent (answers index) context world
  match created.2 with
  | none => ⟨created.1, block, some ()⟩
  | some ready =>
    ⟨block.resetEvent (replaced index) created.1, { block with readyEvent := some ready }, none⟩

/-- `NAME_MAX`, beyond which `shm_open` refuses a name. -/
def nameMax : Nat := 255

/-- The error number of `shm_open` for a name which exists already. -/
def EEXIST : Int32 := 17

/-- The error number of `shm_unlink` for a name which does not exist. -/
def ENOENT : Int32 := 2

/-- The answers to `BufferMetadata::create`, and `errno` where it returns null. -/
structure CreateAnswers where
  opened : Bool
  truncated : Bool
  mapped : Bool
  errno : Int32
deriving DecidableEq, Repr

/-- `BufferMetadata::create`: whether it returns a mapping. The descriptor is closed either way,
the name is unlinked on a failure behind its creation. -/
def createMetadata (answers : CreateAnswers) (name : List Char) (world : World) : World × Bool :=
  if answers.opened = false then (world, false)
  else
    let fd := world.acquire .shmFd
    let opened := fd.1.shmOpen name
    if answers.truncated = false ∨ answers.mapped = false then
      ((opened.release fd.2).shmUnlink name, false)
    else (opened.release fd.2, true)

/-- The answers to one block's turn: the id `allocate_process_block_id` returns, both
calls of `create`, and the errno of the `shm_unlink` between them, if it fails. -/
structure MetadataAnswers where
  blockId : Option UInt32
  first : CreateAnswers
  unlinkFailed : Option Int32
  second : CreateAnswers
deriving DecidableEq, Repr

/-- The second attempt, once the stale object's name is gone or was found gone. -/
def replaceStale (answers : MetadataAnswers) (name : List Char) (world : World) : World × Bool :=
  match answers.unlinkFailed with
  | none => createMetadata answers.second name (world.shmUnlink name)
  | some errno =>
    if errno = ENOENT then createMetadata answers.second name world else (world, false)

/-- The object of a block's name, if need be in place of a stale one. -/
def createReplacing (answers : MetadataAnswers) (name : List Char) (world : World) :
    World × Bool :=
  let first := createMetadata answers.first name world
  if first.2 = false ∧ answers.first.errno = EEXIST then replaceStale answers name first.1
  else first

/-- One turn of the loop over the metadata objects: a block id, and an object under its name. -/
def metadataTurn (locale : NumPunct) (publisherPid : UInt32) (answers : Nat → MetadataAnswers)
    (index : Nat) (world : World) (block : Block) : Turn Unit :=
  match (answers index).blockId with
  | none => ⟨world, block, some ()⟩
  | some blockId =>
    let name := shmNameForBlock locale publisherPid blockId
    if nameMax < name.length then ⟨world, block, some ()⟩
    else
      let mapping := createReplacing (answers index) name world
      if mapping.2 = false then ⟨mapping.1, block, some ()⟩
      else ⟨mapping.1, { block with blockId := blockId, sharedMetadata := some name }, none⟩

/-- The members of `GpuBufferPool` apart from its mutex, which no other thread takes here. -/
structure Pool where
  blockCount : Nat
  blocks : List Block
  nextBlock : Nat
  byteSize : UInt64
  deviceIndex : Int
  publisherPid : UInt32
  initialised : Bool
  context : Option Nat

/-- What `destroy_blocks` meets: its lock, and the activation of the context for each
block's event. The guard around the memory is not needed to release it. -/
structure Cleanup where
  locked : Bool
  activated : Nat → Bool

/-- The calls of a cleanup succeed. Unlinking, closing and the driver's releases have no
failing outcome here. Two more calls belong to a cleanup: without its mutex
`destroy_blocks` releases nothing, and an event whose context cannot be activated is
given up and not destroyed. -/
structure Cleanup.Succeeds (cleanup : Cleanup) : Prop where
  mutex : cleanup.locked = true
  contexts : ∀ index, cleanup.activated index = true

namespace Pool

/-- `GpuBufferPool(block_count)` in a process: without blocks and without a context. -/
def construct (blockCount : Nat) (publisherPid : UInt32) : Pool :=
  ⟨blockCount, [], 0, 0, -1, publisherPid, false, none⟩

/-- One turn of the loop which resets the events, with the context of each event activated or not.
-/
def resetEventTurn (activated : Nat → Bool) (index : Nat) (world : World) (block : Block) :
    Turn Empty :=
  ⟨block.resetEvent (activated index) world, { block with readyEvent := none }, none⟩

/-- One turn of the loop which unlinks the metadata objects' names and takes the blocks' identity
away. -/
def unlinkTurn (_ : Nat) (world : World) (block : Block) : Turn Empty :=
  match block.sharedMetadata with
  | none => ⟨world, { block with blockId := 0 }, none⟩
  | some name => ⟨world.shmUnlink name, { block with sharedMetadata := none, blockId := 0 }, none⟩

/-- `destroy_blocks`: the events, the memory, the names and the context, in this order. Without
the lock it does nothing. -/
def destroyBlocks (pool : Pool) (cleanup : Cleanup) (world : World) : World × Pool :=
  if cleanup.locked = false then (world, pool)
  else
    let events := forBlocks (resetEventTurn cleanup.activated) 0 world pool.blocks
    let memory := destroyVmmFdMemory events.world events.blocks
    let names := forBlocks unlinkTurn 0 memory.world memory.blocks
    (names.world.dropContextHeld pool.context,
      { pool with
        blocks := []
        nextBlock := 0
        byteSize := 0
        deviceIndex := -1
        initialised := false
        context := none })

/-- One turn of the block destructors, members in reverse order; the names are not unlinked by
them. -/
def clearTurn (activated : Nat → Bool) (index : Nat) (world : World) (block : Block) :
    Turn Empty :=
  ⟨block.resetEvent (activated index) (block.resetState world), Block.empty, none⟩

/-- What one call of `initialise` meets; `resized` says whether the vector of the blocks
can be allocated. -/
structure Answers where
  locale : NumPunct
  retiring : Cleanup
  retained : Bool
  clearing : Nat → Bool
  resized : Bool
  metadata : Nat → MetadataAnswers
  guarded : Bool
  memory : MemoryAnswers
  events : Nat → EventAnswers
  replaced : Nat → Bool
  rollback : Cleanup

/-- `allocate_blocks`: memory for all blocks, then events. A pool without a context, or whose
context is not activated, gets nothing. -/
def allocateBlocks (pool : Pool) (answers : Answers) (world : World) : Attempt Pool :=
  match pool.context with
  | none => ⟨world, pool, false⟩
  | some context =>
    if answers.guarded = false then ⟨world, pool, false⟩
    else
      let memory := allocateVmmFdMemory answers.memory pool.byteSize world pool.blocks
      if memory.succeeded = false then ⟨memory.world, { pool with blocks := memory.value }, false⟩
      else
        let events := forBlocks (eventTurn answers.events answers.replaced context) 0 memory.world
          memory.value
        ⟨events.world, { pool with blocks := events.blocks }, events.failure.isNone⟩

/-- What `initialise` leaves, and its result or its exception, behind which the pool is still
there. -/
structure Ended where
  world : World
  pool : Pool
  result : Except Exception Bool

/-- The end of an `initialise` which fails behind the allocation of the blocks: they are
destroyed, and it returns false. -/
def rollBack (pool : Pool) (answers : Answers) (world : World) : Ended :=
  let destroyed := pool.destroyBlocks answers.rollback world
  ⟨destroyed.1, destroyed.2, .ok false⟩

/-- The pool with new blocks for a request, and with the context which was retained for it. -/
def configure (pool : Pool) (byteSize : UInt64) (deviceIndex : Int) (context : Nat)
    (blocks : List Block) : Pool :=
  { pool with
    blocks := blocks, byteSize := byteSize, deviceIndex := deviceIndex, context := some context }

/-- `initialise` behind the retained context: the new one replaces what the pool had. The
vector is cleared before it is resized, so an exception finds the pool without blocks. -/
def build (pool : Pool) (answers : Answers) (byteSize : UInt64) (deviceIndex : Int)
    (world : World) : Ended :=
  let retained := world.retain
  let replaced := retained.1.dropContextHeld pool.context
  let cleared := forBlocks (clearTurn answers.clearing) 0 replaced pool.blocks
  if answers.resized = false then
    ⟨cleared.world, pool.configure byteSize deviceIndex retained.2 [], .error .badAlloc⟩
  else
    let metadata := forBlocks (metadataTurn answers.locale pool.publisherPid answers.metadata) 0
      cleared.world (List.replicate pool.blockCount Block.empty)
    let named := pool.configure byteSize deviceIndex retained.2 metadata.blocks
    if metadata.failure.isSome then named.rollBack answers metadata.world
    else
      let allocated := named.allocateBlocks answers metadata.world
      if allocated.succeeded = false then allocated.value.rollBack answers allocated.world
      else
        ⟨allocated.world, { allocated.value with initialised := true, nextBlock := 0 }, .ok true⟩

/-- What `initialise` destroys first. Whether the pool has a context is not asked, so one without
blocks keeps it. -/
def retire (pool : Pool) (cleanup : Cleanup) (world : World) : World × Pool :=
  if pool.initialised = true ∨ pool.blocks.isEmpty = false then pool.destroyBlocks cleanup world
  else (world, pool)

/-- `initialise`, up to the retained context and then in `build`. The cleanup of orphaned metadata
objects touches no name of a living process, so it is left out. -/
def initialise (pool : Pool) (answers : Answers) (byteSize : UInt64) (deviceIndex : Int)
    (world : World) : Ended :=
  if pool.blockCount = 0 ∨ uint32Max < pool.blockCount ∨ byteSize = 0 then ⟨world, pool, .ok false⟩
  else
    let cleared := pool.retire answers.retiring world
    if answers.retained = false then ⟨cleared.1, cleared.2, .ok false⟩
    else cleared.2.build answers byteSize deviceIndex cleared.1

end Pool

/-- A pool and its world, which also has what other owners acquired. -/
structure State where
  pool : Pool
  world : World

/-- The calls which acquire or release resources, with what they meet; the destructor does what
`reset` does. -/
inductive Call where
  | initialise (answers : Pool.Answers) (byteSize : UInt64) (deviceIndex : Int)
  | reset (cleanup : Cleanup)

/-- The cleanup calls in a call succeed, both those of its own beginning and those of its
rollback. -/
def Call.CleanupSucceeds : Call → Prop
  | .initialise answers _ _ => answers.retiring.Succeeds ∧ answers.rollback.Succeeds
  | .reset cleanup => cleanup.Succeeds

/-- One call, which always ends, be it by an exception. -/
def step (state : State) : Call → Option State
  | .initialise answers byteSize deviceIndex =>
    let ended := state.pool.initialise answers byteSize deviceIndex state.world
    some ⟨ended.pool, ended.world⟩
  | .reset cleanup =>
    let destroyed := state.pool.destroyBlocks cleanup state.world
    some ⟨destroyed.2, destroyed.1⟩

/-- A constructed pool in a world in which nothing was acquired yet. -/
def Initial (state : State) : Prop :=
  ∃ blockCount publisherPid, state = ⟨Pool.construct blockCount publisherPid, World.empty⟩

end Ros2CudaIpc.PoolInitialisation
