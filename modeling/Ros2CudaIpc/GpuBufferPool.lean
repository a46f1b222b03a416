import Ros2CudaIpc.BufferRef

/-!
# The pool's blocks and the calls under its mutex

A pool owns one vector of blocks at a time. A block names its metadata object by
the number of the object, in the order of creation, where the source holds a
shared pointer; comparing numbers compares pointers. A reservation carries that
number together with the block's wire identity and its index in the vector.

The calls below run inside the pool mutex and touch nothing but the pool, so each
is one step. `locked` says whether the mutex was acquired: a failed lock refuses
the call. Everything that operates on a metadata object takes several steps and
is modelled with the manager.
-/

namespace Ros2CudaIpc

/-- `detail::InterprocessEvent`: its exported handle, and the streams on which it
has been recorded, the latest first. -/
structure InterprocessEvent where
  ipcHandle : Vector UInt8 64
  records : List Nat
deriving DecidableEq, Repr

/-- `backend::GpuBufferBlock`. A block without metadata has block id zero, and its device pointer
is null until memory was allocated. -/
structure GpuBufferBlock where
  blockId : Nat
  sharedMetadata : Option Nat
  devicePtr : Nat
  readyEvent : Option InterprocessEvent
  vmmSocketPath : List UInt8
deriving DecidableEq, Repr

/-- A default-constructed block, as `resize` appends it: no identity, no memory and no event. -/
def GpuBufferBlock.empty : GpuBufferBlock := ⟨0, none, 0, none, []⟩

/-- What `allocate_blocks` stores in one block: the pointer, the ready event and the path of the
socket which exports the memory. -/
structure BlockResources where
  devicePtr : Nat
  readyEvent : Option InterprocessEvent
  vmmSocketPath : List UInt8
deriving DecidableEq, Repr

/-- `GpuBufferPool::BlockReservation`: the mapping of the metadata object, the wire identity, the
granted uid, and the index in the vector. -/
structure BlockReservation where
  mapping : Option Nat
  blockId : Nat
  uid : Nat
  publisherPid : Nat
  poolIndex : Nat
deriving DecidableEq, Repr

/-- A reservation after its move: only the shared pointer is taken away, and the numbers stay as
they were. -/
def BlockReservation.moved (reservation : BlockReservation) : BlockReservation :=
  { reservation with mapping := none }

/-- `transport::BufferDescriptor`, everything a subscriber needs to find, check and import the
block. -/
structure BufferDescriptor where
  publisherPid : Nat
  blockId : Nat
  uid : Nat
  deviceId : Int
  byteSize : Nat
  vmmSocketPath : List UInt8
  readyEventHandle : Vector UInt8 64
deriving DecidableEq, Repr

/-- The fields of a `GpuBufferPool` apart from its mutex and its context, which the manager and
the initialisation have. -/
structure GpuBufferPool where
  blockCount : Nat
  blocks : List GpuBufferBlock
  nextBlock : Nat
  byteSize : Nat
  deviceIndex : Int
  publisherPid : Nat
  initialised : Bool
deriving DecidableEq, Repr

namespace GpuBufferPool

/-- `GpuBufferPool(block_count)` in a process: no block, no sizes, and device -1 until it is
initialised. -/
def construct (blockCount publisherPid : Nat) : GpuBufferPool :=
  ⟨blockCount, [], 0, 0, -1, publisherPid, false⟩

/-- `destroy_blocks` inside the mutex. The names it unlinks are not attached to
by number, so mappings which others still hold are untouched. -/
def destroyBlocks (pool : GpuBufferPool) : GpuBufferPool :=
  { pool with
    blocks := [], nextBlock := 0, byteSize := 0, deviceIndex := -1, initialised := false }

/-- `blocks_.clear(); blocks_.resize(block_count_)` for the configured sizes, which are stored at
the same time. -/
def resize (pool : GpuBufferPool) (byteSize : Nat) (deviceIndex : Int) : GpuBufferPool :=
  { pool with
    byteSize := byteSize
    deviceIndex := deviceIndex
    blocks := List.replicate pool.blockCount GpuBufferBlock.empty }

/-- Give a block its identity and its metadata object, and leave its neighbours alone. -/
def identify (pool : GpuBufferPool) (index blockId mapping : Nat) : GpuBufferPool :=
  { pool with
    blocks := pool.blocks.modify index fun block =>
      { block with blockId := blockId, sharedMetadata := some mapping } }

/-- The blocks with the resources `allocate_blocks` obtained for the first of them. A failure in
between leaves the rest without. -/
def equip (pool : GpuBufferPool) (resources : List BlockResources) : GpuBufferPool :=
  { pool with
    blocks := pool.blocks.mapIdx fun index block =>
      match resources[index]? with
      | none => block
      | some obtained =>
        { block with
          devicePtr := obtained.devicePtr
          readyEvent := obtained.readyEvent
          vmmSocketPath := obtained.vmmSocketPath } }

/-- The end of a successful `initialise`: the pool may be used, and the cursor points to the first
block. -/
def ready (pool : GpuBufferPool) : GpuBufferPool :=
  { pool with initialised := true, nextBlock := 0 }

/-- `resources(pool_index)`: the block at an index, and nothing beyond the vector. -/
def resources (pool : GpuBufferPool) (poolIndex : Nat) : Option GpuBufferBlock :=
  pool.blocks[poolIndex]?

/-- The index a reservation scan visits at an offset, counted round the vector from the cursor. -/
def scanIndex (pool : GpuBufferPool) (offset : Nat) : Nat :=
  (pool.nextBlock + offset) % pool.blocks.length

/-- `owns`: the reservation names the block which still stands at its index, by process, block id
and metadata object. -/
def owns (pool : GpuBufferPool) (reservation : BlockReservation) : Bool :=
  if pool.initialised = false ∨ reservation.publisherPid ≠ pool.publisherPid ∨
      reservation.mapping = none then false
  else
    match pool.resources reservation.poolIndex with
    | none => false
    | some block =>
      block.blockId = reservation.blockId && block.sharedMetadata = reservation.mapping

/-- `owns(reservation) ? resources(reservation.pool_index) : nullptr`, by which every call of a
reservation begins. -/
def owned (pool : GpuBufferPool) (reservation : BlockReservation) : Option GpuBufferBlock :=
  if pool.owns reservation then pool.resources reservation.poolIndex else none

/-- `device_ptr(reservation)`; zero is the null pointer, which the call returns for a reservation
the pool does not own. -/
def devicePtr (pool : GpuBufferPool) (locked : Bool) (reservation : BlockReservation) : Nat :=
  if locked = false then 0
  else
    match pool.owned reservation with
    | none => 0
    | some block => block.devicePtr

/-- `record_ready(reservation, stream)`: the pool, and whether it succeeded.
`recorded` is the outcome of the event's own record call. -/
def recordReady (pool : GpuBufferPool) (locked : Bool) (reservation : BlockReservation)
    (stream : Nat) (recorded : Bool) : GpuBufferPool × Bool :=
  if locked = false then (pool, false)
  else
    match (pool.owned reservation).bind GpuBufferBlock.readyEvent with
    | none => (pool, false)
    | some event =>
      if recorded = false then (pool, false)
      else
        ({ pool with
          blocks := pool.blocks.modify reservation.poolIndex fun block =>
            { block with readyEvent := some { event with records := stream :: event.records } } },
          true)

/-- `try_build_descriptor(reservation)`; `copied` fails when building it throws, and the call
returns nothing then. -/
def tryBuildDescriptor (pool : GpuBufferPool) (locked : Bool) (reservation : BlockReservation)
    (copied : Bool) : Option BufferDescriptor :=
  if locked = false then none
  else
    match pool.owned reservation with
    | none => none
    | some block =>
      match block.readyEvent with
      | none => none
      | some event =>
        if copied = false then none
        else some
          { publisherPid := reservation.publisherPid
            blockId := block.blockId
            uid := reservation.uid
            deviceId := pool.deviceIndex
            byteSize := pool.byteSize
            vmmSocketPath := block.vmmSocketPath
            readyEventHandle := event.ipcHandle }

/-- The identity of each block: its wire identity and its metadata object. Everything `owns`
compares is among them. -/
def identities (pool : GpuBufferPool) : List (Nat × Option Nat) :=
  pool.blocks.map fun block => (block.blockId, block.sharedMetadata)

/-- The numbers of the metadata objects the pool's blocks hold. A block which was not identified
yet has none. -/
def mappings (pool : GpuBufferPool) : List Nat :=
  pool.blocks.filterMap GpuBufferBlock.sharedMetadata

variable {pool changed : GpuBufferPool} {reservation : BlockReservation}

/-- An owned reservation names a block of an initialised pool by its mapping and its block id. -/
theorem owned_block {block : GpuBufferBlock} (found : pool.owned reservation = some block) :
    pool.owns reservation = true ∧ block ∈ pool.blocks ∧ block.blockId = reservation.blockId ∧
      block.sharedMetadata = reservation.mapping := by
  unfold owned at found
  split at found
  · next held =>
    refine ⟨held, List.mem_of_getElem? found, ?_⟩
    unfold owns at held
    split at held
    · simp at held
    · rw [found] at held
      simpa using held
  · simp at found

/-- A reservation the pool owns has the identity of one of its blocks, so it was granted from this
generation. -/
theorem owns_identity (held : pool.owns reservation = true) :
    ∃ mapping : Nat, reservation.mapping = some mapping ∧
      (reservation.blockId, some mapping) ∈ pool.identities := by
  unfold owns at held
  split at held
  · simp at held
  · next conditions =>
    split at held
    · simp at held
    · next block found =>
      obtain ⟨identity, same⟩ : block.blockId = reservation.blockId ∧
          block.sharedMetadata = reservation.mapping := by simpa using held
      cases mapping : reservation.mapping with
      | none => exact absurd (.inr (.inr mapping)) conditions
      | some number =>
        refine ⟨number, rfl, ?_⟩
        rw [← identity, ← mapping, ← same]
        exact List.mem_map_of_mem (List.mem_of_getElem? found)

/-- A reservation the pool owns names one of the pool's mappings, and in particular still has its
own. -/
theorem owns_mapping (held : pool.owns reservation = true) :
    ∃ mapping ∈ pool.mappings, reservation.mapping = some mapping := by
  obtain ⟨mapping, named, member⟩ := owns_identity held
  obtain ⟨block, inside, same⟩ := List.mem_map.mp member
  obtain ⟨-, shared⟩ := Prod.mk.inj same
  exact ⟨mapping, List.mem_filterMap.mpr ⟨block, inside, shared⟩, named⟩

/-- A built descriptor carries the identity of the reservation's own block, which the pool still
owns at that moment. -/
theorem tryBuildDescriptor_built {locked copied : Bool} {descriptor : BufferDescriptor}
    (built : pool.tryBuildDescriptor locked reservation copied = some descriptor) :
    pool.owns reservation = true ∧ descriptor.uid = reservation.uid ∧
      descriptor.blockId = reservation.blockId ∧
      descriptor.publisherPid = reservation.publisherPid := by
  unfold tryBuildDescriptor at built
  split at built
  · simp at built
  · split at built
    · simp at built
    · next block found =>
      obtain ⟨held, -, identity, -⟩ := owned_block found
      split at built
      · simp at built
      · split at built
        · simp at built
        · obtain rfl := Option.some.inj built
          exact ⟨held, rfl, identity, rfl⟩

/-- Recording an event changes no identity, and nothing unless the pool owns the
reservation. -/
theorem recordReady_identities {locked recorded : Bool} {stream : Nat} {succeeded : Bool}
    (called : pool.recordReady locked reservation stream recorded = (changed, succeeded)) :
    (succeeded = true → pool.owns reservation = true) ∧
      (succeeded = false → changed = pool) ∧ changed.publisherPid = pool.publisherPid ∧
      changed.identities = pool.identities := by
  unfold recordReady at called
  split at called
  · obtain ⟨rfl, rfl⟩ := Prod.mk.inj called
    exact ⟨by simp, fun _ => rfl, rfl, rfl⟩
  · split at called
    · obtain ⟨rfl, rfl⟩ := Prod.mk.inj called
      exact ⟨by simp, fun _ => rfl, rfl, rfl⟩
    · next event found =>
      split at called
      · obtain ⟨rfl, rfl⟩ := Prod.mk.inj called
        exact ⟨by simp, fun _ => rfl, rfl, rfl⟩
      · obtain ⟨rfl, rfl⟩ := Prod.mk.inj called
        obtain ⟨block, held, -⟩ := Option.bind_eq_some_iff.mp found
        refine ⟨fun _ => (owned_block held).1, by simp, rfl, ?_⟩
        apply List.ext_getElem?
        intro index
        simp only [identities, List.getElem?_map, List.getElem?_modify]
        cases pool.blocks[index]? with
        | none => rfl
        | some block => split <;> rfl

/-- Equipping the blocks changes no identity, so it takes no reservation away from the pool. -/
theorem equip_identities (pool : GpuBufferPool) (resources : List BlockResources) :
    (pool.equip resources).identities = pool.identities := by
  apply List.ext_getElem?
  intro index
  simp only [identities, equip, List.getElem?_map, List.getElem?_mapIdx]
  cases pool.blocks[index]? with
  | none => rfl
  | some block =>
    simp only [Option.map_some]
    split <;> rfl

/-- The mappings follow from the identities, so two pools with the same identities hold the same
objects. -/
theorem mappings_eq (pool : GpuBufferPool) :
    pool.mappings = pool.identities.filterMap Prod.snd := by
  simp only [mappings, identities, List.filterMap_map]
  rfl

/-- Resizing leaves blocks without metadata, so no earlier reservation is owned any more. -/
theorem resize_mappings (pool : GpuBufferPool) (byteSize : Nat) (deviceIndex : Int) :
    (pool.resize byteSize deviceIndex).mappings = [] := by
  apply List.filterMap_eq_nil_iff.mpr
  intro block member
  rw [List.eq_of_mem_replicate member]
  rfl

/-- A pool whose blocks carry none of its mappings refuses the reservation, whatever the other
numbers are. -/
theorem owns_foreign (foreign : ∀ mapping ∈ pool.mappings, reservation.mapping ≠ some mapping) :
    pool.owns reservation = false := by
  cases held : pool.owns reservation with
  | false => rfl
  | true =>
    obtain ⟨mapping, member, same⟩ := owns_mapping held
    exact absurd same (foreign mapping member)

end GpuBufferPool

end Ros2CudaIpc
