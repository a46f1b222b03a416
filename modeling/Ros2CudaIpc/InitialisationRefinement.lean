import Ros2CudaIpc.GpuBufferManager
import Ros2CudaIpc.InitialisationRollback
import Ros2CudaIpc.WeightedLists

/-!
# A pool's initialisation as steps of its process

Two models contain `GpuBufferPool::initialise`. The one of the pool follows every resource
from its acquisition to its release. The one of the process splits the call into steps,
between which other threads act, and has of the driver's answers no more than whether they
were good. Here the first refines the second: the pool which a call leaves, seen without
its owners, is the one which the process reaches by steps of the same call, with the same
result.

A metadata object is a name in the pool's model and a number in the process's. The relation
between them is a parameter, and so is the address behind a reservation. The ids are those
of the process's counter, of which other managers take the ones the pool leaves out. The
exception of `blocks_.resize` is no step of the process and is not related to any.
-/

namespace Ros2CudaIpc.PoolInitialisation

open FormattedText MetadataNames Reachability WeightedLists

/-- A block without its owners. The metadata mapping becomes the number of its object, the
device pointer the address of its reservation, and a missing one the null pointer. -/
def Block.outline (number : List Char → Nat) (address : Nat → Nat) (block : Block) :
    GpuBufferBlock :=
  { blockId := block.blockId.toNat
    sharedMetadata := block.sharedMetadata.map number
    devicePtr := (block.devicePtr.map address).getD 0
    readyEvent := block.readyEvent.map ReadyEvent.handle
    vmmSocketPath := block.vmmSocketPath.map fun char => UInt8.ofNat char.toNat }

/-- What the memory and event passes have stored in a block, without its owners. The
process's model takes this as one answer for all blocks. -/
def Block.obtained (number : List Char → Nat) (address : Nat → Nat) (block : Block) :
    BlockResources :=
  { devicePtr := (block.outline number address).devicePtr
    readyEvent := (block.outline number address).readyEvent
    vmmSocketPath := (block.outline number address).vmmSocketPath }

/-- The identity of a block, which is all the metadata pass gives it. The passes behind it
must leave this alone, or the process's separate steps could not be recovered. -/
def Block.identity (block : Block) : UInt32 × Option (List Char) :=
  (block.blockId, block.sharedMetadata)

/-- A pool without its owners. Its reference to the context has no counterpart in the
process's model and is left out. -/
def Pool.outline (number : List Char → Nat) (address : Nat → Nat) (pool : Pool) : GpuBufferPool :=
  { blockCount := pool.blockCount
    blocks := pool.blocks.map (Block.outline number address)
    nextBlock := pool.nextBlock
    byteSize := pool.byteSize.toNat
    deviceIndex := pool.deviceIndex
    publisherPid := pool.publisherPid.toNat
    initialised := pool.initialised }

/-- What happens in the process while a call of `initialise` runs undisturbed: its own
steps, and ids which other managers take. No other thread uses the pool meanwhile. -/
inductive Undisturbed : GpuBufferManager.Action → Prop where
  | elsewhere : Undisturbed .allocateElsewhere
  | advance (supply : GpuBufferManager.Supply) : Undisturbed (.advanceInitialise supply)

/-- Undisturbed steps of a call lead from one state of the process to another. -/
def Leads (origin : GpuBufferManager.State) : GpuBufferManager.State → Prop :=
  Reachable GpuBufferManager.step (fun _ action => Undisturbed action)
    (fun state => state = origin)

/-- The process runs a call of `initialise`, at a position of it, and its pool is the given
one without its owners. Nobody is inside the pool's mutex. -/
structure Stands (number : List Char → Nat) (address : Nat → Nat) (pool : Pool)
    (position : GpuBufferManager.Initialising) (state : GpuBufferManager.State) : Prop where
  running : state.initialising = some position
  free : state.mutex = none
  same : state.pool = pool.outline number address

/-- The process has left the call with a result, and its pool is the given one without its
owners. The result is the latest event of its log. -/
structure Ends (number : List Char → Nat) (address : Nat → Nat) (pool : Pool) (succeeded : Bool)
    (state : GpuBufferManager.State) : Prop where
  left : state.initialising = none
  logged : state.log.head? = some (.initialised succeeded)
  same : state.pool = pool.outline number address

/-- The ids which the answers contain from a block on come from a counter, and the objects are
numbered in the order of their blocks. Ids grow from block to block because the counter does;
they need not be consecutive, since other managers of the process draw from the same counter.
Nothing is said of a block for which the counter has run out. -/
structure Issued (number : List Char → Nat) (publisherPid : UInt32) (answers : Pool.Answers)
    (first counter objects : Nat) : Prop where
  bounded : counter ≤ uint32Max
  fresh : ∀ index blockId, first ≤ index → (answers.metadata index).blockId = some blockId →
    counter ≤ blockId.toNat ∧ blockId.toNat < uint32Max
  increasing : ∀ earlier index before after, first ≤ earlier → earlier < index →
    (answers.metadata earlier).blockId = some before →
    (answers.metadata index).blockId = some after → before.toNat < after.toNat
  numbered : ∀ index blockId, first ≤ index → (answers.metadata index).blockId = some blockId →
    number (shmNameForBlock answers.locale publisherPid blockId) = objects + index

variable {number : List Char → Nat} {address : Nat → Nat}
variable {origin state next : GpuBufferManager.State} {pool : Pool}
variable {position : GpuBufferManager.Initialising} {answers : Pool.Answers}

/-- One more step of the call, behind the steps which have led to where it is. -/
theorem Leads.advance (leads : Leads origin state) (supply : GpuBufferManager.Supply)
    (running : state.initialising = some position)
    (moved : state.advanceInitialise supply position = some next) : Leads origin next := by
  refine .step state next (.advanceInitialise supply) leads (.advance supply) ?_
  simp [GpuBufferManager.step, running, moved]

/-- Other managers take every id below the one which the pool is going to be given. The
counter never passes the largest id, so the bound on it is no restriction. -/
theorem Leads.counts (leads : Leads origin state) {blockId : Nat}
    (below : state.nextProcessBlockId ≤ blockId) (fits : blockId ≤ uint32Max) :
    Leads origin { state with nextProcessBlockId := blockId } := by
  obtain ⟨taken, rfl⟩ := Nat.exists_eq_add_of_le below
  clear below
  induction taken with
  | zero => exact leads
  | succ taken inductionHypothesis =>
    have earlier := inductionHypothesis (by omega)
    refine .step _ _ .allocateElsewhere earlier .elsewhere ?_
    have room : state.nextProcessBlockId + taken < uint32Max := by omega
    simp [GpuBufferManager.step, room, Nat.add_assoc]

/-- Destroying the blocks of a pool is destroying those of its outline. Both do nothing
when their mutex cannot be locked; the calls of the cleanup need not succeed. -/
theorem destroyBlocks_outline (number : List Char → Nat) (address : Nat → Nat) (pool : Pool)
    (cleanup : Cleanup) (world : World) :
    (pool.destroyBlocks cleanup world).2.outline number address =
      if cleanup.locked = false then pool.outline number address
      else (pool.outline number address).destroyBlocks := by
  unfold Pool.destroyBlocks
  split
  · rfl
  · rfl

/-- A call which ends with `destroy_blocks` leaves the process the pool of `rollBack`. This
is stated of any state with the pool's outline, because the last failing step equips the
blocks before it destroys them. -/
theorem rollBack_ends (free : state.mutex = none) (same : state.pool = pool.outline number address)
    (answers : Pool.Answers) (world : World) :
    ∃ final, (state.destroyBlocks answers.rollback.locked).map
        (GpuBufferManager.State.finish · false) = some final ∧
      Ends number address (pool.rollBack answers world).pool false final := by
  have outlined := destroyBlocks_outline number address pool answers.rollback world
  unfold GpuBufferManager.State.destroyBlocks
  split
  · next unlocked =>
    rw [if_pos unlocked] at outlined
    exact ⟨_, rfl, rfl, rfl, same.trans outlined.symm⟩
  · next locked =>
    rw [if_neg locked] at outlined
    refine ⟨_, by rw [free]; rfl, rfl, rfl, ?_⟩
    refine Eq.trans ?_ outlined.symm
    exact congrArg GpuBufferPool.destroyBlocks same

/-- Giving a block its id and its object's number is giving it its id and its object's name,
once the number belongs to the name. -/
theorem identify_outline {before after : List Block} {block : Block} {blockId : UInt32}
    {name : List Char} {mapping : Nat} (numbered : number name = mapping) :
    (({ pool with blocks := before ++ block :: after } : Pool).outline number address).identify
        before.length blockId.toNat mapping =
      ({ pool with blocks :=
          before ++ { block with blockId := blockId, sharedMetadata := some name } :: after } :
        Pool).outline number address := by
  have middle := modify_middle
    (fun stored : GpuBufferBlock =>
      { stored with blockId := blockId.toNat, sharedMetadata := some mapping })
    (before.map (Block.outline number address)) (after.map (Block.outline number address))
    (block.outline number address)
  rw [List.length_map] at middle
  simp only [Pool.outline, GpuBufferPool.identify, List.map_append, List.map_cons, middle]
  simp [Block.outline, numbered]

/-- The process is about to name the block behind those it has named. The objects it has
created since the call began are as many as these. -/
structure Naming (number : List Char → Nat) (address : Nat → Nat) (pool : Pool) (objects : Nat)
    (named rest : List Block) (state : GpuBufferManager.State) : Prop where
  stands : Stands number address { pool with blocks := named ++ rest } (.loading named.length) state
  objects : state.objects.length = objects + named.length

variable {named rest : List Block} {block : Block} {objects : Nat} {world : World}

/-- The process reads its counter for the block it is about to name. It reads it again until
it gets the wanted value, which other managers' ids lead to. -/
theorem Naming.allocating (leads : Leads origin state)
    (naming : Naming number address pool objects named (block :: rest) state) {current : Nat}
    (below : state.nextProcessBlockId ≤ current) (fits : current ≤ uint32Max) :
    ∃ next, Leads origin next ∧ next.nextProcessBlockId = current ∧
      next.objects = state.objects ∧
      Stands number address { pool with blocks := named ++ block :: rest }
        (.allocating named.length current) next := by
  obtain ⟨⟨running, free, same⟩, -⟩ := naming
  have counted := leads.counts below fits
  have inside : named.length < state.pool.blocks.length := by
    rw [same]
    simp [Pool.outline]
  refine ⟨{ state with
    nextProcessBlockId := current, initialising := some (.allocating named.length current) },
    ?_, rfl, rfl, ⟨rfl, free, same⟩⟩
  refine counted.advance ⟨true, true, false, 0, []⟩ running ?_
  simp [GpuBufferManager.State.advanceInitialise, inside]

/-- Where the counter has run out the call fails at the block it is about to name. Other
managers of the process have taken the ids which were left. -/
theorem Naming.exhausted (leads : Leads origin state)
    (naming : Naming number address pool objects named (block :: rest) state)
    (bounded : state.nextProcessBlockId ≤ uint32Max) (answers : Pool.Answers) (world : World) :
    ∃ final, Leads origin final ∧
      Ends number address
        (({ pool with blocks := named ++ block :: rest } : Pool).rollBack answers world).pool
        false final := by
  obtain ⟨read, led, _, _, running, free, same⟩ := naming.allocating leads bounded (Nat.le_refl _)
  obtain ⟨final, moved, ends⟩ := rollBack_ends free same answers world
  refine ⟨final, led.advance ⟨answers.rollback.locked, true, false, 0, []⟩ running ?_, ends⟩
  simpa [GpuBufferManager.State.advanceInitialise] using moved

/-- The process takes an id for the block it is about to name, which the counter has reached or
passes over. -/
theorem Naming.creating (leads : Leads origin state)
    (naming : Naming number address pool objects named (block :: rest) state) {blockId : UInt32}
    (below : state.nextProcessBlockId ≤ blockId.toNat) (fits : blockId.toNat < uint32Max) :
    ∃ next, Leads origin next ∧ next.nextProcessBlockId = blockId.toNat + 1 ∧
      next.objects = state.objects ∧
      Stands number address { pool with blocks := named ++ block :: rest }
        (.creating named.length blockId.toNat) next := by
  obtain ⟨read, led, counter, kept, running, free, same⟩ :=
    naming.allocating leads below (Nat.le_of_lt fits)
  refine ⟨{ read with
    nextProcessBlockId := blockId.toNat + 1
    initialising := some (.creating named.length blockId.toNat)
    log := .allocated blockId.toNat :: read.log }, ?_, rfl, kept, ⟨rfl, free, same⟩⟩
  refine led.advance ⟨true, true, false, 0, []⟩ running ?_
  simp [GpuBufferManager.State.advanceInitialise, counter, Nat.ne_of_lt fits]

/-- A turn which names its block is followed by the process: it creates the object, and the
next block is the next one. -/
theorem Naming.named_turn (leads : Leads origin state)
    (naming : Naming number address pool objects named (block :: rest) state) {blockId : UInt32}
    {name : List Char} (below : state.nextProcessBlockId ≤ blockId.toNat)
    (fits : blockId.toNat < uint32Max) (numbered : number name = objects + named.length) :
    ∃ next, Leads origin next ∧ next.nextProcessBlockId = blockId.toNat + 1 ∧
      Naming number address pool objects
        (named ++ [{ block with blockId := blockId, sharedMetadata := some name }]) rest next := by
  obtain ⟨taken, led, counter, kept, running, free, same⟩ := naming.creating leads below fits
  have created : number name = taken.objects.length := by
    rw [numbered, kept, naming.objects]
  refine ⟨{ taken with
    objects := taken.objects ++ [⟨blockId.toNat, BlockMetadata.create 0⟩]
    pool := taken.pool.identify named.length blockId.toNat taken.objects.length
    initialising := some (.loading (named.length + 1)) }, ?_, counter, ⟨?_, free, ?_⟩, ?_⟩
  · exact led.advance ⟨true, true, false, 0, []⟩ running rfl
  · simp
  · rw [same, identify_outline created]
    simp
  · simp [kept, naming.objects, Nat.add_assoc]

/-- A turn whose object cannot be created ends the call, with the id spent. -/
theorem Naming.failed_turn (leads : Leads origin state)
    (naming : Naming number address pool objects named (block :: rest) state) {blockId : UInt32}
    (below : state.nextProcessBlockId ≤ blockId.toNat) (fits : blockId.toNat < uint32Max)
    (answers : Pool.Answers) (world : World) :
    ∃ final, Leads origin final ∧
      Ends number address
        (({ pool with blocks := named ++ block :: rest } : Pool).rollBack answers world).pool
        false final := by
  obtain ⟨taken, led, _, _, running, free, same⟩ := naming.creating leads below fits
  obtain ⟨final, moved, ends⟩ := rollBack_ends free same answers world
  refine ⟨final, led.advance ⟨answers.rollback.locked, false, false, 0, []⟩ running ?_, ends⟩
  simpa [GpuBufferManager.State.advanceInitialise] using moved

/-- Behind the id of a block the counter stands above it, and the later ids are higher. -/
theorem Issued.behind {publisherPid : UInt32} {first counter : Nat}
    (issued : Issued number publisherPid answers first counter objects) {blockId : UInt32}
    (taken : (answers.metadata first).blockId = some blockId) :
    Issued number publisherPid answers (first + 1) (blockId.toNat + 1) objects := by
  have below := (issued.fresh first blockId (Nat.le_refl _) taken).2
  refine ⟨below, fun index later behind drawn => ?_, fun earlier index before after behind => ?_,
    fun index later behind => issued.numbered index later (by omega)⟩
  · have fits := (issued.fresh index later (by omega) drawn).2
    have higher := issued.increasing first index blockId later (Nat.le_refl _) behind taken drawn
    exact ⟨higher, fits⟩
  · exact issued.increasing earlier index before after (by omega)

/-- One turn of the pass over the metadata objects. Where it succeeds the process has named the
same block; where it fails the block is as before and the call has ended in the process too.

Proof: a turn fails for want of an id, at a name which is too long, or at the creation of the
object. The last two are the same refused creation for the process, which knows no names. -/
theorem Naming.turn (leads : Leads origin state)
    (naming : Naming number address pool objects named (block :: rest) state)
    (issued : Issued number pool.publisherPid answers named.length state.nextProcessBlockId objects)
    (world after : World) :
    let taken := metadataTurn answers.locale pool.publisherPid answers.metadata named.length world
      block
    (taken.failure = none → ∃ next, Leads origin next ∧
      Naming number address pool objects (named ++ [taken.block]) rest next ∧
      Issued number pool.publisherPid answers (named ++ [taken.block]).length
        next.nextProcessBlockId objects) ∧
    (taken.failure.isSome = true → taken.block = block ∧ ∃ final, Leads origin final ∧
      Ends number address
        (({ pool with blocks := named ++ block :: rest } : Pool).rollBack answers after).pool
        false final) := by
  unfold metadataTurn
  cases drawn : (answers.metadata named.length).blockId with
  | none => exact ⟨by simp, fun _ => ⟨rfl, naming.exhausted leads issued.bounded answers after⟩⟩
  | some blockId =>
    obtain ⟨below, fits⟩ := issued.fresh _ blockId (Nat.le_refl _) drawn
    have failed := naming.failed_turn leads below fits answers after
    simp only
    split
    · exact ⟨by simp, fun _ => ⟨rfl, failed⟩⟩
    split
    · exact ⟨by simp, fun _ => ⟨rfl, failed⟩⟩
    · refine ⟨fun _ => ?_, by simp⟩
      obtain ⟨next, led, counter, ahead⟩ := naming.named_turn leads below fits
        (issued.numbered _ blockId (Nat.le_refl _) drawn)
      refine ⟨next, led, ahead, ?_⟩
      rw [counter, List.length_append]
      exact issued.behind drawn

/-- The whole pass over the metadata objects, from any block on.

Proof: by induction on the blocks which are left. The blocks named so far are the prefix which
the process's position counts. -/
theorem Naming.pass (leads : Leads origin state)
    (naming : Naming number address pool objects named rest state)
    (issued : Issued number pool.publisherPid answers named.length state.nextProcessBlockId objects)
    (world after : World) :
    let pass := forBlocks (metadataTurn answers.locale pool.publisherPid answers.metadata)
      named.length world rest
    (pass.failure = none → ∃ next, Leads origin next ∧
      Naming number address pool objects (named ++ pass.blocks) [] next) ∧
    (pass.failure.isSome = true → ∃ final, Leads origin final ∧
      Ends number address
        (({ pool with blocks := named ++ pass.blocks } : Pool).rollBack answers after).pool
        false final) := by
  induction rest generalizing named state world with
  | nil =>
    refine ⟨fun _ => ⟨state, leads, ?_⟩, by simp [forBlocks]⟩
    simpa [forBlocks] using naming
  | cons block rest inductionHypothesis =>
    obtain ⟨continues, stops⟩ := naming.turn leads issued world after
    simp only [forBlocks]
    cases failed : (metadataTurn answers.locale pool.publisherPid answers.metadata named.length
        world block).failure with
    | some failure =>
      obtain ⟨unchanged, ended⟩ := stops (by simp [failed])
      refine ⟨by simp, fun _ => ?_⟩
      simpa only [unchanged] using ended
    | none =>
      obtain ⟨next, led, ahead, drawn⟩ := continues failed
      have rest := inductionHypothesis led ahead drawn
        (metadataTurn answers.locale pool.publisherPid answers.metadata named.length world
          block).world
      simpa only [List.length_append, List.length_singleton, List.append_assoc,
        List.singleton_append] using rest

/-- A loop whose turns leave a part of every block alone leaves it alone in all blocks. -/
theorem forBlocks_map {φ β : Type} {turn : Nat → World → Block → Turn φ} {part : Block → β}
    (kept : ∀ index world block, part (turn index world block).block = part block)
    (index : Nat) (world : World) (blocks : List Block) :
    (forBlocks turn index world blocks).blocks.map part = blocks.map part := by
  induction blocks generalizing index world with
  | nil => rfl
  | cons block rest inductionHypothesis =>
    simp only [forBlocks]
    split
    · simp [kept]
    · simp [kept, inductionHypothesis]

/-- Allocating the memory of all blocks leaves their identities alone, whether it succeeds, is
refused at once or clears all blocks in the middle. -/
theorem allocateVmmFdMemory_identities (answers : MemoryAnswers) (byteSize : UInt64)
    (world : World) (blocks : List Block) :
    (allocateVmmFdMemory answers byteSize world blocks).value.map Block.identity =
      blocks.map Block.identity := by
  have turned (size : UInt64) (index : Nat) (world : World) (block : Block) :
      (vmmTurn answers.blocks size index world block).block.identity = block.identity := by
    unfold vmmTurn
    simp only
    split <;> rfl
  have cleared (index : Nat) (world : World) (block : Block) :
      (destroyVmmTurn index world block).block.identity = block.identity := rfl
  unfold allocateVmmFdMemory
  split
  · rfl
  split
  · rfl
  next granularity _ =>
  simp only
  split
  · exact forBlocks_map (turned (alignUp byteSize granularity)) 0 world blocks
  · exact (forBlocks_map cleared 0 _ _).trans
      (forBlocks_map (turned (alignUp byteSize granularity)) 0 world blocks)

/-- `allocate_blocks` changes nothing of a pool but what its blocks have obtained. -/
theorem allocateBlocks_identities (pool : Pool) (answers : Pool.Answers) (world : World) :
    ∃ blocks, (pool.allocateBlocks answers world).value = { pool with blocks := blocks } ∧
      blocks.map Block.identity = pool.blocks.map Block.identity := by
  have memory := allocateVmmFdMemory_identities answers.memory pool.byteSize world pool.blocks
  have turned (context index : Nat) (world : World) (block : Block) :
      (eventTurn answers.events answers.replaced context index world block).block.identity =
        block.identity := by
    unfold eventTurn
    simp only
    split <;> rfl
  unfold Pool.allocateBlocks
  split
  · exact ⟨pool.blocks, rfl, rfl⟩
  next context _ =>
  simp only
  split
  · exact ⟨pool.blocks, rfl, rfl⟩
  split
  · exact ⟨_, rfl, memory⟩
  · exact ⟨_, rfl, (forBlocks_map (turned context) 0 _ _).trans memory⟩

/-- The process's one answer for all blocks gives the outline of a pool what the passes have
given its blocks. -/
theorem equip_outline (number : List Char → Nat) (address : Nat → Nat) {blocks : List Block}
    (kept : blocks.map Block.identity = pool.blocks.map Block.identity) :
    (pool.outline number address).equip (blocks.map (Block.obtained number address)) =
      ({ pool with blocks := blocks } : Pool).outline number address := by
  have long : blocks.length = pool.blocks.length := by simpa using congrArg List.length kept
  simp only [GpuBufferPool.equip, Pool.outline, GpuBufferPool.mk.injEq, true_and, and_true]
  refine List.ext_getElem (by simp [long]) fun index inside _ => ?_
  have stored : index < blocks.length := by simpa [long] using inside
  have storedBefore : index < pool.blocks.length := long ▸ stored
  have same : blocks[index].identity = pool.blocks[index].identity := by
    have listed := congrArg (·[index]?) kept
    simpa [stored, storedBefore] using listed
  obtain ⟨blockId, sharedMetadata⟩ := Prod.mk.inj same
  simp [stored, Block.outline, Block.obtained, blockId, sharedMetadata]

/-- The process checks the request and destroys the generation before, as `initialise` does. Its
counter and its objects are untouched. -/
theorem Stands.retires (stands : Stands number address pool .checking state)
    (valid : ¬ (pool.blockCount = 0 ∨ uint32Max < pool.blockCount ∨ state.config.byteSize = 0))
    (cleanup : Cleanup) (world : World) :
    ∃ next, Leads state next ∧ Stands number address (pool.retire cleanup world).2 .retaining next ∧
      next.nextProcessBlockId = state.nextProcessBlockId ∧ next.objects = state.objects ∧
      next.config = state.config := by
  obtain ⟨running, free, same⟩ := stands
  have outlined := destroyBlocks_outline number address pool cleanup world
  have count : state.pool.blockCount = pool.blockCount := by rw [same]; rfl
  have held : (state.pool.initialised = true ∨ state.pool.blocks ≠ []) ↔
      (pool.initialised = true ∨ pool.blocks.isEmpty = false) := by
    rw [same]
    simp [Pool.outline]
  have leads : Leads state state := .start state rfl
  have checked (cleared : GpuBufferManager.State)
      (destroyed : (if state.pool.initialised = true ∨ state.pool.blocks ≠ [] then
        state.destroyBlocks cleanup.locked else some state) = some cleared) :
      Leads state { cleared with initialising := some .retaining } := by
    refine leads.advance ⟨cleanup.locked, true, false, 0, []⟩ running ?_
    simp only [GpuBufferManager.State.advanceInitialise, count, valid, if_false, destroyed,
      Option.map_some]
  unfold Pool.retire
  by_cases busy : pool.initialised = true ∨ pool.blocks.isEmpty = false
  · rw [if_pos busy]
    by_cases unlocked : cleanup.locked = false
    · rw [if_pos unlocked] at outlined
      refine ⟨_, checked state ?_, ⟨rfl, free, same.trans outlined.symm⟩, rfl, rfl, rfl⟩
      simp [GpuBufferManager.State.destroyBlocks, unlocked]
    · rw [if_neg unlocked] at outlined
      refine ⟨_, checked state.retire ?_, ⟨rfl, free, ?_⟩, rfl, rfl, rfl⟩
      · rw [if_pos (held.mpr busy)]
        simp [GpuBufferManager.State.destroyBlocks, unlocked, free]
      · exact (congrArg GpuBufferPool.destroyBlocks same).trans outlined.symm
  · rw [if_neg busy]
    refine ⟨_, checked state ?_, ⟨rfl, free, same⟩, rfl, rfl, rfl⟩
    rw [if_neg (busy ∘ held.mp)]

/-- The first cleanup leaves the size of the pool and the process it belongs to. -/
theorem retire_kept (cleanup : Cleanup) (world : World) :
    (pool.retire cleanup world).2.blockCount = pool.blockCount ∧
      (pool.retire cleanup world).2.publisherPid = pool.publisherPid := by
  unfold Pool.retire Pool.destroyBlocks
  split
  · split
    · exact ⟨rfl, rfl⟩
    · exact ⟨rfl, rfl⟩
  · exact ⟨rfl, rfl⟩

/-- New blocks for a request are new blocks in the process. The context which the pool gets
with them is not part of its outline. -/
theorem configure_outline (byteSize : UInt64) (deviceIndex : Int) (context : Nat) :
    (pool.configure byteSize deviceIndex context
        (List.replicate pool.blockCount Block.empty)).outline number address =
      (pool.outline number address).resize byteSize.toNat deviceIndex := by
  simp only [Pool.configure, Pool.outline, GpuBufferPool.resize, List.map_replicate]
  rfl

/-- Behind the last name the process equips all blocks at once, with whatever the memory and
event passes have obtained, and leaves the call with their result. -/
theorem Stands.equips (leads : Leads origin state)
    (stands : Stands number address pool (.loading pool.blocks.length) state)
    (answers : Pool.Answers) (world after : World) :
    let allocated := pool.allocateBlocks answers world
    (allocated.succeeded = true → ∃ final, Leads origin final ∧
      Ends number address { allocated.value with initialised := true, nextBlock := 0 } true final) ∧
    (allocated.succeeded = false → ∃ final, Leads origin final ∧
      Ends number address (allocated.value.rollBack answers after).pool false final) := by
  obtain ⟨running, free, same⟩ := stands
  obtain ⟨blocks, value, kept⟩ := allocateBlocks_identities pool answers world
  have equipped := equip_outline number address kept
  have led : Leads origin { state with initialising := some .equipping } := by
    refine leads.advance ⟨true, true, false, 0, []⟩ running ?_
    have behind : ¬ pool.blocks.length < state.pool.blocks.length := by
      rw [same]
      simp [Pool.outline]
    simp [GpuBufferManager.State.advanceInitialise, behind]
  rw [← same] at equipped
  simp only [value]
  refine ⟨fun _ => ?_, fun _ => ?_⟩
  · refine ⟨_, led.advance
      ⟨true, true, false, 0, blocks.map (Block.obtained number address)⟩ rfl rfl, rfl, rfl, ?_⟩
    exact congrArg GpuBufferPool.ready equipped
  · have unlocked : ({ state with
        initialising := some .equipping
        pool := state.pool.equip (blocks.map (Block.obtained number address)) } :
        GpuBufferManager.State).mutex = none := free
    obtain ⟨final, moved, ends⟩ := rollBack_ends unlocked equipped answers after
    exact ⟨final, led.advance
      ⟨answers.rollback.locked, false, false, 0, blocks.map (Block.obtained number address)⟩
      rfl moved, ends⟩

/-- Where `initialise` builds on what the first cleanup has left, the process does so too. The
exception of `blocks_.resize` is excluded by the result.

Proof: the retained context lets the process replace its blocks. The pass over the metadata
objects either ends the call or names every block, and then the blocks are equipped. -/
theorem Stands.builds {byteSize : UInt64} {deviceIndex : Int} {succeeded : Bool}
    (leads : Leads origin state) (stands : Stands number address pool .retaining state)
    (requested : state.config.byteSize = byteSize.toNat ∧ state.config.deviceIndex = deviceIndex)
    (issued : Issued number pool.publisherPid answers 0 state.nextProcessBlockId
      state.objects.length)
    (ended : (pool.build answers byteSize deviceIndex world).result = .ok succeeded) :
    ∃ final, Leads origin final ∧
      Ends number address (pool.build answers byteSize deviceIndex world).pool succeeded final := by
  obtain ⟨running, free, same⟩ := stands
  unfold Pool.build at ended ⊢
  simp only at ended ⊢
  split at ended
  · cases ended
  next resized =>
  rw [if_neg resized]
  generalize (forBlocks (Pool.clearTurn answers.clearing) 0
    (world.retain.1.dropContextHeld pool.context) pool.blocks).world = cleared at ended ⊢
  generalize world.retain.2 = context at ended ⊢
  have led : Leads origin { state with
      pool := state.pool.resize state.config.byteSize state.config.deviceIndex
      initialising := some (.loading 0)
      log := .retired :: state.log } := by
    refine leads.advance ⟨true, true, false, 0, []⟩ running ?_
    simp [GpuBufferManager.State.advanceInitialise, free]
  have naming : Naming number address (pool.configure byteSize deviceIndex context [])
      state.objects.length [] (List.replicate pool.blockCount Block.empty)
      { state with
        pool := state.pool.resize state.config.byteSize state.config.deviceIndex
        initialising := some (.loading 0)
        log := .retired :: state.log } := by
    refine ⟨⟨rfl, free, ?_⟩, rfl⟩
    rw [requested.1, requested.2, same]
    exact (configure_outline byteSize deviceIndex context).symm
  obtain ⟨named, refused⟩ := naming.pass led issued cleared (forBlocks (metadataTurn answers.locale
    pool.publisherPid answers.metadata) 0 cleared
    (List.replicate pool.blockCount Block.empty)).world
  split at ended
  · next failed =>
    obtain rfl : false = succeeded := by simpa [Pool.rollBack] using ended
    rw [if_pos failed]
    exact refused failed
  next finished =>
  rw [if_neg finished]
  obtain ⟨next, ahead, stood, -⟩ := named (Option.not_isSome_iff_eq_none.mp finished)
  rw [List.append_nil] at stood
  obtain ⟨ready, rolledBack⟩ := stood.equips ahead answers _ _
  split at ended
  · next failed =>
    obtain rfl : false = succeeded := by simpa [Pool.rollBack] using ended
    rw [if_pos failed]
    exact rolledBack failed
  · next allocated =>
    obtain rfl : true = succeeded := by simpa using ended
    rw [if_neg allocated]
    exact ready ((Bool.not_eq_false _).mp allocated)

/-- Every call of `initialise` which returns is a run of the process's steps of the call, from
where the process enters it, with the same result and the same pool. Neither the calls of the
cleanups nor the lock of the mutex are assumed to succeed, and no prior pool is excluded.

The process's counter has given out the ids in the answers, and its objects are numbered as
they are created; without this the two models would speak of different blocks. -/
theorem initialise_simulated {byteSize : UInt64} {deviceIndex : Int} {succeeded : Bool}
    (stands : Stands number address pool .checking state)
    (requested : state.config.byteSize = byteSize.toNat ∧ state.config.deviceIndex = deviceIndex)
    (issued : Issued number pool.publisherPid answers 0 state.nextProcessBlockId
      state.objects.length)
    (ended : (pool.initialise answers byteSize deviceIndex world).result = .ok succeeded) :
    ∃ final, Leads state final ∧ Ends number address
      (pool.initialise answers byteSize deviceIndex world).pool succeeded final := by
  have sized : state.config.byteSize = 0 ↔ byteSize = 0 := by
    rw [requested.1, ← UInt64.toNat_inj]
    rfl
  unfold Pool.initialise at ended ⊢
  simp only at ended ⊢
  split at ended
  · next invalid =>
    obtain rfl : false = succeeded := by simpa using ended
    rw [if_pos invalid]
    obtain ⟨running, -, same⟩ := stands
    have leads : Leads state state := .start state rfl
    refine ⟨state.finish false, leads.advance ⟨true, true, false, 0, []⟩ running ?_, rfl, rfl, same⟩
    have count : state.pool.blockCount = pool.blockCount := by rw [same]; rfl
    rw [← sized, ← count] at invalid
    simp [GpuBufferManager.State.advanceInitialise, invalid]
  next valid =>
  rw [if_neg valid]
  rw [← sized] at valid
  obtain ⟨next, leads, stood, counter, objects, config⟩ := stands.retires valid answers.retiring
    world
  split at ended
  · next refused =>
    obtain rfl : false = succeeded := by simpa using ended
    rw [if_pos refused]
    refine ⟨next.finish false, leads.advance ⟨true, false, false, 0, []⟩ stood.running ?_,
      rfl, rfl, stood.same⟩
    simp [GpuBufferManager.State.advanceInitialise]
  · next retained =>
    rw [if_neg retained]
    refine stood.builds leads (by rw [config]; exact requested) ?_ ended
    rw [(retire_kept answers.retiring world).2, counter, objects]
    exact issued

end Ros2CudaIpc.PoolInitialisation
