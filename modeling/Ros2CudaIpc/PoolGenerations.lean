import Mathlib.Data.List.Nodup
import Ros2CudaIpc.ManagerInvariant

/-!
# The generations of a manager's pool

In a run of the manager an initialised pool has blocks, its cursor is below their
number, and each block has a metadata object of its own.

`initialise` replaces the blocks and `destroy_blocks` empties them; a lock which fails
on the way leaves the old ones to be replaced while the pool still counts as
initialised. The number of blocks is the configured one all the same, so that a cursor
left by the old blocks fits the new ones.
-/

namespace Ros2CudaIpc

/-- Pools of the same blocks apart from what the blocks carry: as many of them, with the same
cursor and the same flag. -/
structure GpuBufferPool.SameShape (pool changed : GpuBufferPool) : Prop where
  count : changed.blockCount = pool.blockCount
  length : changed.blocks.length = pool.blocks.length
  cursor : changed.nextBlock = pool.nextBlock
  initialised : changed.initialised = pool.initialised

/-- Recording an event changes what a block carries, and neither how many blocks there are nor the
cursor. -/
theorem GpuBufferPool.recordReady_shape (pool : GpuBufferPool) (locked : Bool)
    (reservation : BlockReservation) (stream : Nat) (recorded : Bool) :
    pool.SameShape (pool.recordReady locked reservation stream recorded).1 := by
  unfold recordReady
  split
  · exact ⟨rfl, rfl, rfl, rfl⟩
  · split
    · exact ⟨rfl, rfl, rfl, rfl⟩
    · split
      · exact ⟨rfl, rfl, rfl, rfl⟩
      · exact ⟨rfl, List.length_modify .., rfl, rfl⟩

namespace GpuBufferManager

open Reachability

/-- The block count of a running `initialise` has been checked, so it is not zero. -/
def Initialising.checked : Initialising → Bool
  | .checking => false
  | _ => true

/-- The blocks of a running `initialise` have been replaced by as many as the block count says. -/
def Initialising.resized : Initialising → Bool
  | .checking | .retaining => false
  | _ => true

/-- The blocks, the cursor and a running `initialise` fit together: the pool has no blocks or all
of them, and the cursor fits the block count. -/
structure Arranged (pool : GpuBufferPool) (initialising : Option Initialising) : Prop where
  sized : pool.blocks = [] ∨ pool.blocks.length = pool.blockCount
  cursor : pool.nextBlock = 0 ∨ pool.nextBlock < pool.blockCount
  ready : pool.initialised = true → pool.blocks ≠ []
  counted : initialising.any Initialising.checked = true → pool.blockCount ≠ 0
  resized : initialising.any Initialising.resized = true → pool.blocks ≠ []

variable {pool changed : GpuBufferPool} {initialising following : Option Initialising}

/-- A cursor among the blocks of an initialised pool, which has all of them. -/
theorem Arranged.inside (arranged : Arranged pool initialising)
    (ready : pool.initialised = true) : pool.nextBlock < pool.blocks.length := by
  have nonempty := arranged.ready ready
  have positive : 0 < pool.blocks.length := List.length_pos_of_ne_nil nonempty
  have sized : pool.blocks.length = pool.blockCount := arranged.sized.resolve_left nonempty
  rcases arranged.cursor with start | below
  · exact start ▸ positive
  · exact sized ▸ below

/-- Blocks may carry something else, which the arrangement does not speak of. -/
theorem Arranged.reshape (arranged : Arranged pool initialising)
    (same : pool.SameShape changed) : Arranged changed initialising := by
  have empty : changed.blocks = [] ↔ pool.blocks = [] := by
    rw [← List.length_eq_zero_iff, ← List.length_eq_zero_iff, same.length]
  refine ⟨?_, ?_, ?_, ?_, ?_⟩
  · rw [empty, same.length, same.count]
    exact arranged.sized
  · rw [same.cursor, same.count]
    exact arranged.cursor
  · rw [same.initialised, Ne, empty]
    exact arranged.ready
  · rw [same.count]
    exact arranged.counted
  · rw [Ne, empty]
    exact arranged.resized

/-- `initialise` goes on with what it has achieved, or ends. It never falls back behind a check or
a resize. -/
theorem Arranged.onward (arranged : Arranged pool initialising)
    (following : Option Initialising)
    (checked : following.any Initialising.checked = true →
      initialising.any Initialising.checked = true)
    (resized : following.any Initialising.resized = true →
      initialising.any Initialising.resized = true) : Arranged pool following :=
  ⟨arranged.sized, arranged.cursor, arranged.ready, fun later => arranged.counted (checked later),
    fun later => arranged.resized (resized later)⟩

/-- A pool without blocks starts over, its cursor at the first block of the next ones. -/
theorem Arranged.destroyed (counted : following.any Initialising.checked = true →
      pool.blockCount ≠ 0)
    (outside : following.any Initialising.resized = false) :
    Arranged pool.destroyBlocks following :=
  ⟨.inl rfl, .inl rfl, by simp [GpuBufferPool.destroyBlocks], counted, by simp [outside]⟩

/-- Replacing the blocks leaves a cursor which fits, since the new blocks are as many as the block
count says. -/
theorem Arranged.resize (arranged : Arranged pool initialising) (positive : pool.blockCount ≠ 0)
    (byteSize : Nat) (deviceIndex : Int) (following : Option Initialising) :
    Arranged (pool.resize byteSize deviceIndex) following := by
  have nonempty : (pool.resize byteSize deviceIndex).blocks ≠ [] := by
    simp [GpuBufferPool.resize, positive]
  exact ⟨.inr List.length_replicate, arranged.cursor, fun _ => nonempty, fun _ => positive,
    fun _ => nonempty⟩

/-- A grant puts the cursor behind its block, counted round the vector. -/
theorem Arranged.grant (arranged : Arranged pool initialising) (index : Nat)
    (nonempty : pool.blocks ≠ []) :
    Arranged { pool with nextBlock := (index + 1) % pool.blocks.length } initialising := by
  refine ⟨arranged.sized, .inr ?_, arranged.ready, arranged.counted, arranged.resized⟩
  simp only
  rw [← arranged.sized.resolve_left nonempty]
  exact Nat.mod_lt _ (List.length_pos_of_ne_nil nonempty)

variable {state next : State}

/-- The blocks, the cursor and a running `initialise` of a state fit together. -/
def State.Arranged (state : State) : Prop :=
  GpuBufferManager.Arranged state.pool state.initialising

/-- A step which is none of `initialise` and leaves the pool its shape, so the arrangement cannot
change. -/
structure Aside (state next : State) : Prop where
  shape : state.pool.SameShape next.pool
  initialising : next.initialising = state.initialising

/-- A step which leaves the pool alone, and `initialise` where it is. -/
theorem Aside.of_same (pool : next.pool = state.pool)
    (initialising : next.initialising = state.initialising) : Aside state next :=
  ⟨pool ▸ ⟨rfl, rfl, rfl, rfl⟩, initialising⟩

/-- A step aside of `initialise` keeps the arrangement. -/
theorem Aside.arranged (aside : Aside state next) (arranged : state.Arranged) :
    next.Arranged := by
  unfold State.Arranged
  rw [aside.initialising]
  exact arranged.reshape aside.shape

/-- Destroying the blocks starts over, or the lock fails and everything stays as it was arranged. -/
theorem destroyBlocks_arranged {locked : Bool} {cleared : State}
    (arranged : GpuBufferManager.Arranged state.pool initialising)
    (destroyed : state.destroyBlocks locked = some cleared) (following : Option Initialising)
    (counted : following.any Initialising.checked = true → state.pool.blockCount ≠ 0)
    (outside : following.any Initialising.resized = false) :
    GpuBufferManager.Arranged cleared.pool following := by
  rcases destroyBlocks_cases destroyed with rfl | ⟨-, rfl⟩
  · exact ⟨arranged.sized, arranged.cursor, arranged.ready, counted, by simp [outside]⟩
  · exact .destroyed counted outside

/-- The steps of `initialise` keep the arrangement. The proof takes its positions one by one. -/
theorem advanceInitialise_arranged {supply : Supply} {frame : Initialising}
    (arranged : state.Arranged) (running : state.initialising = some frame)
    (moved : state.advanceInitialise supply frame = some next) : next.Arranged := by
  have counted : frame.checked = true → state.pool.blockCount ≠ 0 := by
    simpa [running] using arranged.counted
  have resized : frame.resized = true → state.pool.blocks ≠ [] := by
    simpa [running] using arranged.resized
  cases frame with
  | checking =>
    simp only [State.advanceInitialise] at moved
    split at moved
    · obtain rfl := Option.some.inj moved
      exact arranged.onward none (by simp) (by simp)
    · next checks =>
      have positive : state.pool.blockCount ≠ 0 := fun zero => checks (.inl zero)
      obtain ⟨cleared, destroyed, rfl⟩ := Option.map_eq_some_iff.mp moved
      split at destroyed
      · have clears := destroyBlocks_arranged arranged destroyed (some .retaining)
          (fun _ => positive) rfl
        exact clears
      · obtain rfl := Option.some.inj destroyed
        exact ⟨arranged.sized, arranged.cursor, arranged.ready, fun _ => positive,
          by simp [Initialising.resized]⟩
  | retaining =>
    simp only [State.advanceInitialise] at moved
    split at moved
    · obtain rfl := Option.some.inj moved
      exact arranged.onward none (by simp) (by simp)
    · split at moved
      · simp at moved
      · obtain rfl := Option.some.inj moved
        exact arranged.resize (counted rfl) _ _ _
  | loading index =>
    simp only [State.advanceInitialise] at moved
    split at moved <;>
    · obtain rfl := Option.some.inj moved
      exact arranged.onward _ (fun _ => by simp [running, Initialising.checked])
        (fun _ => by simp [running, Initialising.resized])
  | allocating index current =>
    simp only [State.advanceInitialise] at moved
    split at moved
    · obtain ⟨cleared, destroyed, rfl⟩ := Option.map_eq_some_iff.mp moved
      have clears := destroyBlocks_arranged arranged destroyed none (by simp) rfl
      exact clears
    · split at moved <;>
      · obtain rfl := Option.some.inj moved
        exact arranged.onward _ (fun _ => by simp [running, Initialising.checked])
          (fun _ => by simp [running, Initialising.resized])
  | creating index blockId =>
    simp only [State.advanceInitialise] at moved
    split at moved
    · obtain ⟨cleared, destroyed, rfl⟩ := Option.map_eq_some_iff.mp moved
      have clears := destroyBlocks_arranged arranged destroyed none (by simp) rfl
      exact clears
    · obtain rfl := Option.some.inj moved
      have identified : state.pool.SameShape
          (state.pool.identify index blockId state.objects.length) :=
        ⟨rfl, List.length_modify .., rfl, rfl⟩
      exact (arranged.reshape identified).onward _
        (fun _ => by simp [running, Initialising.checked])
        (fun _ => by simp [running, Initialising.resized])
  | equipping =>
    have equipped : state.pool.SameShape (state.pool.equip supply.resources) :=
      ⟨rfl, List.length_mapIdx, rfl, rfl⟩
    have carries := arranged.reshape equipped
    simp only [State.advanceInitialise] at moved
    split at moved
    · obtain ⟨cleared, destroyed, rfl⟩ := Option.map_eq_some_iff.mp moved
      have clears := destroyBlocks_arranged carries destroyed none (by simp) rfl
      exact clears
    · obtain rfl := Option.some.inj moved
      have nonempty : (state.pool.equip supply.resources).blocks ≠ [] := by
        rw [← List.length_pos_iff, equipped.length]
        exact List.length_pos_iff.mpr (resized rfl)
      exact ⟨carries.sized, .inl rfl, fun _ => nonempty, by simp [State.finish],
        by simp [State.finish]⟩

/-- The steps inside the mutex keep the arrangement; only a grant moves the cursor. -/
theorem advanceHolder_arranged {holder : Holder} (arranged : state.Arranged)
    (moved : state.advanceHolder holder = some next) : next.Arranged := by
  cases holder with
  | scanning offset =>
    simp only [State.advanceHolder] at moved
    split at moved
    · split at moved <;>
      · obtain rfl := Option.some.inj moved
        exact arranged
    · obtain rfl := Option.some.inj moved
      exact arranged
  | reserving offset index mapping call =>
    obtain ⟨metadata, -, moved⟩ := Option.bind_eq_some_iff.mp moved
    generalize call.step state.clock metadata = after at moved
    obtain ⟨changed, outcome⟩ := after
    cases outcome with
    | running following =>
      obtain rfl := Option.some.inj moved
      exact arranged
    | returned result =>
      cases result with
      | none =>
        obtain rfl := Option.some.inj moved
        exact arranged
      | some uid =>
        obtain ⟨block, stands, rfl⟩ := Option.map_eq_some_iff.mp moved
        have member : block ∈ state.pool.blocks := List.mem_of_getElem? stands
        exact Arranged.grant arranged index (List.ne_nil_of_mem member)
  | committing index reservation descriptor call =>
    obtain ⟨metadata, -, rfl⟩ := Option.map_eq_some_iff.mp moved
    generalize call.step state.clock metadata = after
    obtain ⟨changed, outcome⟩ := after
    cases outcome <;> exact arranged

/-- The three pool calls of `prepare_publish` leave the pool its shape. -/
theorem prepare_aside {index : Nat} {block : PublishBlock}
    (moved : (∃ locked recorded stream,
        state.preparePublish index locked recorded stream block = some next) ∨
      (∃ locked copied, state.buildDescriptor index locked copied block = some next) ∨
      ∃ locked, state.commit index locked block = some next) : Aside state next := by
  obtain ⟨reservation, stage⟩ := block
  rcases moved with ⟨locked, recorded, stream, moved⟩ | ⟨locked, copied, moved⟩ | ⟨locked, moved⟩
  · cases stage with
    | idle owner =>
      cases owner with
      | false =>
        obtain rfl := Option.some.inj moved
        exact .of_same rfl rfl
      | true =>
        simp only [State.preparePublish] at moved
        split at moved
        · simp at moved
        · split at moved
          · obtain rfl := Option.some.inj moved
            exact ⟨state.pool.recordReady_shape .., rfl⟩
          · obtain rfl := Option.some.inj moved
            exact .of_same rfl rfl
    | _ => simp [State.preparePublish] at moved
  · cases stage with
    | recorded =>
      simp only [State.buildDescriptor] at moved
      split at moved
      · simp at moved
      · split at moved <;>
        · obtain rfl := Option.some.inj moved
          exact .of_same rfl rfl
    | _ => simp [State.buildDescriptor] at moved
  · cases stage with
    | described descriptor =>
      simp only [State.commit] at moved
      split at moved
      · obtain rfl := Option.some.inj moved
        exact .of_same rfl rfl
      · split at moved
        · simp at moved
        · split at moved <;>
          · obtain rfl := Option.some.inj moved
            exact .of_same rfl rfl
    | _ => simp [State.commit] at moved

/-- A PublishBlock's cancel, in whichever operation, leaves the pool alone. -/
theorem cancel_aside {index : Nat} {block : PublishBlock}
    (moved : (∃ after, state.beginCancel index after block = some next) ∨
      state.advanceCancel index block = some next) : Aside state next := by
  obtain ⟨reservation, stage⟩ := block
  rcases moved with ⟨after, moved⟩ | moved
  · cases stage with
    | idle owner =>
      cases owner with
      | false =>
        obtain rfl := Option.some.inj moved
        exact .of_same rfl rfl
      | true =>
        simp only [State.beginCancel] at moved
        split at moved <;>
        · obtain rfl := Option.some.inj moved
          exact .of_same rfl rfl
    | _ => simp [State.beginCancel] at moved
  · cases stage with
    | cancelling call after =>
      obtain ⟨metadata, -, rfl⟩ := Option.map_eq_some_iff.mp moved
      generalize call.step state.clock metadata = result
      obtain ⟨changed, outcome⟩ := result
      cases outcome <;> exact .of_same rfl rfl
    | _ => simp [State.advanceCancel] at moved

/-- Moves between PublishBlocks leave the pool alone. -/
theorem move_aside {index : Nat} {block : PublishBlock}
    (moved : state.moveFrom index block = some next ∨
      state.moveConstruct index block = some next) : Aside state next := by
  obtain ⟨reservation, stage⟩ := block
  rcases moved with moved | moved
  · cases stage with
    | assigning source =>
      simp only [State.moveFrom] at moved
      split at moved
      · obtain rfl := Option.some.inj moved
        exact .of_same rfl rfl
      · simp at moved
    | _ => simp [State.moveFrom] at moved
  · cases stage with
    | idle owner =>
      obtain rfl := Option.some.inj moved
      exact .of_same rfl rfl
    | _ => simp [State.moveConstruct] at moved

/-- A subscriber's operations leave the pool alone, which is another process's. -/
theorem acquisition_aside {number : Nat} {acquisition : Acquisition}
    (moved : (∃ spurious, state.advanceAcquisition number spurious acquisition = some next) ∨
      state.release number acquisition = some next) : Aside state next := by
  obtain ⟨mapping, uid, phase⟩ := acquisition
  rcases moved with ⟨spurious, moved⟩ | moved
  · cases phase with
    | acquiring | underflowed =>
      obtain ⟨metadata, -, rfl⟩ := Option.map_eq_some_iff.mp moved
      exact .of_same rfl rfl
    | _ => simp [State.advanceAcquisition] at moved
  · cases phase with
    | holding =>
      obtain ⟨metadata, -, rfl⟩ := Option.map_eq_some_iff.mp moved
      exact .of_same rfl rfl
    | _ => simp [State.release] at moved

/-- Every action keeps the arrangement: it is a step of `initialise`, one inside the mutex, or one
aside. -/
theorem step_arranged {action : Action} (arranged : state.Arranged)
    (moved : step state action = some next) : next.Arranged := by
  cases action with
  | tick elapsed =>
    obtain rfl := Option.some.inj moved
    exact arranged
  | allocateElsewhere =>
    simp only [step] at moved
    split at moved
    · obtain rfl := Option.some.inj moved
      exact arranged
    · simp at moved
  | initialise locked =>
    simp only [step] at moved
    split at moved
    · simp at moved
    · obtain ⟨cleared, destroyed, rfl⟩ := Option.map_eq_some_iff.mp moved
      have clears := destroyBlocks_arranged arranged destroyed (some .checking)
        (by simp [Initialising.checked]) rfl
      exact clears
  | advanceInitialise supply =>
    obtain ⟨frame, running, moved⟩ := Option.bind_eq_some_iff.mp moved
    exact advanceInitialise_arranged arranged running moved
  | reset locked =>
    simp only [step] at moved
    split at moved
    · simp at moved
    · next unoccupied =>
      have idle : state.initialising = none := by simpa using unoccupied
      have same : next.initialising = none := (destroyBlocks_initialising moved).trans idle
      unfold State.Arranged
      rw [same]
      exact destroyBlocks_arranged arranged moved none (by simp) rfl
  | acquireForPublish locked =>
    simp only [step] at moved
    split at moved
    · exact Option.some.inj moved ▸ arranged
    · split at moved
      · simp at moved
      · split at moved <;>
        · obtain rfl := Option.some.inj moved
          exact arranged
  | advanceHolder =>
    obtain ⟨holder, -, moved⟩ := Option.bind_eq_some_iff.mp moved
    exact advanceHolder_arranged arranged moved
  | preparePublish index locked recorded stream =>
    obtain ⟨block, -, moved⟩ := Option.bind_eq_some_iff.mp moved
    exact (prepare_aside (.inl ⟨locked, recorded, stream, moved⟩)).arranged arranged
  | buildDescriptor index locked copied =>
    obtain ⟨block, -, moved⟩ := Option.bind_eq_some_iff.mp moved
    exact (prepare_aside (.inr (.inl ⟨locked, copied, moved⟩))).arranged arranged
  | commit index locked =>
    obtain ⟨block, -, moved⟩ := Option.bind_eq_some_iff.mp moved
    exact (prepare_aside (.inr (.inr ⟨locked, moved⟩))).arranged arranged
  | cancel index | destroy index =>
    obtain ⟨block, -, moved⟩ := Option.bind_eq_some_iff.mp moved
    exact (cancel_aside (.inl ⟨_, moved⟩)).arranged arranged
  | advanceCancel index =>
    obtain ⟨block, -, moved⟩ := Option.bind_eq_some_iff.mp moved
    exact (cancel_aside (.inr moved)).arranged arranged
  | moveAssign target source =>
    simp only [step] at moved
    split at moved
    · exact Option.some.inj moved ▸ arranged
    · obtain ⟨block, -, moved⟩ := Option.bind_eq_some_iff.mp moved
      exact (cancel_aside (.inl ⟨_, moved⟩)).arranged arranged
  | moveConstruct source =>
    obtain ⟨block, -, moved⟩ := Option.bind_eq_some_iff.mp moved
    exact (move_aside (.inr moved)).arranged arranged
  | moveFrom target =>
    obtain ⟨block, -, moved⟩ := Option.bind_eq_some_iff.mp moved
    exact (move_aside (.inl moved)).arranged arranged
  | acquire mapping uid =>
    simp only [step] at moved
    split at moved
    · obtain rfl := Option.some.inj moved
      exact arranged
    · simp at moved
  | advanceAcquisition number spurious =>
    obtain ⟨acquisition, -, moved⟩ := Option.bind_eq_some_iff.mp moved
    exact (acquisition_aside (.inl ⟨spurious, moved⟩)).arranged arranged
  | release number =>
    obtain ⟨acquisition, -, moved⟩ := Option.bind_eq_some_iff.mp moved
    exact (acquisition_aside (.inr moved)).arranged arranged

/-- The arrangement holds in every reachable state. By induction on the run from the constructed
manager. -/
theorem reachable_arranged {admitted : State → Action → Prop} {state : State}
    (reached : Reachable step admitted Initial state) : state.Arranged := by
  refine Reachable.invariant ?_ ?_ reached
  · rintro start ⟨config, blockCount, publisherPid, nextBlockId, clock, -, -, rfl⟩
    exact ⟨.inl rfl, .inl rfl, by simp [GpuBufferPool.construct], by simp, by simp⟩
  · intro earlier later action _ arranged _ moved
    exact step_arranged arranged moved

/-- Two blocks still differ when one of them is given an object which neither had. -/
theorem identify_distinct {index blockId mapping : Nat} (distinct : pool.mappings.Nodup)
    (unused : mapping ∉ pool.mappings) :
    (pool.identify index blockId mapping).mappings.Nodup := by
  have foreign (other : Nat) (inside : other < pool.blocks.length) :
      pool.blocks[other].sharedMetadata ≠ some mapping :=
    fun shared => unused (List.mem_filterMap.mpr ⟨_, List.getElem_mem inside, shared⟩)
  have before := List.pairwise_iff_getElem.mp (List.pairwise_filterMap.mp distinct)
  refine List.pairwise_filterMap.mpr (List.pairwise_iff_getElem.mpr ?_)
  intro left right leftInside rightInside ordered first firstShared second secondShared
  simp only [GpuBufferPool.identify, List.length_modify] at leftInside rightInside
  simp only [GpuBufferPool.identify, List.getElem_modify] at firstShared secondShared
  rintro rfl
  split at firstShared
  · obtain rfl : mapping = first := by simpa using firstShared
    split at secondShared
    · omega
    · exact foreign right rightInside secondShared
  · split at secondShared
    · obtain rfl : mapping = first := by simpa using secondShared
      exact foreign left leftInside firstShared
    · exact before left right leftInside rightInside ordered _ firstShared _ secondShared rfl

/-- Each block has an object of its own, so no two blocks of the pool share their words. -/
def State.Distinct (state : State) : Prop := state.pool.mappings.Nodup

/-- Every action keeps the blocks' objects apart. An identified block gets an object which was
just created. -/
theorem distinct_transition (formed : state.Formed) (distinct : state.Distinct)
    (transition : Transition state next) : next.Distinct := by
  cases transition with
  | reconfigured pool _ _ same | handled pool _ _ _ _ same =>
    have kept : pool.mappings.Nodup := by
      rw [GpuBufferPool.mappings_eq, same, ← GpuBufferPool.mappings_eq]
      exact distinct
    exact kept
  | retired pool _ _ _ empty =>
    have apart : pool.mappings.Nodup := empty ▸ List.nodup_nil
    exact apart
  | created index blockId =>
    refine identify_distinct distinct fun member => ?_
    have known := Formed.mapping_known formed member
    simp [State.blockIds] at known
  | _ => exact distinct

/-- The blocks of every reachable state have objects of their own. By induction on the run. -/
theorem reachable_distinct {admitted : State → Action → Prop} {state : State}
    (reached : Reachable step admitted Initial state) : state.Distinct := by
  refine Reachable.invariant ?_ ?_ reached
  · rintro start ⟨config, blockCount, publisherPid, nextBlockId, clock, -, -, rfl⟩
    exact List.nodup_nil
  · intro earlier later action reaches distinct _ moved
    exact distinct_transition (reachable_formed reaches) distinct (step_transition moved)

/-- What a reachable state with an initialised pool has: blocks, a cursor among them, and an
object of its own for each. -/
structure State.Generated (state : State) : Prop where
  nonempty : state.pool.blocks ≠ []
  cursor : state.pool.nextBlock < state.pool.blocks.length
  distinct : state.Distinct
  stored : ∀ mapping ∈ state.pool.mappings, mapping < state.objects.length

/-- An initialised pool of a reachable state is a generation, whichever generations came before
it. -/
theorem reachable_generated {admitted : State → Action → Prop} {state : State}
    (reached : Reachable step admitted Initial state) (ready : state.pool.initialised = true) :
    state.Generated := by
  have arranged := reachable_arranged reached
  have formed := reachable_formed reached
  refine ⟨arranged.ready ready, arranged.inside ready, reachable_distinct reached,
    fun mapping member => ?_⟩
  have known := Formed.mapping_known formed member
  rw [State.blockIds, List.length_map] at known
  exact known

end GpuBufferManager

end Ros2CudaIpc
