import Ros2CudaIpc.GpuBufferManager

/-!
# What one action of the manager's world can do

One constructor for each kind of change, with the state it leaves and what held
before. Actions which change the same things in the same way share one.
Invariants are proved over this relation; only its derivation from the step
function takes the actions apart.
-/

namespace Ros2CudaIpc.GpuBufferManager

/-- The block id an `initialise` has allocated and not yet given to an object. -/
def Initialising.pending : Initialising → Option Nat
  | .creating _ blockId => some blockId
  | _ => none

/-- A PublishBlock in this stage has a reservation nobody has begun to settle. -/
def Stage.reserved : Stage → Bool
  | .idle owner => owner
  | .recorded | .described _ => true
  | _ => false

/-- A PublishBlock in this stage has a commit or cancel running, its own cancel or the commit
inside the mutex. -/
def Stage.settling : Stage → Bool
  | .committing | .cancelling _ _ => true
  | _ => false

/-- Behind a cancel a PublishBlock has no unsettled reservation. -/
@[simp] theorem AfterCancel.stage_reserved (after : AfterCancel) :
    after.stage.reserved = false := by
  cases after <;> rfl

/-- Behind a cancel a PublishBlock has no commit or cancel running. -/
@[simp] theorem AfterCancel.stage_settling (after : AfterCancel) :
    after.stage.settling = false := by
  cases after <;> rfl

/-- The events which end an `initialise`, successfully or not; the list may be empty. -/
def Outcomes (events : List Event) : Prop :=
  ∀ event ∈ events, ∃ succeeded, event = .initialised succeeded

/-- The changes of one action, with the state it leaves. Each constructor names what held before
and what became of it. -/
inductive Transition (state : State) : State → Prop where
  | environment (clock counter : Nat) (later : state.clock ≤ clock)
      (more : counter = state.nextProcessBlockId ∨
        counter = state.nextProcessBlockId + 1 ∧ state.nextProcessBlockId < uint32Max) :
      Transition state { state with clock := clock, nextProcessBlockId := counter }
  | reconfigured (pool : GpuBufferPool) (initialising : Option Initialising) (events : List Event)
      (same : pool.identities = state.pool.identities)
      (pid : pool.publisherPid = state.pool.publisherPid)
      (unallocated : initialising.bind Initialising.pending = none) (outcomes : Outcomes events) :
      Transition state { state with
        pool := pool, initialising := initialising, log := events ++ state.log }
  | retired (pool : GpuBufferPool) (initialising : Option Initialising) (events : List Event)
      (free : state.mutex = none) (empty : pool.mappings = [])
      (pid : pool.publisherPid = state.pool.publisherPid)
      (unallocated : initialising.bind Initialising.pending = none) (outcomes : Outcomes events) :
      Transition state { state with
        pool := pool, initialising := initialising, log := events ++ .retired :: state.log }
  | allocated (index : Nat) (below : state.nextProcessBlockId ≠ uint32Max)
      (running : state.initialising = some (.allocating index state.nextProcessBlockId)) :
      Transition state { state with
        nextProcessBlockId := state.nextProcessBlockId + 1
        initialising := some (.creating index state.nextProcessBlockId)
        log := .allocated state.nextProcessBlockId :: state.log }
  | created (index blockId : Nat) (value : UInt64)
      (running : state.initialising = some (.creating index blockId)) :
      Transition state { state with
        objects := state.objects ++ [⟨blockId, BlockMetadata.create value⟩]
        pool := state.pool.identify index blockId state.objects.length
        initialising := some (.loading (index + 1)) }
  | scanned (mutex : Option Holder) (outside : state.mutex = none ∨
        ∃ offset, state.mutex = some (.scanning offset))
      (goes : mutex = none ∨ ∃ offset, mutex = some (.scanning offset)) :
      Transition state { state with mutex := mutex }
  | visited (offset index mapping : Nat) (inside : state.mutex = some (.scanning offset))
      (within : index < state.pool.blocks.length) (present : mapping ∈ state.pool.mappings) :
      Transition state { state with
        mutex := some (.reserving offset index mapping ReserveCall.start) }
  | reserving (offset index mapping : Nat) (call next : ReserveCall)
      (metadata changed : BlockMetadata)
      (inside : state.mutex = some (.reserving offset index mapping call))
      (found : state.read (some mapping) = some metadata)
      (operation : call.Operation state.clock metadata changed (.running next)) :
      Transition state { state.write (some mapping) changed with
        mutex := some (.reserving offset index mapping next) }
  | passed (offset index mapping : Nat) (call : ReserveCall) (metadata changed : BlockMetadata)
      (inside : state.mutex = some (.reserving offset index mapping call))
      (found : state.read (some mapping) = some metadata)
      (operation : call.Operation state.clock metadata changed (.returned none)) :
      Transition state { state.write (some mapping) changed with
        mutex := some (.scanning (offset + 1)) }
  | reserved (offset index mapping uid : Nat) (call : ReserveCall)
      (metadata changed : BlockMetadata) (block : GpuBufferBlock)
      (inside : state.mutex = some (.reserving offset index mapping call))
      (found : state.read (some mapping) = some metadata)
      (operation : call.Operation state.clock metadata changed (.returned (some uid))) :
      Transition state { state.write (some mapping) changed with
        mutex := none
        pool := { state.pool with nextBlock := (index + 1) % state.pool.blocks.length }
        publishBlocks := state.publishBlocks ++
          [⟨⟨some mapping, block.blockId, uid, state.pool.publisherPid, index⟩, .idle true⟩]
        log := .reserved ⟨some mapping, block.blockId, uid, state.pool.publisherPid, index⟩
          call.now :: state.log }
  | handled (pool : GpuBufferPool) (index : Nat) (reservation : BlockReservation)
      (stage next : Stage) (same : pool.identities = state.pool.identities)
      (pid : pool.publisherPid = state.pool.publisherPid)
      (found : state.publishBlocks[index]? = some ⟨reservation, stage⟩)
      (quiet : stage.settling = false ∧ next.settling = false)
      (kept : next.reserved = stage.reserved)
      (described : ∀ descriptor, next = .described descriptor → ∃ locked copied,
        state.pool.tryBuildDescriptor locked reservation copied = some descriptor) :
      Transition state ({ state with pool := pool }.put index ⟨reservation, next⟩)
  | quarantined (index : Nat) (reservation : BlockReservation) (stage next : Stage) (event : Event)
      (found : state.publishBlocks[index]? = some ⟨reservation, stage⟩)
      (unsettled : stage.reserved = true)
      (vacant : next.reserved = false ∧ next.settling = false)
      (failed : event = .prepareFailed reservation ∨ event = .cancelFailed reservation ∧
        (reservation.publisherPid ≠ state.pool.publisherPid ∨ reservation.mapping = none)) :
      Transition state ((state.put index ⟨reservation, next⟩).note event)
  | commitBegun (index : Nat) (reservation : BlockReservation) (descriptor : BufferDescriptor)
      (found : state.publishBlocks[index]? = some ⟨reservation, .described descriptor⟩)
      (free : state.mutex = none) (owned : state.pool.owns reservation = true) :
      Transition state ({ state with
        mutex := some (.committing index reservation descriptor
          (SettleCall.commitPublish reservation.uid)) }.put index ⟨reservation, .committing⟩)
  | committing (index : Nat) (reservation : BlockReservation) (descriptor : BufferDescriptor)
      (call next : SettleCall) (metadata changed : BlockMetadata)
      (inside : state.mutex = some (.committing index reservation descriptor call))
      (found : state.read reservation.mapping = some metadata)
      (operation : call.Operation state.clock metadata changed (.running next)) :
      Transition state { state.settle reservation.mapping call changed with
        mutex := some (.committing index reservation descriptor next) }
  | committed (index : Nat) (reservation : BlockReservation) (descriptor : BufferDescriptor)
      (call : SettleCall) (metadata changed : BlockMetadata) (released : Bool)
      (inside : state.mutex = some (.committing index reservation descriptor call))
      (found : state.read reservation.mapping = some metadata)
      (operation : call.Operation state.clock metadata changed (.returned released)) :
      Transition state
        (({ state.settle reservation.mapping call changed with mutex := none }.put index
          ⟨reservation, .idle false⟩).note
          (if released then .prepared descriptor reservation.mapping call.now
            else .prepareFailed reservation))
  | cancelBegun (index : Nat) (reservation : BlockReservation) (after : AfterCancel)
      (found : state.publishBlocks[index]? = some ⟨reservation, .idle true⟩)
      (pid : reservation.publisherPid = state.pool.publisherPid)
      (mapped : reservation.mapping ≠ none) :
      Transition state (state.put index
        ⟨reservation, .cancelling (SettleCall.cancelPublish reservation.uid) after⟩)
  | cancelling (index : Nat) (reservation : BlockReservation) (after : AfterCancel)
      (call next : SettleCall) (metadata changed : BlockMetadata)
      (block : state.publishBlocks[index]? = some ⟨reservation, .cancelling call after⟩)
      (found : state.read reservation.mapping = some metadata)
      (operation : call.Operation state.clock metadata changed (.running next)) :
      Transition state ((state.settle reservation.mapping call changed).put index
        ⟨reservation, .cancelling next after⟩)
  | cancelled (index : Nat) (reservation : BlockReservation) (after : AfterCancel)
      (call : SettleCall) (metadata changed : BlockMetadata) (released : Bool)
      (block : state.publishBlocks[index]? = some ⟨reservation, .cancelling call after⟩)
      (found : state.read reservation.mapping = some metadata)
      (operation : call.Operation state.clock metadata changed (.returned released)) :
      Transition state (((state.settle reservation.mapping call changed).put index
        ⟨reservation, after.stage⟩).note
          (if released then .cancelled reservation else .cancelFailed reservation))
  | movedFrom (target source : Nat) (old reservation : BlockReservation) (owner : Bool)
      (assigned : state.publishBlocks[target]? = some ⟨old, .assigning source⟩)
      (found : state.publishBlocks[source]? = some ⟨reservation, .idle owner⟩) :
      Transition state ((state.put target ⟨reservation, .idle owner⟩).put source
        ⟨reservation.moved, .idle false⟩)
  | moveConstructed (source : Nat) (reservation : BlockReservation) (owner : Bool)
      (found : state.publishBlocks[source]? = some ⟨reservation, .idle owner⟩) :
      Transition state { state with
        publishBlocks := state.publishBlocks.set source ⟨reservation.moved, .idle false⟩ ++
          [⟨reservation, .idle owner⟩] }
  | acquireBegun (mapping uid : Nat) (present : mapping < state.objects.length) :
      Transition state { state with
        acquisitions := state.acquisitions ++ [⟨mapping, uid, .acquiring .loadUid⟩] }
  | acquiring (number mapping : Nat) (call next : AcquireCall) (metadata changed : BlockMetadata)
      (running : state.acquisitions[number]? = some ⟨mapping, call.uid, .acquiring call.pc⟩)
      (found : state.read (some mapping) = some metadata)
      (operation : call.Operation metadata changed (.running next)) :
      Transition state { state.write (some mapping) changed with
        acquisitions := state.acquisitions.set number ⟨mapping, call.uid, .acquiring next.pc⟩ }
  | acquired (number mapping : Nat) (call : AcquireCall) (metadata changed : BlockMetadata)
      (valid : Bool)
      (running : state.acquisitions[number]? = some ⟨mapping, call.uid, .acquiring call.pc⟩)
      (found : state.read (some mapping) = some metadata)
      (operation : call.Operation metadata changed (.returned valid)) :
      Transition state { state.write (some mapping) changed with
        acquisitions := state.acquisitions.set number
          ⟨mapping, call.uid, if valid then .holding else .refused⟩ }
  | zeroed (number mapping uid : Nat) (metadata : BlockMetadata)
      (running : state.acquisitions[number]? = some ⟨mapping, uid, .underflowed⟩)
      (found : state.read (some mapping) = some metadata) :
      Transition state { state.write (some mapping) { metadata with refcount := 0 } with
        acquisitions := state.acquisitions.set number ⟨mapping, uid, .released⟩ }
  | released (number mapping uid : Nat) (metadata : BlockMetadata)
      (holding : state.acquisitions[number]? = some ⟨mapping, uid, .holding⟩)
      (found : state.read (some mapping) = some metadata) :
      Transition state { state.write (some mapping) metadata.fetchSub with
        acquisitions := state.acquisitions.set number
          ⟨mapping, uid, if metadata.refcount = 0 then .underflowed else .released⟩ }

variable {state next : State}

/-- An action which leaves everything as it is counts as one in which the environment does
nothing. -/
theorem transition_refl (state : State) : Transition state state :=
  .environment state.clock state.nextProcessBlockId (Nat.le_refl _) (.inl rfl)

/-- Destroying the blocks does nothing where its lock fails, and ends the generation
otherwise. -/
theorem destroyBlocks_cases {cleared : State} {locked : Bool}
    (destroyed : state.destroyBlocks locked = some cleared) :
    cleared = state ∨ state.mutex = none ∧ cleared = state.retire := by
  unfold State.destroyBlocks at destroyed
  split at destroyed
  · exact .inl (Option.some.inj destroyed).symm
  · split at destroyed
    · simp at destroyed
    · next free =>
      have unheld : state.mutex = none := by simpa using free
      exact .inr ⟨unheld, (Option.some.inj destroyed).symm⟩

/-- Whether or not the blocks are destroyed, a running `initialise` stays where it is. -/
theorem destroyBlocks_initialising {cleared : State} {locked : Bool}
    (destroyed : state.destroyBlocks locked = some cleared) :
    cleared.initialising = state.initialising := by
  rcases destroyBlocks_cases destroyed with rfl | ⟨-, rfl⟩
  · rfl
  · rfl

/-- Destroying the blocks ends the generation, or did not lock; both leave the identities as the
constructor says. -/
theorem destroyBlocks_transition {equipped cleared : State} {pool : GpuBufferPool} {locked : Bool}
    (initialising : Option Initialising) (events : List Event)
    (same : pool.identities = state.pool.identities)
    (pid : pool.publisherPid = state.pool.publisherPid)
    (unallocated : initialising.bind Initialising.pending = none) (outcomes : Outcomes events)
    (equips : equipped = { state with pool := pool })
    (destroyed : equipped.destroyBlocks locked = some cleared) :
    Transition state { cleared with
      initialising := initialising, log := events ++ cleared.log } := by
  subst equips
  rcases destroyBlocks_cases destroyed with rfl | ⟨unheld, rfl⟩
  · exact .reconfigured pool initialising events same pid unallocated outcomes
  · exact .retired pool.destroyBlocks initialising events unheld rfl pid unallocated outcomes

/-- The steps of `initialise`, position by position: only the creation of an object and the end of
a generation change more than the pool. -/
theorem advanceInitialise_transition {supply : Supply} {frame : Initialising}
    (running : state.initialising = some frame)
    (moved : state.advanceInitialise supply frame = some next) : Transition state next := by
  have ended (succeeded : Bool) : Outcomes [.initialised succeeded] := by
    simp [Outcomes]
  have silent : Outcomes [] := by simp [Outcomes]
  cases frame with
  | checking =>
    simp only [State.advanceInitialise] at moved
    split at moved
    · obtain rfl := Option.some.inj moved
      exact .reconfigured state.pool none [.initialised false] rfl rfl rfl (ended false)
    · obtain ⟨cleared, destroyed, rfl⟩ := Option.map_eq_some_iff.mp moved
      split at destroyed
      · exact destroyBlocks_transition _ [] rfl rfl rfl silent rfl destroyed
      · obtain rfl := Option.some.inj destroyed
        exact .reconfigured state.pool (some .retaining) [] rfl rfl rfl silent
  | retaining =>
    simp only [State.advanceInitialise] at moved
    split at moved
    · obtain rfl := Option.some.inj moved
      exact .reconfigured state.pool none [.initialised false] rfl rfl rfl (ended false)
    · split at moved
      · simp at moved
      · next free =>
        obtain rfl := Option.some.inj moved
        have unheld : state.mutex = none := by simpa using free
        exact .retired _ (some (.loading 0)) [] unheld (GpuBufferPool.resize_mappings ..) rfl rfl
          silent
  | loading index =>
    simp only [State.advanceInitialise] at moved
    split at moved
    · obtain rfl := Option.some.inj moved
      exact .reconfigured state.pool (some (.allocating index state.nextProcessBlockId)) [] rfl rfl
        rfl silent
    · obtain rfl := Option.some.inj moved
      exact .reconfigured state.pool (some .equipping) [] rfl rfl rfl silent
  | allocating index current =>
    simp only [State.advanceInitialise] at moved
    split at moved
    · obtain ⟨cleared, destroyed, rfl⟩ := Option.map_eq_some_iff.mp moved
      exact destroyBlocks_transition _ [.initialised false] rfl rfl rfl (ended false) rfl
        destroyed
    · next room =>
      split at moved
      · next exchanged =>
        obtain rfl := Option.some.inj moved
        obtain ⟨rfl, -⟩ := exchanged
        exact .allocated index room running
      · obtain rfl := Option.some.inj moved
        exact .reconfigured state.pool (some (.allocating index state.nextProcessBlockId)) [] rfl
          rfl rfl silent
  | creating index blockId =>
    simp only [State.advanceInitialise] at moved
    split at moved
    · obtain ⟨cleared, destroyed, rfl⟩ := Option.map_eq_some_iff.mp moved
      exact destroyBlocks_transition _ [.initialised false] rfl rfl rfl (ended false) rfl
        destroyed
    · obtain rfl := Option.some.inj moved
      exact .created index blockId supply.initialUid running
  | equipping =>
    simp only [State.advanceInitialise] at moved
    have same := GpuBufferPool.equip_identities state.pool supply.resources
    split at moved
    · obtain ⟨cleared, destroyed, rfl⟩ := Option.map_eq_some_iff.mp moved
      exact destroyBlocks_transition _ [.initialised false] same rfl rfl (ended false) rfl
        destroyed
    · obtain rfl := Option.some.inj moved
      exact .reconfigured (state.pool.equip supply.resources).ready none [.initialised true] same
        rfl rfl (ended true)

/-- The steps inside the mutex: a scan which visits, passes or leaves, and the operations of an
attempt or a commit. -/
theorem advanceHolder_transition {holder : Holder} (inside : state.mutex = some holder)
    (moved : state.advanceHolder holder = some next) : Transition state next := by
  cases holder with
  | scanning offset =>
    simp only [State.advanceHolder] at moved
    split at moved
    · split at moved
      · obtain rfl := Option.some.inj moved
        exact .scanned _ (.inr ⟨offset, inside⟩) (.inr ⟨offset + 1, rfl⟩)
      · next mapping found =>
        obtain rfl := Option.some.inj moved
        obtain ⟨block, stored, shared⟩ := Option.bind_eq_some_iff.mp found
        refine .visited offset _ mapping inside (List.getElem?_eq_some_iff.mp stored).1 ?_
        exact List.mem_filterMap.mpr ⟨block, List.mem_of_getElem? stored, shared⟩
    · obtain rfl := Option.some.inj moved
      exact .scanned _ (.inr ⟨offset, inside⟩) (.inl rfl)
  | reserving offset index mapping call =>
    obtain ⟨metadata, found, moved⟩ := Option.bind_eq_some_iff.mp moved
    have operation := call.step_operation state.clock metadata
    generalize call.step state.clock metadata = after at moved operation
    obtain ⟨changed, outcome⟩ := after
    cases outcome with
    | running following =>
      obtain rfl := Option.some.inj moved
      exact .reserving offset index mapping call following metadata changed inside found operation
    | returned result =>
      cases result with
      | none =>
        obtain rfl := Option.some.inj moved
        exact .passed offset index mapping call metadata changed inside found operation
      | some uid =>
        obtain ⟨block, _, rfl⟩ := Option.map_eq_some_iff.mp moved
        exact .reserved offset index mapping uid call metadata changed block inside found operation
  | committing index reservation descriptor call =>
    obtain ⟨metadata, found, rfl⟩ := Option.map_eq_some_iff.mp moved
    have operation := call.step_operation state.clock metadata
    generalize call.step state.clock metadata = after at operation
    obtain ⟨changed, outcome⟩ := after
    cases outcome with
    | running following =>
      exact .committing index reservation descriptor call following metadata changed inside found
        operation
    | returned released =>
      exact .committed index reservation descriptor call metadata changed released inside found
        operation

/-- The three pool calls of `prepare_publish`: each handles the PublishBlock, quarantines it, or
begins the commit. -/
theorem prepare_transition {index : Nat} {block : PublishBlock}
    (found : state.publishBlocks[index]? = some block)
    (moved : (∃ locked recorded stream,
        state.preparePublish index locked recorded stream block = some next) ∨
      (∃ locked copied, state.buildDescriptor index locked copied block = some next) ∨
      ∃ locked, state.commit index locked block = some next) : Transition state next := by
  obtain ⟨reservation, stage⟩ := block
  rcases moved with ⟨locked, recorded, stream, moved⟩ | ⟨locked, copied, moved⟩ | ⟨locked, moved⟩
  · cases stage with
    | idle owner =>
      cases owner with
      | false =>
        obtain rfl := Option.some.inj moved
        exact transition_refl _
      | true =>
        simp only [State.preparePublish] at moved
        split at moved
        · simp at moved
        · obtain ⟨_, _, pid, same⟩ := GpuBufferPool.recordReady_identities
            (rfl : state.pool.recordReady locked reservation stream recorded = (_, _))
          split at moved
          · obtain rfl := Option.some.inj moved
            exact .handled _ index reservation (.idle true) .recorded same pid found ⟨rfl, rfl⟩ rfl
              (by simp)
          · obtain rfl := Option.some.inj moved
            exact .quarantined index reservation (.idle true) _ _ found rfl ⟨rfl, rfl⟩ (.inl rfl)
    | _ => simp [State.preparePublish] at moved
  · cases stage with
    | recorded =>
      simp only [State.buildDescriptor] at moved
      split at moved
      · simp at moved
      · split at moved
        · obtain rfl := Option.some.inj moved
          exact .quarantined index reservation .recorded _ _ found rfl ⟨rfl, rfl⟩ (.inl rfl)
        · next descriptor built =>
          obtain rfl := Option.some.inj moved
          refine .handled state.pool index reservation .recorded _ rfl rfl found ⟨rfl, rfl⟩ rfl ?_
          intro other same
          obtain rfl : descriptor = other := by simpa using same
          exact ⟨locked, copied, built⟩
    | _ => simp [State.buildDescriptor] at moved
  · cases stage with
    | described descriptor =>
      simp only [State.commit] at moved
      split at moved
      · obtain rfl := Option.some.inj moved
        exact .quarantined index reservation _ _ _ found rfl ⟨rfl, rfl⟩ (.inl rfl)
      · split at moved
        · simp at moved
        · next free =>
          split at moved
          · obtain rfl := Option.some.inj moved
            exact .quarantined index reservation _ _ _ found rfl ⟨rfl, rfl⟩ (.inl rfl)
          · next owned =>
            obtain rfl := Option.some.inj moved
            have unheld : state.mutex = none := by simpa using free
            have owns : state.pool.owns reservation = true := by simpa using owned
            exact .commitBegun index reservation descriptor found unheld owns
    | _ => simp [State.commit] at moved

/-- A PublishBlock's cancel, in whichever operation, from its beginning to its last operation. -/
theorem cancel_transition {index : Nat} {block : PublishBlock}
    (found : state.publishBlocks[index]? = some block)
    (moved : (∃ after, state.beginCancel index after block = some next) ∨
      state.advanceCancel index block = some next) : Transition state next := by
  obtain ⟨reservation, stage⟩ := block
  rcases moved with ⟨after, moved⟩ | moved
  · cases stage with
    | idle owner =>
      cases owner with
      | false =>
        obtain rfl := Option.some.inj moved
        refine .handled state.pool index reservation _ _ rfl rfl found ⟨rfl, by simp⟩
          (by simp; rfl) ?_
        intro descriptor same
        cases after <;> simp [AfterCancel.stage] at same
      | true =>
        simp only [State.beginCancel] at moved
        split at moved
        · next fits =>
          obtain rfl := Option.some.inj moved
          exact .cancelBegun index reservation after found fits.1 fits.2
        · next unfit =>
          obtain rfl := Option.some.inj moved
          refine .quarantined index reservation _ _ _ found rfl (by simp) (.inr ⟨rfl, ?_⟩)
          by_cases pid : reservation.publisherPid = state.pool.publisherPid
          · exact .inr (Classical.byContradiction fun mapped => unfit ⟨pid, mapped⟩)
          · exact .inl pid
    | _ => simp [State.beginCancel] at moved
  · cases stage with
    | cancelling call after =>
      obtain ⟨metadata, present, rfl⟩ := Option.map_eq_some_iff.mp moved
      have operation := call.step_operation state.clock metadata
      generalize call.step state.clock metadata = result at operation
      obtain ⟨changed, outcome⟩ := result
      cases outcome with
      | running following =>
        exact .cancelling index reservation after call following metadata changed found present
          operation
      | returned released =>
        exact .cancelled index reservation after call metadata changed released found present
          operation
    | _ => simp [State.advanceCancel] at moved

/-- Moves between PublishBlocks, which hand a reservation over and leave the source without its
mapping. -/
theorem move_transition {index : Nat} {block : PublishBlock}
    (found : state.publishBlocks[index]? = some block)
    (moved : state.moveFrom index block = some next ∨
      state.moveConstruct index block = some next) : Transition state next := by
  obtain ⟨reservation, stage⟩ := block
  rcases moved with moved | moved
  · cases stage with
    | assigning source =>
      simp only [State.moveFrom] at moved
      split at moved
      · next taken owner present =>
        obtain rfl := Option.some.inj moved
        exact .movedFrom index source reservation taken owner found present
      · simp at moved
    | _ => simp [State.moveFrom] at moved
  · cases stage with
    | idle owner =>
      obtain rfl := Option.some.inj moved
      exact .moveConstructed index reservation owner found
    | _ => simp [State.moveConstruct] at moved

/-- A subscriber's operations: those of an acquire, of a release, and of a release which met a
count of zero. -/
theorem acquisition_transition {number : Nat} {acquisition : Acquisition}
    (found : state.acquisitions[number]? = some acquisition)
    (moved : (∃ spurious, state.advanceAcquisition number spurious acquisition = some next) ∨
      state.release number acquisition = some next) : Transition state next := by
  obtain ⟨mapping, uid, phase⟩ := acquisition
  rcases moved with ⟨spurious, moved⟩ | moved
  · cases phase with
    | acquiring pc =>
      obtain ⟨metadata, present, rfl⟩ := Option.map_eq_some_iff.mp moved
      have operation := AcquireCall.step_operation spurious metadata ⟨uid, pc⟩
      generalize AcquireCall.step spurious metadata ⟨uid, pc⟩ = after at operation
      obtain ⟨changed, outcome⟩ := after
      cases outcome with
      | running following =>
        exact .acquiring number mapping ⟨uid, pc⟩ following metadata changed found present operation
      | returned valid =>
        exact .acquired number mapping ⟨uid, pc⟩ metadata changed valid found present operation
    | underflowed =>
      obtain ⟨metadata, present, rfl⟩ := Option.map_eq_some_iff.mp moved
      exact .zeroed number mapping uid metadata found present
    | _ => simp [State.advanceAcquisition] at moved
  · cases phase with
    | holding =>
      obtain ⟨metadata, present, rfl⟩ := Option.map_eq_some_iff.mp moved
      exact .released number mapping uid metadata found present
    | _ => simp [State.release] at moved

/-- Every action makes one of the listed changes, so an invariant need only be shown over these. -/
theorem step_transition {action : Action} (moved : step state action = some next) :
    Transition state next := by
  cases action with
  | tick elapsed =>
    obtain rfl := Option.some.inj moved
    exact .environment _ state.nextProcessBlockId (Nat.le_add_right ..) (.inl rfl)
  | allocateElsewhere =>
    simp only [step] at moved
    split at moved
    · next below =>
      obtain rfl := Option.some.inj moved
      exact .environment state.clock _ (Nat.le_refl _) (.inr ⟨rfl, below⟩)
    · simp at moved
  | initialise locked =>
    simp only [step] at moved
    split at moved
    · simp at moved
    · obtain ⟨cleared, destroyed, rfl⟩ := Option.map_eq_some_iff.mp moved
      exact destroyBlocks_transition _ [] rfl rfl rfl (by simp [Outcomes]) rfl destroyed
  | advanceInitialise supply =>
    obtain ⟨frame, running, moved⟩ := Option.bind_eq_some_iff.mp moved
    exact advanceInitialise_transition running moved
  | reset locked =>
    simp only [step] at moved
    split at moved
    · simp at moved
    · next unoccupied =>
      have idle : state.initialising = none := by simpa using unoccupied
      have transition := destroyBlocks_transition none [] rfl rfl rfl
        (by simp [Outcomes]) rfl moved
      have same : next.initialising = none := (destroyBlocks_initialising moved).trans idle
      rw [← same] at transition
      exact transition
  | acquireForPublish locked =>
    simp only [step] at moved
    split at moved
    · exact Option.some.inj moved ▸ transition_refl state
    · split at moved
      · simp at moved
      · next free =>
        have unheld : state.mutex = none := by simpa using free
        split at moved
        · exact Option.some.inj moved ▸ transition_refl state
        · obtain rfl := Option.some.inj moved
          exact .scanned _ (.inl unheld) (.inr ⟨0, rfl⟩)
  | advanceHolder =>
    obtain ⟨holder, inside, moved⟩ := Option.bind_eq_some_iff.mp moved
    exact advanceHolder_transition inside moved
  | preparePublish index locked recorded stream =>
    obtain ⟨block, found, moved⟩ := Option.bind_eq_some_iff.mp moved
    exact prepare_transition found (.inl ⟨locked, recorded, stream, moved⟩)
  | buildDescriptor index locked copied =>
    obtain ⟨block, found, moved⟩ := Option.bind_eq_some_iff.mp moved
    exact prepare_transition found (.inr (.inl ⟨locked, copied, moved⟩))
  | commit index locked =>
    obtain ⟨block, found, moved⟩ := Option.bind_eq_some_iff.mp moved
    exact prepare_transition found (.inr (.inr ⟨locked, moved⟩))
  | cancel index | destroy index =>
    obtain ⟨block, found, moved⟩ := Option.bind_eq_some_iff.mp moved
    exact cancel_transition found (.inl ⟨_, moved⟩)
  | advanceCancel index =>
    obtain ⟨block, found, moved⟩ := Option.bind_eq_some_iff.mp moved
    exact cancel_transition found (.inr moved)
  | moveAssign target source =>
    simp only [step] at moved
    split at moved
    · exact Option.some.inj moved ▸ transition_refl state
    · obtain ⟨block, found, moved⟩ := Option.bind_eq_some_iff.mp moved
      exact cancel_transition found (.inl ⟨_, moved⟩)
  | moveConstruct source =>
    obtain ⟨block, found, moved⟩ := Option.bind_eq_some_iff.mp moved
    exact move_transition found (.inr moved)
  | moveFrom target =>
    obtain ⟨block, found, moved⟩ := Option.bind_eq_some_iff.mp moved
    exact move_transition found (.inl moved)
  | acquire mapping uid =>
    simp only [step] at moved
    split at moved
    · next present =>
      obtain rfl := Option.some.inj moved
      exact .acquireBegun mapping uid present
    · simp at moved
  | advanceAcquisition number spurious =>
    obtain ⟨acquisition, found, moved⟩ := Option.bind_eq_some_iff.mp moved
    exact acquisition_transition found (.inl ⟨spurious, moved⟩)
  | release number =>
    obtain ⟨acquisition, found, moved⟩ := Option.bind_eq_some_iff.mp moved
    exact acquisition_transition found (.inr moved)

/-- A commit or cancel logs nothing but its own decrement, under the uid it settles. -/
theorem mem_decrements {mapping : Option Nat} {call : SettleCall} {event : Event}
    (member : event ∈ decrements mapping call) : event = .decremented mapping call.uid := by
  unfold decrements at member
  split at member
  · exact List.mem_singleton.mp member
  · simp at member

/-- The log only grows, in front: no action takes an event back. -/
theorem transition_log (transition : Transition state next) :
    ∃ events, next.log = events ++ state.log := by
  cases transition with
  | reconfigured pool initialising events same pid unallocated outcomes => exact ⟨events, rfl⟩
  | retired pool initialising events free empty pid unallocated outcomes =>
    exact ⟨events ++ [.retired], by simp⟩
  | allocated | reserved => exact ⟨[_], rfl⟩
  | quarantined => exact ⟨[_], rfl⟩
  | committing index reservation descriptor call => exact ⟨decrements reservation.mapping call, rfl⟩
  | cancelling index reservation after call => exact ⟨decrements reservation.mapping call, rfl⟩
  | committed index reservation descriptor call =>
    exact ⟨_ :: decrements reservation.mapping call, rfl⟩
  | cancelled index reservation after call =>
    exact ⟨_ :: decrements reservation.mapping call, rfl⟩
  | _ => exact ⟨[], rfl⟩

end Ros2CudaIpc.GpuBufferManager
