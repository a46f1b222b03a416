import Ros2CudaIpc.ManagerRefinement

/-!
# Publish blocks from before a reset

A PublishBlock keeps its pool index, its block id and its mapping over a reset,
and its cancel does not ask the pool. What separates it from the next generation
is the mapping alone: an object in use before the end of a generation is never
again one of the pool's, so every call which asks the pool is refused whatever
stands at the index now, and a cancel writes to the old object only. A commit
holds the mutex, so no generation ends under it.
-/

namespace Ros2CudaIpc.GpuBufferManager

open Reachability BlockProtocol

variable {state next : State} {number : Nat} {reservation : BlockReservation}

/-- An object was in use before the end of a generation, as an event about it came before that
end. -/
def State.Outlived (state : State) (number : Nat) : Prop :=
  ∃ later earlier event, state.log = later ++ .retired :: earlier ∧ event ∈ earlier ∧
    Event.mapping event = some number

/-- Such an object is not the pool's, nobody commits it, and nothing was published on it
since. -/
structure State.Isolated (state : State) : Prop where
  current : ∀ number ∈ state.pool.mappings, ¬ state.Outlived number
  committing : ∀ index reservation descriptor call,
    state.mutex = some (.committing index reservation descriptor call) →
      ∀ number, reservation.mapping = some number → ¬ state.Outlived number
  unpublished : ∀ later earlier event number, state.log = later ++ .retired :: earlier →
    event ∈ earlier → Event.mapping event = some number →
      ∀ descriptor timestamp, .prepared descriptor (some number) timestamp ∉ later

/-- Behind events which are no end of a generation, an earlier end stands where it stood. -/
theorem split_behind {events log later earlier : List Event} {event : Event}
    (absent : event ∉ events) (split : events ++ log = later ++ event :: earlier) :
    ∃ between, later = events ++ between ∧ log = between ++ event :: earlier := by
  rcases List.append_eq_append_iff.mp split with ⟨between, same, rest⟩ | ⟨beyond, same, rest⟩
  · exact ⟨between, same, rest⟩
  · cases beyond with
    | nil => exact ⟨[], by simpa using same.symm, rest.symm⟩
    | cons head tail =>
      obtain ⟨rfl, -⟩ := List.cons.inj rest
      exact absurd (by simp [same]) absent

/-- Events which end no generation outlive no object which was not outlived before. -/
theorem outlived_behind {events : List Event} (log : next.log = events ++ state.log)
    (unretired : .retired ∉ events) (outlived : next.Outlived number) : state.Outlived number := by
  obtain ⟨later, earlier, event, split, member, about⟩ := outlived
  obtain ⟨between, -, before⟩ := split_behind unretired (log.symm.trans split)
  exact ⟨between, earlier, event, before, member, about⟩

/-- An action which ends no generation and creates no object keeps outlived objects out of the
pool. -/
theorem State.Isolated.keep (isolated : state.Isolated) (events : List Event)
    (log : next.log = events ++ state.log) (unretired : .retired ∉ events)
    (mappings : next.pool.mappings = state.pool.mappings)
    (mutex : ∀ index reservation descriptor call,
      next.mutex = some (.committing index reservation descriptor call) →
        (∃ number ∈ state.pool.mappings, reservation.mapping = some number) ∨
        ∃ before, state.mutex = some (.committing index reservation descriptor before))
    (published : ∀ descriptor number timestamp,
      .prepared descriptor (some number) timestamp ∈ events → ¬ state.Outlived number) :
    next.Isolated := by
  have behind {number : Nat} : next.Outlived number → state.Outlived number :=
    outlived_behind log unretired
  refine ⟨?_, ?_, ?_⟩
  · intro number member outlived
    exact isolated.current number (mappings ▸ member) (behind outlived)
  · intro index reservation descriptor call inside number mapped outlived
    rcases mutex index reservation descriptor call inside with ⟨own, member, same⟩ | ⟨before, was⟩
    · obtain rfl : own = number := Option.some.inj (same.symm.trans mapped)
      exact isolated.current own member (behind outlived)
    · exact isolated.committing index reservation descriptor before was number mapped
        (behind outlived)
  · intro later earlier event number split member about descriptor timestamp logged
    obtain ⟨between, rfl, before⟩ := split_behind unretired (log.symm.trans split)
    rcases List.mem_append.mp logged with new | old
    · exact published descriptor number timestamp new
        ⟨between, earlier, event, before, member, about⟩
    · exact isolated.unpublished between earlier event number before member about descriptor
        timestamp old

/-- The end of a generation leaves the pool without mappings, and the mutex is free. -/
theorem State.Isolated.retire (isolated : state.Isolated) {pool : GpuBufferPool}
    {initialising : Option Initialising} {events : List Event} (free : state.mutex = none)
    (empty : pool.mappings = []) (outcomes : Outcomes events) :
    State.Isolated { state with
      pool := pool, initialising := initialising, log := events ++ .retired :: state.log } := by
  have unretired : Event.retired ∉ events := fun member => by
    obtain ⟨succeeded, other⟩ := outcomes _ member
    simp at other
  have unannounced {descriptor : BufferDescriptor} {mapping : Option Nat} {timestamp : Nat} :
      Event.prepared descriptor mapping timestamp ∉ events := fun member => by
    obtain ⟨succeeded, other⟩ := outcomes _ member
    simp at other
  refine ⟨?_, ?_, ?_⟩
  · intro number (member : number ∈ pool.mappings)
    simp [empty] at member
  · intro index reservation descriptor call inside
    exact absurd inside (by simp [free])
  · intro later earlier event number split member about descriptor timestamp logged
    obtain ⟨between, rfl, before⟩ := split_behind unretired split
    have logged' : .prepared descriptor (some number) timestamp ∈ between := by
      rcases List.mem_append.mp logged with new | old
      · exact absurd new unannounced
      · exact old
    cases between with
    | nil => simp at logged'
    | cons head tail =>
      obtain ⟨rfl, rest⟩ := List.cons.inj before
      exact isolated.unpublished tail earlier event number rest member about descriptor timestamp
        (by simpa using logged')

/-- Giving a block its object adds that object's number to the pool's, and no other. -/
theorem mem_mappings_identify {pool : GpuBufferPool} {index blockId mapping : Nat}
    (member : number ∈ (pool.identify index blockId mapping).mappings) :
    number = mapping ∨ number ∈ pool.mappings := by
  rw [GpuBufferPool.mappings_eq] at member ⊢
  obtain ⟨identity, inside, named⟩ := List.mem_filterMap.mp member
  rcases identify_identities inside with rfl | old
  · exact .inl (Option.some.inj named).symm
  · exact .inr (List.mem_filterMap.mpr ⟨identity, old, named⟩)

/-- Every action keeps the generations apart.

Proof: the new object's number is larger than that of every event so far. -/
theorem isolated_transition (formed : state.Formed) (isolated : state.Isolated)
    (transition : Transition state next) : next.Isolated := by
  have keep := @State.Isolated.keep state next isolated
  have same {pool : GpuBufferPool} (identities : pool.identities = state.pool.identities) :
      pool.mappings = state.pool.mappings := by
    rw [GpuBufferPool.mappings_eq, GpuBufferPool.mappings_eq, identities]
  cases transition with
  | reconfigured pool initialising events identities pid unallocated outcomes =>
    refine keep events rfl (fun member => ?_) (same identities)
      (fun _ _ _ call inside => .inr ⟨call, inside⟩) fun descriptor number timestamp member => ?_
    · obtain ⟨succeeded, other⟩ := outcomes _ member
      simp at other
    · obtain ⟨succeeded, other⟩ := outcomes _ member
      simp at other
  | retired pool initialising events free empty pid unallocated outcomes =>
    exact isolated.retire free empty outcomes
  | allocated index below running =>
    exact keep [_] rfl (by simp) rfl (fun _ _ _ call inside => .inr ⟨call, inside⟩) (by simp)
  | created index blockId value running =>
    refine ⟨?_, isolated.committing, isolated.unpublished⟩
    rintro number member ⟨later, earlier, event, split, before, about⟩
    rcases mem_mappings_identify member with rfl | old
    · have known := formed.events event (split ▸ List.mem_append_right later (.tail _ before))
      have below := known.below about
      simp [State.blockIds] at below
    · exact isolated.current number old ⟨later, earlier, event, split, before, about⟩
  | reserved offset index mapping uid call metadata changed block inside found operation =>
    exact keep [_] rfl (by simp) rfl (by simp) (by simp)
  | handled pool index reservation stage next identities pid found quiet kept described =>
    exact keep [] rfl (by simp) (same identities) (fun _ _ _ call inside => .inr ⟨call, inside⟩)
      (by simp)
  | quarantined index reservation stage next event found unsettled vacant failed =>
    refine keep [event] rfl ?_ rfl (fun _ _ _ call inside => .inr ⟨call, inside⟩) ?_
    · rcases failed with rfl | ⟨rfl, -⟩ <;> simp
    · rcases failed with rfl | ⟨rfl, -⟩ <;> simp
  | commitBegun index reservation descriptor found free owned =>
    refine keep [] rfl (by simp) rfl (fun _ _ _ _ inside => .inl ?_) (by simp)
    obtain ⟨-, rfl, -, -⟩ := Holder.committing.inj (Option.some.inj inside)
    exact GpuBufferPool.owns_mapping owned
  | committing index reservation descriptor call following metadata changed inside =>
    refine keep (decrements reservation.mapping call) rfl
      (fun member => by simpa using mem_decrements member) rfl (fun _ _ _ _ went => .inr ?_)
      fun other number timestamp member => by simpa using mem_decrements member
    obtain ⟨rfl, rfl, rfl, -⟩ := Holder.committing.inj (Option.some.inj went)
    exact ⟨call, inside⟩
  | committed index reservation descriptor call metadata changed released inside =>
    refine keep (_ :: decrements reservation.mapping call) rfl ?_ rfl
      (by simp [State.put, State.note]) ?_
    · intro member
      rcases List.mem_cons.mp member with own | other
      · cases released <;> simp at own
      · simpa using mem_decrements other
    · intro other number timestamp member
      rcases List.mem_cons.mp member with own | decrement
      · cases released with
        | false => simp at own
        | true =>
          obtain ⟨-, mapped, -⟩ := Event.prepared.inj own
          exact isolated.committing index reservation descriptor call inside number mapped.symm
      · simpa using mem_decrements decrement
  | cancelling index reservation after call following metadata changed =>
    exact keep (decrements reservation.mapping call) rfl
      (fun member => by simpa using mem_decrements member) rfl
      (fun _ _ _ call inside => .inr ⟨call, inside⟩)
      fun other number timestamp member => by simpa using mem_decrements member
  | cancelled index reservation after call metadata changed released =>
    refine keep (_ :: decrements reservation.mapping call) rfl ?_ rfl
      (fun _ _ _ call inside => .inr ⟨call, inside⟩) ?_
    · intro member
      rcases List.mem_cons.mp member with own | other
      · cases released <;> simp at own
      · simpa using mem_decrements other
    · intro other number timestamp member
      rcases List.mem_cons.mp member with own | decrement
      · cases released <;> simp at own
      · simpa using mem_decrements decrement
  | scanned mutex outside goes =>
    refine keep [] rfl (by simp) rfl (fun _ _ _ _ inside => ?_) (by simp)
    rcases goes with rfl | ⟨offset, rfl⟩ <;> simp at inside
  | visited | reserving | passed => exact keep [] rfl (by simp) rfl (by simp) (by simp)
  | _ =>
    exact keep [] rfl (by simp) rfl (fun _ _ _ call inside => .inr ⟨call, inside⟩) (by simp)

/-- In every reachable state outlived objects are none of the pool's, and nobody commits them. By
induction on the run. -/
theorem reachable_isolated (reached : Reachable step (fun _ _ => True) Initial state) :
    state.Isolated := by
  refine Reachable.invariant ?_ ?_ reached
  · rintro start ⟨config, blockCount, publisherPid, nextBlockId, clock, -, -, rfl⟩
    refine ⟨?_, by simp, ?_⟩
    · simp [GpuBufferPool.construct, GpuBufferPool.mappings]
    · simp
  · intro earlier later action before isolated _ moved
    exact isolated_transition (reachable_formed before) isolated (step_transition moved)

/-- The operations on a PublishBlock, also as the other side of a move. Those on other
PublishBlocks are not among them. -/
inductive OperatesOn (index : Nat) : Action → Prop where
  | preparePublish (locked recorded : Bool) (stream : Nat) :
      OperatesOn index (.preparePublish index locked recorded stream)
  | buildDescriptor (locked copied : Bool) : OperatesOn index (.buildDescriptor index locked copied)
  | commit (locked : Bool) : OperatesOn index (.commit index locked)
  | cancel : OperatesOn index (.cancel index)
  | advanceCancel : OperatesOn index (.advanceCancel index)
  | moveConstruct : OperatesOn index (.moveConstruct index)
  | moveAssign (source : Nat) : OperatesOn index (.moveAssign index source)
  | moveFrom : OperatesOn index (.moveFrom index)
  | movedTo (target : Nat) : OperatesOn index (.moveAssign target index)
  | destroy : OperatesOn index (.destroy index)

/-- Nothing changed but PublishBlocks, the log and the words behind one mapping, and nothing
was published. -/
structure State.Spares (state next : State) (mapping : Option Nat) : Prop where
  pool : next.pool = state.pool
  mutex : next.mutex = state.mutex
  initialising : next.initialising = state.initialising
  blockIds : next.blockIds = state.blockIds
  words : ∀ number, mapping ≠ some number → next.read (some number) = state.read (some number)
  acquisitions : next.acquisitions = state.acquisitions
  counter : next.nextProcessBlockId = state.nextProcessBlockId
  unpublished : ∀ descriptor named timestamp, .prepared descriptor named timestamp ∈ next.log →
    .prepared descriptor named timestamp ∈ state.log

variable {index : Nat} {block : PublishBlock} {mapping : Option Nat}

/-- A step which changes nothing spares everything. -/
theorem spares_refl (state : State) (mapping : Option Nat) : state.Spares state mapping :=
  ⟨rfl, rfl, rfl, rfl, fun _ _ => rfl, rfl, rfl, fun _ _ _ => id⟩

/-- A step which replaces one PublishBlock spares the pool, every object and the publications so
far. -/
theorem spares_put (state : State) (index : Nat) (block : PublishBlock) (mapping : Option Nat) :
    state.Spares (state.put index block) mapping :=
  ⟨rfl, rfl, rfl, rfl, fun _ _ => rfl, rfl, rfl, fun _ _ _ => id⟩

/-- A step which spares everything still does when it also logs an event, other than a
publication. -/
theorem State.Spares.note {event : Event} (spares : state.Spares next mapping)
    (quiet : ∀ descriptor named timestamp, event ≠ .prepared descriptor named timestamp) :
    state.Spares (next.note event) mapping :=
  { spares with
    unpublished := fun descriptor named timestamp member =>
      spares.unpublished descriptor named timestamp
        ((List.mem_cons.mp member).resolve_left fun same =>
          quiet descriptor named timestamp same.symm) }

/-- A quarantine spares everything: it logs a failure and replaces one PublishBlock. -/
theorem spares_quarantine (state : State) (index : Nat) (reservation : BlockReservation)
    (mapping : Option Nat) : state.Spares (state.quarantine index reservation) mapping :=
  (spares_put state index _ mapping).note (by simp)

/-- `record_ready` is refused for a reservation the pool does not own, and records nothing. -/
theorem recordReady_foreign {pool : GpuBufferPool} (foreign : pool.owns reservation = false)
    (locked : Bool) (stream : Nat) (recorded : Bool) :
    pool.recordReady locked reservation stream recorded = (pool, false) := by
  unfold GpuBufferPool.recordReady GpuBufferPool.owned
  simp [foreign]

/-- And so is `try_build_descriptor`, which builds nothing then. -/
theorem tryBuildDescriptor_foreign {pool : GpuBufferPool}
    (foreign : pool.owns reservation = false) (locked copied : Bool) :
    pool.tryBuildDescriptor locked reservation copied = none := by
  unfold GpuBufferPool.tryBuildDescriptor GpuBufferPool.owned
  simp [foreign]

/-- The three calls of a `prepare_publish` spare everything when the pool does not own the
reservation. -/
theorem prepare_spares (foreign : state.pool.owns block.reservation = false)
    (moved : (∃ locked recorded stream,
        state.preparePublish index locked recorded stream block = some next) ∨
      (∃ locked copied, state.buildDescriptor index locked copied block = some next) ∨
      ∃ locked, state.commit index locked block = some next) : state.Spares next mapping := by
  obtain ⟨reservation, stage⟩ := block
  have quarantined := spares_quarantine state index reservation mapping
  rcases moved with ⟨locked, recorded, stream, moved⟩ | ⟨locked, copied, moved⟩ | ⟨locked, moved⟩
  · cases stage with
    | idle owner =>
      cases owner with
      | false => exact (Option.some.inj moved) ▸ spares_refl state mapping
      | true =>
        simp only [State.preparePublish, recordReady_foreign foreign] at moved
        split at moved
        · simp at moved
        · exact (Option.some.inj moved) ▸ quarantined
    | _ => simp [State.preparePublish] at moved
  · cases stage with
    | recorded =>
      simp only [State.buildDescriptor, tryBuildDescriptor_foreign foreign] at moved
      split at moved
      · simp at moved
      · exact (Option.some.inj moved) ▸ quarantined
    | _ => simp [State.buildDescriptor] at moved
  · cases stage with
    | described descriptor =>
      simp only [State.commit, foreign, if_true] at moved
      split at moved
      · exact (Option.some.inj moved) ▸ quarantined
      · split at moved
        · simp at moved
        · exact (Option.some.inj moved) ▸ quarantined
    | _ => simp [State.commit] at moved

/-- The begin of a cancel spares everything, as it has not come to the words yet. -/
theorem beginCancel_spares {after : AfterCancel}
    (moved : state.beginCancel index after block = some next) : state.Spares next mapping := by
  obtain ⟨reservation, stage⟩ := block
  cases stage with
  | idle owner =>
    cases owner with
    | false => exact (Option.some.inj moved) ▸ spares_put state index _ mapping
    | true =>
      simp only [State.beginCancel] at moved
      split at moved
      · exact (Option.some.inj moved) ▸ spares_put state index _ mapping
      · exact (Option.some.inj moved) ▸ (spares_put state index _ mapping).note (by simp)
  | _ => simp [State.beginCancel] at moved

/-- An operation of a running cancel writes behind its own mapping, and spares everything else. -/
theorem advanceCancel_spares (moved : state.advanceCancel index block = some next) :
    state.Spares next block.reservation.mapping := by
  obtain ⟨reservation, stage⟩ := block
  cases stage with
  | cancelling call after =>
    obtain ⟨metadata, found, rfl⟩ := Option.map_eq_some_iff.mp moved
    generalize call.step state.clock metadata = result
    obtain ⟨changed, outcome⟩ := result
    have settled : state.Spares (state.settle reservation.mapping call changed)
        reservation.mapping := by
      refine ⟨rfl, rfl, rfl, ?_, fun number apart => ?_, rfl, rfl, fun _ _ _ member => ?_⟩
      · simp [State.blockIds, State.settle, State.write]
      · exact read_unwritten apart changed
      · rcases List.mem_append.mp member with own | old
        · simpa using mem_decrements own
        · exact old
    have staged (stage : Stage) : state.Spares
        ((state.settle reservation.mapping call changed).put index ⟨reservation, stage⟩)
        reservation.mapping := { settled with }
    cases outcome with
    | running following => exact staged _
    | returned released => exact (staged _).note (by cases released <;> simp)
  | _ => simp [State.advanceCancel] at moved

/-- Moves spare everything: they touch two PublishBlocks. -/
theorem move_spares (moved : state.moveConstruct index block = some next ∨
      state.moveFrom index block = some next) : state.Spares next mapping := by
  obtain ⟨reservation, stage⟩ := block
  rcases moved with moved | moved
  · cases stage with
    | idle owner => exact (Option.some.inj moved) ▸ { spares_refl state mapping with }
    | _ => simp [State.moveConstruct] at moved
  · cases stage with
    | assigning source =>
      simp only [State.moveFrom] at moved
      split at moved
      · exact (Option.some.inj moved) ▸ { spares_refl state mapping with }
      · simp at moved
    | _ => simp [State.moveFrom] at moved

/-- An operation on a PublishBlock whose reservation the pool does not own spares all but that
block's own old object. -/
theorem foreign_spares {action : Action} (operates : OperatesOn index action)
    (stored : state.publishBlocks[index]? = some block)
    (foreign : state.pool.owns block.reservation = false)
    (moved : step state action = some next) : state.Spares next block.reservation.mapping := by
  cases operates with
  | preparePublish locked recorded stream =>
    simp only [step, stored, Option.bind_some] at moved
    exact prepare_spares foreign (.inl ⟨_, _, _, moved⟩)
  | buildDescriptor locked copied =>
    simp only [step, stored, Option.bind_some] at moved
    exact prepare_spares foreign (.inr (.inl ⟨_, _, moved⟩))
  | commit locked =>
    simp only [step, stored, Option.bind_some] at moved
    exact prepare_spares foreign (.inr (.inr ⟨_, moved⟩))
  | cancel | destroy =>
    simp only [step, stored, Option.bind_some] at moved
    exact beginCancel_spares moved
  | advanceCancel =>
    simp only [step, stored, Option.bind_some] at moved
    exact advanceCancel_spares moved
  | moveConstruct =>
    simp only [step, stored, Option.bind_some] at moved
    exact move_spares (.inl moved)
  | moveFrom =>
    simp only [step, stored, Option.bind_some] at moved
    exact move_spares (.inr moved)
  | moveAssign source =>
    simp only [step] at moved
    split at moved
    · exact (Option.some.inj moved) ▸ spares_refl state _
    · simp only [stored, Option.bind_some] at moved
      exact beginCancel_spares moved
  | movedTo target =>
    simp only [step] at moved
    split at moved
    · exact (Option.some.inj moved) ▸ spares_refl state _
    · obtain ⟨other, present, moved⟩ := Option.bind_eq_some_iff.mp moved
      exact beginCancel_spares moved

/-- A PublishBlock the pool does not own has no device pointer, whether or not the mutex was
locked. -/
theorem devicePtr_foreign (foreign : state.pool.owns block.reservation = false) (locked : Bool) :
    state.devicePtr locked block = 0 := by
  unfold State.devicePtr GpuBufferPool.devicePtr GpuBufferPool.owned
  simp [foreign]

/-- Over every run, whatever resets, initialises and other calls come between its own: a
reservation made before the end of a generation is on none of the present pool's objects
and is not being committed, and nothing was published for it since. Its PublishBlock has no
device pointer, and no operation on it changes the pool or words other than its own old
object's, or publishes. -/
theorem reset_isolates (reached : Reachable step (fun _ _ => True) Initial state) :
    ∀ later earlier reservation now, state.log = later ++ .retired :: earlier →
      .reserved reservation now ∈ earlier →
      (∀ number ∈ state.pool.mappings, reservation.mapping ≠ some number) ∧
      (∀ descriptor timestamp, .prepared descriptor reservation.mapping timestamp ∉ later) ∧
      (∀ position descriptor call,
        state.mutex ≠ some (.committing position reservation descriptor call)) ∧
      ∀ (index : Nat) (block : PublishBlock), state.publishBlocks[index]? = some block →
        block.reservation = reservation ∨ block.reservation = reservation.moved →
          (∀ locked, state.devicePtr locked block = 0) ∧
          ∀ action next, OperatesOn index action → step state action = some next →
            state.Spares next reservation.mapping := by
  intro later earlier reservation now logged granted
  have isolated := reachable_isolated reached
  have member : .reserved reservation now ∈ state.log := by simp [logged, granted]
  obtain ⟨number, mapped, -⟩ := (reachable_formed reached).events _ member
  have mapped : reservation.mapping = some number := mapped
  have outlived : state.Outlived number :=
    ⟨later, earlier, .reserved reservation now, logged, granted, mapped⟩
  have apart : ∀ other ∈ state.pool.mappings, reservation.mapping ≠ some other := by
    intro other present same
    exact isolated.current other present (Option.some.inj (mapped.symm.trans same) ▸ outlived)
  refine ⟨apart, fun descriptor timestamp published => ?_,
    fun position descriptor call inside => ?_, fun index block stored own => ?_⟩
  · rw [mapped] at published
    exact isolated.unpublished later earlier _ number logged granted mapped descriptor timestamp
      published
  · exact isolated.committing position reservation descriptor call inside number mapped outlived
  · have foreign : state.pool.owns block.reservation = false := by
      refine GpuBufferPool.owns_foreign fun other present => ?_
      rcases own with same | same
      · exact same ▸ apart other present
      · rw [same]
        simp [BlockReservation.moved]
    refine ⟨devicePtr_foreign foreign, fun action next operates moved => ?_⟩
    have spares := foreign_spares operates stored foreign moved
    rcases own with same | same
    · exact same ▸ spares
    · exact { spares with words := fun other _ => spares.words other (by
        rw [same]
        simp [BlockReservation.moved]) }

/-- Reserve the block, reset, and initialise again, with the old PublishBlock still there. -/
def reserveAndReset : List Action :=
  initialiseOnce ++ acquireOnce ++ [.reset true] ++ initialiseOnce

/-- Where that run ends: the next generation has a block at the same index. -/
def nextGeneration : State :=
  { config := ⟨64, 0⟩
    pool := ⟨1, [⟨1, some 1, 4096, some ⟨Vector.replicate 64 0, []⟩, []⟩], 0, 64, 0, 7, true⟩
    initialising := none
    mutex := none
    publishBlocks := [⟨reservationOf 5, .idle true⟩]
    objects := [⟨0, ⟨5, 1, 0⟩⟩, ⟨1, ⟨4, 0, 0⟩⟩]
    acquisitions := []
    nextProcessBlockId := 2
    clock := 1
    log := [.initialised true, .allocated 1, .retired, .retired] ++ .retired ::
      [.reserved (reservationOf 5) 1, .initialised true, .allocated 0, .retired, .retired] }

/-- The old block is refused there, and its cancel leaves the new block and its words alone. -/
theorem reset_isolates_nextGeneration :
    Reachable step (fun _ _ => True) Initial nextGeneration ∧
    nextGeneration.devicePtr true ⟨reservationOf 5, .idle true⟩ = 0 ∧
    ∃ next, step nextGeneration (.cancel 0) = some next ∧ next.pool = nextGeneration.pool ∧
      next.read (some 1) = nextGeneration.read (some 1) := by
  have executed : run (guarded step (fun _ _ => True)) oneBlock reserveAndReset =
      some nextGeneration := by decide +kernel
  have reached : Reachable step (fun _ _ => True) Initial nextGeneration :=
    reachable_run reserveAndReset oneBlock _
      (.start oneBlock ⟨⟨64, 0⟩, 1, 7, 0, 1, by decide, by decide, rfl⟩) executed
  obtain ⟨-, -, -, blocks⟩ := reset_isolates reached _ _ (reservationOf 5) 1 rfl
    (List.mem_cons_self ..)
  obtain ⟨absent, spared⟩ := blocks 0 ⟨reservationOf 5, .idle true⟩ rfl (.inl rfl)
  refine ⟨reached, absent true, _, rfl, ?_, ?_⟩
  · exact (spared (.cancel 0) _ .cancel rfl).pool
  · exact (spared (.cancel 0) _ .cancel rfl).words 1 (by decide)

end Ros2CudaIpc.GpuBufferManager
