import Ros2CudaIpc.LifecycleRefinement

/-!
# The grace period of a manager's blocks

A reservation comes a grace period behind every publication of its block, however
many reservations of it were made and cancelled in between. A cancelled
reservation itself leaves no trace: while nothing is published behind it, the
timestamp word stays zero, and the next attempt on the unreferenced block
succeeds with its first operations, unless a subscriber operates on the block
meanwhile.
-/

namespace Ros2CudaIpc.GpuBufferManager

open Reachability BlockProtocol Lifecycle

/-- A subscriber operates on an object: a step of an acquire or of a release on it. -/
def State.Subscribes (state : State) (number : Nat) : Action → Prop
  | .advanceAcquisition index _ | .release index =>
    ∃ acquisition, state.acquisitions[index]? = some acquisition ∧ acquisition.mapping = number
  | _ => False

/-- A run in which no subscriber operates on an object. The number counts the
steps of the call inside the mutex. -/
inductive Undisturbed (number : Nat) (start : State) : Nat → State → Prop where
  | start : Undisturbed number start 0 start
  | own (steps : Nat) (state next : State) (before : Undisturbed number start steps state)
      (moved : step state .advanceHolder = some next) : Undisturbed number start (steps + 1) next
  | other (steps : Nat) (state next : State) (action : Action)
      (before : Undisturbed number start steps state) (outside : action ≠ .advanceHolder)
      (undisturbed : ¬ state.Subscribes number action) (moved : step state action = some next) :
      Undisturbed number start steps next

variable {state next start : State} {number : Nat}

/-- The call inside the mutex alone, with nothing in between, is an undisturbed run of as many
steps. -/
theorem Undisturbed.alone (number : Nat) {steps : Nat}
    (performed : run step start (List.replicate steps .advanceHolder) = some state) :
    Undisturbed number start steps state := by
  induction steps generalizing state with
  | zero => exact Option.some.inj performed ▸ .start
  | succ steps inductionHypothesis =>
    rw [List.replicate_succ', run_append] at performed
    obtain ⟨middle, before, last⟩ := Option.bind_eq_some_iff.mp performed
    simp only [run, Option.bind_fun_some] at last
    exact .own steps middle state (inductionHypothesis before) last

/-- An undisturbed run stays in the reachable states, as each of its steps is one of the system. -/
theorem Undisturbed.reachable {steps : Nat} (run : Undisturbed number start steps state)
    (reached : Reachable step (fun _ _ => True) Initial start) :
    Reachable step (fun _ _ => True) Initial state := by
  induction run with
  | start => exact reached
  | own steps state next before moved inductionHypothesis =>
    exact .step _ _ _ inductionHypothesis trivial moved
  | other steps state next action before outside undisturbed moved inductionHypothesis =>
    exact .step _ _ _ inductionHypothesis trivial moved

/-- An action which leaves the call inside the mutex and every created object; it may create
further ones. -/
def State.Keeps (state next : State) : Prop :=
  next.mutex = state.mutex ∧ ∃ more, next.objects = state.objects ++ more

/-- A step which changes neither the mutex nor the objects keeps both, whatever it does to the
rest of the state. -/
theorem keeps_same (mutex : next.mutex = state.mutex) (objects : next.objects = state.objects) :
    state.Keeps next :=
  ⟨mutex, [], by rw [objects, List.append_nil]⟩

/-- The words behind a mapping stay, since further objects are numbered behind the existing ones. -/
theorem State.Keeps.read (keeps : state.Keeps next) {metadata : BlockMetadata}
    (found : state.read (some number) = some metadata) :
    next.read (some number) = some metadata := by
  obtain ⟨more, appended⟩ := keeps.2
  simp only [State.read, Option.bind_some, Option.map_eq_some_iff] at found ⊢
  obtain ⟨object, stored, rfl⟩ := found
  refine ⟨object, ?_, rfl⟩
  rw [appended, List.getElem?_append_left (List.getElem?_eq_some_iff.mp stored).1, stored]

/-- Ending a generation keeps the call inside the mutex and the objects: it takes blocks away from
the pool only. -/
theorem destroyBlocks_keeps {locked : Bool} (destroyed : state.destroyBlocks locked = some next) :
    state.Keeps next := by
  rcases destroyBlocks_cases destroyed with rfl | ⟨-, rfl⟩
  · exact keeps_same rfl rfl
  · exact keeps_same rfl rfl

/-- So does a step of `initialise`, which adds objects behind the existing ones. The cases are its
positions. -/
theorem advanceInitialise_keeps {supply : Supply} {frame : Initialising}
    (moved : state.advanceInitialise supply frame = some next) : state.Keeps next := by
  cases frame with
  | checking =>
    simp only [State.advanceInitialise] at moved
    split at moved
    · exact (Option.some.inj moved) ▸ keeps_same rfl rfl
    · obtain ⟨cleared, destroyed, rfl⟩ := Option.map_eq_some_iff.mp moved
      split at destroyed
      · have kept := destroyBlocks_keeps destroyed
        exact kept
      · exact (Option.some.inj destroyed) ▸ keeps_same rfl rfl
  | retaining =>
    simp only [State.advanceInitialise] at moved
    split at moved
    · exact (Option.some.inj moved) ▸ keeps_same rfl rfl
    · split at moved
      · simp at moved
      · exact (Option.some.inj moved) ▸ keeps_same rfl rfl
  | loading index =>
    simp only [State.advanceInitialise] at moved
    split at moved <;> exact (Option.some.inj moved) ▸ keeps_same rfl rfl
  | allocating index current =>
    simp only [State.advanceInitialise] at moved
    split at moved
    · obtain ⟨cleared, destroyed, rfl⟩ := Option.map_eq_some_iff.mp moved
      have kept := destroyBlocks_keeps destroyed
      exact kept
    · split at moved <;> exact (Option.some.inj moved) ▸ keeps_same rfl rfl
  | creating index blockId =>
    simp only [State.advanceInitialise] at moved
    split at moved
    · obtain ⟨cleared, destroyed, rfl⟩ := Option.map_eq_some_iff.mp moved
      have kept := destroyBlocks_keeps destroyed
      exact kept
    · exact (Option.some.inj moved) ▸ ⟨rfl, _, rfl⟩
  | equipping =>
    simp only [State.advanceInitialise] at moved
    split at moved
    · obtain ⟨cleared, destroyed, rfl⟩ := Option.map_eq_some_iff.mp moved
      have kept := destroyBlocks_keeps destroyed
      exact kept
    · exact (Option.some.inj moved) ▸ keeps_same rfl rfl

/-- So does the recording of the ready event in `prepare_publish`, which touches the pool and its
PublishBlock only. -/
theorem preparePublish_keeps {index stream : Nat} {locked recorded : Bool} {block : PublishBlock}
    (moved : state.preparePublish index locked recorded stream block = some next) :
    state.Keeps next := by
  unfold State.preparePublish at moved
  split at moved <;> grind [State.put, State.quarantine, State.note, keeps_same]

/-- So does the building of the descriptor, which reads the pool and touches its PublishBlock
only. -/
theorem buildDescriptor_keeps {index : Nat} {locked copied : Bool} {block : PublishBlock}
    (moved : state.buildDescriptor index locked copied block = some next) :
    state.Keeps next := by
  unfold State.buildDescriptor at moved
  split at moved <;> grind [State.put, State.quarantine, State.note, keeps_same]

/-- A commit comes to the mutex first, which is taken, so it can only fail to lock and quarantine
its block. -/
theorem commit_keeps {index : Nat} {locked : Bool} {block : PublishBlock}
    (held : state.mutex.isSome = true)
    (moved : state.commit index locked block = some next) : state.Keeps next := by
  unfold State.commit at moved
  split at moved <;> grind [State.put, State.quarantine, State.note, keeps_same]

/-- So does the beginning of a cancel, which has not come to the words of the object yet. -/
theorem beginCancel_keeps {index : Nat} {after : AfterCancel} {block : PublishBlock}
    (moved : state.beginCancel index after block = some next) : state.Keeps next := by
  unfold State.beginCancel at moved
  split at moved <;> grind [State.put, State.note, keeps_same]

/-- So does a move construction, which touches two PublishBlocks and nothing else. -/
theorem moveConstruct_keeps {source : Nat} {block : PublishBlock}
    (moved : state.moveConstruct source block = some next) : state.Keeps next := by
  unfold State.moveConstruct at moved
  split at moved <;> grind [State.put, keeps_same]

/-- So does the second half of a move assignment, which touches two PublishBlocks and nothing
else. -/
theorem moveFrom_keeps {target : Nat} {block : PublishBlock}
    (moved : state.moveFrom target block = some next) : state.Keeps next := by
  unfold State.moveFrom at moved
  split at moved <;> grind [State.put, keeps_same]

/-- A write to another object keeps the mutex and the words of this one. -/
theorem wrote_beside {mapping : Option Nat} {metadata changed : BlockMetadata}
    (found : state.read (some number) = some metadata) (apart : mapping ≠ some number)
    (mutex : next.mutex = state.mutex)
    (written : next.objects = (state.write mapping changed).objects) :
    next.mutex = state.mutex ∧ next.read (some number) = some metadata := by
  have same : next.read (some number) = (state.write mapping changed).read (some number) := by
    unfold State.read
    rw [written]
  exact ⟨mutex, same.trans ((read_unwritten apart changed).trans found)⟩

/-- A running cancel writes the object of its own PublishBlock, which is not one that no
PublishBlock holds. -/
theorem advanceCancel_beside {index : Nat} {metadata : BlockMetadata} {block : PublishBlock}
    (vacant : heldOn number state.mutex state.publishBlocks = [])
    (found : state.read (some number) = some metadata)
    (present : state.publishBlocks[index]? = some block)
    (moved : state.advanceCancel index block = some next) :
    next.mutex = state.mutex ∧ next.read (some number) = some metadata := by
  obtain ⟨reservation, stage⟩ := block
  cases stage with
  | cancelling call after =>
    obtain ⟨words, read, moved⟩ := Option.map_eq_some_iff.mp moved
    have apart : reservation.mapping ≠ some number := by
      intro same
      have own := List.flatMap_eq_nil_iff.mp (List.append_eq_nil_iff.mp vacant).2 _
        (List.mem_of_getElem? present)
      rw [heldOn_stage rfl, if_pos same] at own
      exact absurd own (by simp)
    generalize call.step state.clock words = after at moved
    obtain ⟨changed, outcome⟩ := after
    cases outcome with
    | running following =>
      subst moved
      exact wrote_beside found apart rfl rfl
    | returned released =>
      subst moved
      exact wrote_beside found apart rfl rfl
  | _ => simp [State.advanceCancel] at moved

/-- An operation of a subscriber writes the object it is on, which is another one. -/
theorem advanceAcquisition_beside {index : Nat} {spurious : Bool} {metadata : BlockMetadata}
    {acquisition : Acquisition} (found : state.read (some number) = some metadata)
    (apart : acquisition.mapping ≠ number)
    (moved : state.advanceAcquisition index spurious acquisition = some next) :
    next.mutex = state.mutex ∧ next.read (some number) = some metadata := by
  obtain ⟨mapping, uid, phase⟩ := acquisition
  have other : some mapping ≠ some number := fun same => apart (Option.some.inj same)
  cases phase with
  | acquiring | underflowed =>
    obtain ⟨words, read, rfl⟩ := Option.map_eq_some_iff.mp moved
    exact wrote_beside found other rfl rfl
  | _ => simp [State.advanceAcquisition] at moved

/-- So does the decrement of a release. -/
theorem release_beside {index : Nat} {metadata : BlockMetadata} {acquisition : Acquisition}
    (found : state.read (some number) = some metadata) (apart : acquisition.mapping ≠ number)
    (moved : state.release index acquisition = some next) :
    next.mutex = state.mutex ∧ next.read (some number) = some metadata := by
  obtain ⟨mapping, uid, phase⟩ := acquisition
  have other : some mapping ≠ some number := fun same => apart (Option.some.inj same)
  cases phase with
  | holding =>
    obtain ⟨words, read, rfl⟩ := Option.map_eq_some_iff.mp moved
    exact wrote_beside found other rfl rfl
  | _ => simp [State.release] at moved

/-- Beside a call inside the mutex, the words of an object which no PublishBlock holds
and no subscriber operates on stay. -/
theorem step_beside {action : Action} {metadata : BlockMetadata}
    (held : state.mutex.isSome = true) (outside : action ≠ .advanceHolder)
    (undisturbed : ¬ state.Subscribes number action)
    (vacant : heldOn number state.mutex state.publishBlocks = [])
    (found : state.read (some number) = some metadata) (moved : step state action = some next) :
    next.mutex = state.mutex ∧ next.read (some number) = some metadata := by
  have kept (keeps : state.Keeps next) :
      next.mutex = state.mutex ∧ next.read (some number) = some metadata :=
    ⟨keeps.1, keeps.read found⟩
  cases action with
  | advanceHolder => exact absurd rfl outside
  | tick elapsed => exact kept ((Option.some.inj moved) ▸ keeps_same rfl rfl)
  | allocateElsewhere =>
    simp only [step] at moved
    split at moved
    · exact kept ((Option.some.inj moved) ▸ keeps_same rfl rfl)
    · simp at moved
  | initialise locked =>
    simp only [step] at moved
    split at moved
    · simp at moved
    · obtain ⟨cleared, destroyed, rfl⟩ := Option.map_eq_some_iff.mp moved
      have keeps := destroyBlocks_keeps destroyed
      exact kept keeps
  | advanceInitialise supply =>
    obtain ⟨frame, running, moved⟩ := Option.bind_eq_some_iff.mp moved
    exact kept (advanceInitialise_keeps moved)
  | reset locked =>
    simp only [step] at moved
    split at moved
    · simp at moved
    · exact kept (destroyBlocks_keeps moved)
  | acquireForPublish locked =>
    simp only [step, held, if_true] at moved
    split at moved
    · exact kept ((Option.some.inj moved) ▸ keeps_same rfl rfl)
    · simp at moved
  | preparePublish index locked recorded stream =>
    obtain ⟨block, present, moved⟩ := Option.bind_eq_some_iff.mp moved
    exact kept (preparePublish_keeps moved)
  | buildDescriptor index locked copied =>
    obtain ⟨block, present, moved⟩ := Option.bind_eq_some_iff.mp moved
    exact kept (buildDescriptor_keeps moved)
  | commit index locked =>
    obtain ⟨block, present, moved⟩ := Option.bind_eq_some_iff.mp moved
    exact kept (commit_keeps held moved)
  | cancel index | destroy index =>
    obtain ⟨block, present, moved⟩ := Option.bind_eq_some_iff.mp moved
    exact kept (beginCancel_keeps moved)
  | moveAssign target source =>
    simp only [step] at moved
    split at moved
    · exact kept ((Option.some.inj moved) ▸ keeps_same rfl rfl)
    · obtain ⟨block, present, moved⟩ := Option.bind_eq_some_iff.mp moved
      exact kept (beginCancel_keeps moved)
  | advanceCancel index =>
    obtain ⟨block, present, moved⟩ := Option.bind_eq_some_iff.mp moved
    exact advanceCancel_beside vacant found present moved
  | moveConstruct source =>
    obtain ⟨block, present, moved⟩ := Option.bind_eq_some_iff.mp moved
    exact kept (moveConstruct_keeps moved)
  | moveFrom target =>
    obtain ⟨block, present, moved⟩ := Option.bind_eq_some_iff.mp moved
    exact kept (moveFrom_keeps moved)
  | acquire mapping uid =>
    simp only [step] at moved
    split at moved
    · exact kept ((Option.some.inj moved) ▸ keeps_same rfl rfl)
    · simp at moved
  | advanceAcquisition index spurious =>
    obtain ⟨acquisition, present, moved⟩ := Option.bind_eq_some_iff.mp moved
    exact advanceAcquisition_beside found (fun same => undisturbed ⟨_, present, same⟩) moved
  | release index =>
    obtain ⟨acquisition, present, moved⟩ := Option.bind_eq_some_iff.mp moved
    exact release_beside found (fun same => undisturbed ⟨_, present, same⟩) moved

/-- A visited index stays in the vector: nobody replaces the vector under the mutex. -/
def State.Within (state : State) : Prop :=
  ∀ offset index mapping call, state.mutex = some (.reserving offset index mapping call) →
    index < state.pool.blocks.length

/-- A reserving call inside the mutex stays on a block of the vector: no step shortens the vector
while the mutex is held. -/
theorem within_transition (within : state.Within) (transition : Transition state next) :
    next.Within := by
  have repool {pool : GpuBufferPool} (same : pool.identities = state.pool.identities) :
      pool.blocks.length = state.pool.blocks.length := by
    have lengths := congrArg List.length same
    simpa [GpuBufferPool.identities] using lengths
  cases transition with
  | reconfigured pool initialising events same pid unallocated outcomes =>
    intro offset index mapping call inside
    exact repool same ▸ within offset index mapping call inside
  | retired pool initialising events free empty pid unallocated outcomes =>
    intro offset index mapping call inside
    have taken : state.mutex = some (.reserving offset index mapping call) := inside
    simp [free] at taken
  | created index blockId value running =>
    intro offset position mapping call inside
    simpa [GpuBufferPool.identify] using within offset position mapping call inside
  | scanned mutex outside goes =>
    rintro offset index mapping call inside
    rcases goes with rfl | ⟨after, rfl⟩ <;> simp at inside
  | visited offset index mapping inside bounded present =>
    intro later position other call same
    obtain ⟨rfl, rfl, rfl, rfl⟩ := Holder.reserving.inj (Option.some.inj same)
    exact bounded
  | reserving offset index mapping call next metadata changed inside found operation =>
    intro later position other following same
    obtain ⟨rfl, rfl, rfl, rfl⟩ := Holder.reserving.inj (Option.some.inj same)
    exact within _ _ _ _ inside
  | handled pool index reservation stage next same pid found quiet kept described =>
    intro offset position mapping call inside
    exact repool same ▸ within offset position mapping call inside
  | passed | reserved | commitBegun | committing | committed =>
    rintro offset index mapping call inside
    simp [State.put, State.note] at inside
  | _ => exact within

/-- In every reachable state a reserving call is on a block of the vector. By induction on the
run. -/
theorem reachable_within {admitted : State → Action → Prop}
    (reached : Reachable step admitted Initial state) : state.Within := by
  refine Reachable.invariant ?_ ?_ reached
  · rintro start ⟨config, blockCount, publisherPid, nextBlockId, clock, -, -, rfl⟩
    simp [State.Within]
  · intro earlier later action before within _ moved
    exact within_transition within (step_transition moved)

/-- The position of an attempt which has performed so many operations, on the path on which each
of its checks passes. -/
def attemptPc (uid : Nat) : Nat → ReservePc
  | 0 => .sampleClock
  | 1 => .loadRefcount
  | 2 => .loadTimestamp
  | 3 => .claim
  | 4 => .loadUid
  | 5 => .storeUid (uid + 1)
  | _ => .storeTimestamp (uid + 1)

/-- The words such an attempt has left behind so many operations: the claim comes with the fourth,
the uid with the sixth. -/
def attemptWords (metadata : BlockMetadata) : Nat → BlockMetadata
  | 0 | 1 | 2 | 3 => metadata
  | 4 | 5 => { metadata with refcount := 1 }
  | _ => { metadata with refcount := 1, uid := metadata.uid + 1 }

/-- The operations of an attempt which succeeds, from sampling the clock to clearing the
timestamp. -/
def attemptLength : Nat := 7

/-- An attempt behind so many operations: its call is inside the mutex, and the object has the
words it left. -/
def State.Attempts (state : State) (offset index number : Nat) (metadata : BlockMetadata)
    (steps : Nat) : Prop :=
  (∃ now, state.mutex =
    some (.reserving offset index number ⟨now, attemptPc metadata.uid steps⟩)) ∧
    state.read (some number) = some (attemptWords metadata steps)

/-- The block of an object is granted with a uid: the log records the reservation. -/
def State.Granted (state : State) (number uid : Nat) : Prop :=
  ∃ reservation now, .reserved reservation now ∈ state.log ∧
    reservation.mapping = some number ∧ reservation.uid = uid

/-- An operation of an attempt which goes on is a step of the system, with the changed words
behind the mapping. -/
theorem attempt_continues {offset index now : Nat} {metadata changed : BlockMetadata}
    {pc : ReservePc} {following : ReserveCall}
    (inside : state.mutex = some (.reserving offset index number ⟨now, pc⟩))
    (found : state.read (some number) = some metadata)
    (operation : ReserveCall.step state.clock metadata ⟨now, pc⟩ = (changed, .running following)) :
    ∃ next, step state .advanceHolder = some next ∧
      next.mutex = some (.reserving offset index number following) ∧
      next.read (some number) = some changed := by
  refine ⟨{ state.write (some number) changed with
    mutex := some (.reserving offset index number following) }, ?_, rfl, ?_⟩
  · simp only [step, inside, Option.bind_some, State.advanceHolder, found, operation]
  · exact read_written found changed

/-- The attempt performs its next operation, the last of which grants the block.

Proof: each operation but the last goes on to the position behind it. -/
theorem attempt_step {offset index : Nat} {metadata : BlockMetadata} {steps : Nat}
    (attempts : state.Attempts offset index number metadata steps)
    (unreferenced : metadata.refcount = 0) (room : metadata.uid < uint64Max)
    (zero : metadata.publishTimestampUs = 0) (within : index < state.pool.blocks.length)
    (early : steps < attemptLength) :
    ∃ next, step state .advanceHolder = some next ∧
      (steps + 1 < attemptLength → next.Attempts offset index number metadata (steps + 1)) ∧
      (steps + 1 = attemptLength → next.Granted number (metadata.uid + 1)) := by
  obtain ⟨⟨now, inside⟩, found⟩ := attempts
  have goes (later : Nat)
      (operation : ReserveCall.step state.clock (attemptWords metadata steps)
        ⟨now, attemptPc metadata.uid steps⟩ =
          (attemptWords metadata (steps + 1),
            .running ⟨later, attemptPc metadata.uid (steps + 1)⟩))
      (unfinished : steps + 1 ≠ attemptLength) :
      ∃ next, step state .advanceHolder = some next ∧
        (steps + 1 < attemptLength → next.Attempts offset index number metadata (steps + 1)) ∧
        (steps + 1 = attemptLength → next.Granted number (metadata.uid + 1)) := by
    obtain ⟨next, moved, mutex, read⟩ := attempt_continues inside found operation
    exact ⟨next, moved, fun _ => ⟨⟨later, mutex⟩, read⟩, fun finished => absurd finished unfinished⟩
  match steps with
  | 0 =>
    exact goes state.clock rfl (by decide)
  | 1 =>
    exact goes now
      (by simp [ReserveCall.step, attemptPc, attemptWords, unreferenced]) (by decide)
  | 2 =>
    exact goes now
      (by simp [ReserveCall.step, ReserveCall.tooRecent, attemptPc, attemptWords, zero])
      (by decide)
  | 3 =>
    exact goes now
      (by simp [ReserveCall.step, attemptPc, attemptWords, unreferenced]) (by decide)
  | 4 =>
    have last : metadata.uid ≠ uint64Max := by omega
    exact goes now
      (by simp [ReserveCall.step, attemptPc, attemptWords, last]) (by decide)
  | 5 =>
    exact goes now rfl (by decide)
  | 6 =>
    obtain ⟨block, stored⟩ : ∃ block, state.pool.resources index = some block :=
      ⟨_, List.getElem?_eq_getElem within⟩
    simp only [step, inside, Option.bind_some, State.advanceHolder, found, attemptPc,
      ReserveCall.step, State.grant, State.write, stored, Option.map_some]
    refine ⟨_, rfl, fun more => absurd more (by decide), fun _ => ?_⟩
    exact ⟨_, now, List.mem_cons_self .., rfl, rfl⟩
  | steps + 7 =>
    simp only [attemptLength] at early
    omega

/-- While an attempt is on its way nobody holds its block.

Proof: up to the claim the count is zero; from then on it is the attempt's own. -/
theorem attempt_vacant {offset index : Nat} {metadata : BlockMetadata} {steps : Nat}
    (reached : Reachable step (fun _ _ => True) Initial state)
    (attempts : state.Attempts offset index number metadata steps)
    (unreferenced : metadata.refcount = 0) (room : metadata.uid < uint64Max)
    (early : steps < attemptLength) :
    heldOn number state.mutex state.publishBlocks = [] := by
  obtain ⟨⟨now, inside⟩, found⟩ := attempts
  have viewed := reachable_views reached number _ found
  have running : .reserve ⟨now, attemptPc metadata.uid steps⟩ ∈
      callsOn number state.mutex state.publishBlocks state.acquisitions := by
    refine Holder.callsOn_mem inside ?_
    simp [Holder.callsOn]
  have claims (holds : ReserveCall.share ⟨now, attemptPc metadata.uid steps⟩ = 1) :
      heldOn number state.mutex state.publishBlocks = [] := by
    obtain ⟨unreserved, unsettled⟩ := viewed.claimed running holds
    exact heldOn_vacant unreserved (viewed.unsettling unsettled)
  match steps with
  | 0 | 1 | 2 | 3 =>
    obtain ⟨unreserved, unsettled⟩ := viewed.unreferenced unreferenced room
    exact heldOn_vacant unreserved unsettled
  | 4 | 5 | 6 => exact claims rfl
  | steps + 7 =>
    simp only [attemptLength] at early
    omega

/-- An attempt on an unreferenced block with no publication to wait for: undisturbed, it takes its
operations one by one and is granted by the last.

Proof: a grant stays in the log. -/
theorem undisturbed_attempt {offset index : Nat} {metadata : BlockMetadata} {steps : Nat}
    (reached : Reachable step (fun _ _ => True) Initial start)
    (attempts : start.Attempts offset index number metadata 0)
    (unreferenced : metadata.refcount = 0) (room : metadata.uid < uint64Max)
    (zero : metadata.publishTimestampUs = 0) (run : Undisturbed number start steps state) :
    (steps < attemptLength → state.Attempts offset index number metadata steps) ∧
      (attemptLength ≤ steps → state.Granted number (metadata.uid + 1)) := by
  have stays {state next : State} (granted : state.Granted number (metadata.uid + 1))
      {action : Action} (moved : step state action = some next) :
      next.Granted number (metadata.uid + 1) := by
    obtain ⟨reservation, now, member, onto, uid⟩ := granted
    obtain ⟨events, grown⟩ := transition_log (step_transition moved)
    exact ⟨reservation, now, grown ▸ List.mem_append_right events member, onto, uid⟩
  induction run with
  | start => exact ⟨fun _ => attempts, fun finished => absurd finished (by decide)⟩
  | own steps state next before moved inductionHypothesis =>
    obtain ⟨attempting, granted⟩ := inductionHypothesis
    by_cases early : steps < attemptLength
    · have current := attempting early
      have ⟨⟨now, inside⟩, found⟩ := current
      have within := reachable_within (before.reachable reached) _ _ _ _ inside
      obtain ⟨other, performed, continues, finishes⟩ :=
        attempt_step current unreferenced room zero within early
      obtain rfl : other = next := Option.some.inj (performed.symm.trans moved)
      exact ⟨continues, fun finished => finishes (by omega)⟩
    · exact ⟨fun unfinished => absurd unfinished (by omega),
        fun _ => stays (granted (by omega)) moved⟩
  | other steps state next action before outside undisturbed moved inductionHypothesis =>
    obtain ⟨attempting, granted⟩ := inductionHypothesis
    refine ⟨fun early => ?_, fun finished => stays (granted finished) moved⟩
    have current := attempting early
    have vacant := attempt_vacant (before.reachable reached) current unreferenced room early
    obtain ⟨⟨now, inside⟩, found⟩ := current
    obtain ⟨mutex, read⟩ :=
      step_beside (by rw [inside]; rfl) outside undisturbed vacant found moved
    exact ⟨⟨now, mutex.trans inside⟩, read⟩

/-- A timestamp word is zero behind a cancel and no publication, as soon as the mutex is
not with a commit. -/
theorem cancelled_unstamped {offset index : Nat} {metadata : BlockMetadata} {call : ReserveCall}
    (reached : Reachable step (fun _ _ => True) Initial state)
    (found : state.read (some number) = some metadata)
    (cancelled : CancelledSince (historyOn number state.log))
    (inside : state.mutex = some (.reserving offset index number call)) :
    metadata.publishTimestampUs = 0 := by
  obtain ⟨life, lived, tracks⟩ := (reachable_lives reached number).2 metadata found
  rcases tracks.unstamped (.inl (lived.undone cancelled)) with zero | ⟨other, committing⟩
  · exact zero
  · rw [inside, workOn_reserving, if_pos rfl] at committing
    cases committing

/-- A granted reservation was sampled a grace period behind every earlier publication of
its block. -/
theorem reserved_aged {later earlier : List Event} {reservation : BlockReservation} {now : Nat}
    (reached : Reachable step (fun _ _ => True) Initial state)
    (logged : state.log = later ++ .reserved reservation now :: earlier)
    {descriptor : BufferDescriptor} {timestamp : Nat}
    (published : .prepared descriptor reservation.mapping timestamp ∈ earlier) :
    timestamp + gracePeriodUs ≤ now := by
  have member : .reserved reservation now ∈ state.log := by simp [logged]
  obtain ⟨number, onto, -⟩ := (reachable_formed reached).events _ member
  obtain ⟨life, lived⟩ := event_split reached logged onto
  exact lived.aged (mem_historyOn published onto)

/-- Over every run of a manager, its PublishBlocks and its subscribers: a block is granted
only a grace period behind all of its publications. Behind a cancel and no publication,
an attempt on an unreferenced block which still has a uid is granted without any further
wait: undisturbed, it performs its seven operations one by one and returns the block. -/
theorem gracePeriod_kept (reached : Reachable step (fun _ _ => True) Initial state) :
    (∀ later earlier reservation now, state.log = later ++ .reserved reservation now :: earlier →
      ∀ descriptor timestamp, .prepared descriptor reservation.mapping timestamp ∈ earlier →
        timestamp + gracePeriodUs ≤ now) ∧
    ∀ number metadata offset index, state.read (some number) = some metadata →
      metadata.refcount = 0 → metadata.uid < uint64Max →
      CancelledSince (historyOn number state.log) →
      state.mutex = some (.reserving offset index number ReserveCall.start) →
      ∀ steps next, Undisturbed number state steps next →
        (steps < attemptLength → ∃ after, step next .advanceHolder = some after) ∧
          (attemptLength ≤ steps → next.Granted number (metadata.uid + 1)) := by
  refine ⟨fun later earlier reservation now logged descriptor timestamp published =>
    reserved_aged reached logged published, ?_⟩
  intro number metadata offset index found unreferenced room cancelled inside steps next run
  have zero := cancelled_unstamped reached found cancelled inside
  have attempts : state.Attempts offset index number metadata 0 := ⟨⟨0, inside⟩, found⟩
  obtain ⟨attempting, granted⟩ := undisturbed_attempt reached attempts unreferenced room zero run
  refine ⟨fun early => ?_, granted⟩
  have current := attempting early
  have ⟨⟨now, still⟩, read⟩ := current
  have within := reachable_within (run.reachable reached) _ _ _ _ still
  obtain ⟨after, moved, -⟩ := attempt_step current unreferenced room zero within early
  exact ⟨after, moved⟩

/-- Publish, wait out the grace period, reserve again, cancel, and start another attempt on the
same block. -/
def publishAndCancel : List Action :=
  initialiseOnce ++ acquireOnce ++ publishOnce 0 ++ [.tick gracePeriodUs] ++ acquireOnce ++
    [.cancel 1, .advanceCancel 1, .advanceCancel 1, .acquireForPublish true, .advanceHolder]

/-- Where the run ends: the third attempt is inside the mutex and has not performed an operation
yet. -/
def attemptedAgain : State :=
  { config := ⟨64, 0⟩
    pool := ⟨1, [⟨0, some 0, 4096, some ⟨Vector.replicate 64 0, [3]⟩, []⟩], 0, 64, 0, 7, true⟩
    initialising := none
    mutex := some (.reserving 0 0 0 ReserveCall.start)
    publishBlocks := [⟨reservationOf 5, .idle false⟩, ⟨reservationOf 6, .idle false⟩]
    objects := [⟨0, ⟨6, 0, 0⟩⟩]
    acquisitions := []
    nextProcessBlockId := 1
    clock := 100001
    log := [.cancelled (reservationOf 6), .decremented (some 0) 6] ++
      .reserved (reservationOf 6) 100001 :: publishedLog }

/-- The second reservation waited out the grace period of the publication; the third attempt,
behind the cancel, does not wait. -/
theorem gracePeriod_attemptedAgain :
    Reachable step (fun _ _ => True) Initial attemptedAgain ∧ 1 + gracePeriodUs ≤ 100001 ∧
      ∃ next, Undisturbed 0 attemptedAgain attemptLength next ∧ next.Granted 0 7 := by
  have executed : run (guarded step (fun _ _ => True)) oneBlock publishAndCancel =
      some attemptedAgain := by decide +kernel
  have reached : Reachable step (fun _ _ => True) Initial attemptedAgain :=
    reachable_run publishAndCancel oneBlock _
      (.start oneBlock ⟨⟨64, 0⟩, 1, 7, 0, 1, by decide, by decide, rfl⟩) executed
  obtain ⟨aged, granted⟩ := gracePeriod_kept reached
  obtain ⟨next, performed⟩ := Option.isSome_iff_exists.mp
    (by decide +kernel : (run step attemptedAgain
      (List.replicate attemptLength .advanceHolder)).isSome = true)
  have run := Undisturbed.alone 0 performed
  refine ⟨reached, ?_, next, run, ?_⟩
  · exact aged _ _ _ _ rfl _ _ (List.mem_cons_self ..)
  · refine (granted 0 ⟨6, 0, 0⟩ 0 0 rfl rfl (by decide) ?_ rfl _ next run).2 (Nat.le_refl _)
    exact ⟨[], reservationOf 6, _, rfl, by simp⟩

end Ros2CudaIpc.GpuBufferManager
