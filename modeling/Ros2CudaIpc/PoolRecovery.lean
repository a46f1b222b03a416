import Ros2CudaIpc.GracePeriod
import Ros2CudaIpc.PoolUtilisation
import Ros2CudaIpc.ReservationReturn

/-!
# Every block comes back, unless it was quarantined

From every state of a run the parties can come to an end by themselves: the call inside
the mutex goes on, an interrupted `prepare_publish` goes on, PublishBlocks are cancelled,
acquires end and BufferRefs are released. No step of it has to wait for good, and none
fails, except that a `prepare_publish` which a reset has overtaken quarantines its
reservation of a block which is no longer there.

Behind it nobody has a block without a quarantined reservation, and behind the grace
period it can be handed to a publisher. A block is lost to quarantine or to the largest
uid, and to nothing else.

Each publisher has a number of operations it is at most away from its end, and no step
makes another one's larger. An acquire's changes with the count of its block, so
subscribers are brought to their ends one behind the other.
-/

namespace Ros2CudaIpc

open BlockProtocol WeightedLists

/-- The operations an attempt may still need, counted from its position to its longest end. -/
def ReserveCall.remaining (call : ReserveCall) : Nat :=
  match call.pc with
  | .sampleClock => 8
  | .loadRefcount => 7
  | .loadTimestamp => 6
  | .claim => 5
  | .loadUid => 4
  | .storeUid _ => 3
  | .storeTimestamp _ => 2
  | .storeRefcount => 1

/-- The operations a commit or cancel may still need, counted from its position to its longest
end. -/
def SettleCall.remaining (call : SettleCall) : Nat :=
  match call.pc with
  | .loadUid => 5
  | .sampleClock => 4
  | .storeTimestamp => 3
  | .fetchSub => 2
  | .storeRefcount => 1

/-- The same of an acquire. An exchange which does not know the count needs one more. -/
def AcquireCall.remaining (metadata : BlockMetadata) (call : AcquireCall) : Nat :=
  match call.pc with
  | .loadUid => 6
  | .loadRefcount => 5
  | .exchange observedRef => if metadata.refcount = observedRef then 3 else 4
  | .recheckUid => 2
  | .rollback => 1

/-- A running attempt needs another operation, at whichever position it is. -/
theorem ReserveCall.remaining_pos (call : ReserveCall) : 0 < call.remaining := by
  unfold ReserveCall.remaining
  split <;> decide

/-- So does a running commit or cancel. -/
theorem SettleCall.remaining_pos (call : SettleCall) : 0 < call.remaining := by
  unfold SettleCall.remaining
  split <;> decide

/-- So does a running acquire, whatever the words of its object are. -/
theorem AcquireCall.remaining_pos (metadata : BlockMetadata) (call : AcquireCall) :
    0 < call.remaining metadata := by
  unfold AcquireCall.remaining
  split
  all_goals first | decide | (split <;> decide)

/-- Every operation of an attempt behind which it goes on brings it closer to its end. -/
theorem ReserveCall.Operation.closer {clock : Nat} {metadata changed : BlockMetadata}
    {call next : ReserveCall}
    (operation : call.Operation clock metadata changed (.running next)) :
    next.remaining < call.remaining := by
  cases operation <;> simp [ReserveCall.remaining]

/-- Every operation of a commit or cancel behind which it goes on brings it closer to its end. -/
theorem SettleCall.Operation.closer {clock : Nat} {metadata changed : BlockMetadata}
    {call next : SettleCall}
    (operation : call.Operation clock metadata changed (.running next)) :
    next.remaining < call.remaining := by
  cases operation <;> simp [SettleCall.remaining]

/-- And so does every step of an acquire which nobody disturbs and whose exchange does not fail
spuriously. -/
theorem AcquireCall.step_closer {metadata : BlockMetadata} {call next : AcquireCall}
    (running : (call.step false metadata).2 = .running next) :
    next.uid = call.uid ∧
      next.remaining (call.step false metadata).1 < call.remaining metadata := by
  have retried {uid observedRef : Nat}
      (again : AcquireCall.retry uid observedRef = .running next) :
      next = ⟨uid, .exchange observedRef⟩ := by
    unfold AcquireCall.retry at again
    split at again
    · cases again
    · exact (Outcome.running.inj again).symm
  obtain ⟨uid, pc⟩ := call
  cases pc with
  | loadUid =>
    simp only [AcquireCall.step] at running ⊢
    split at running
    · cases running
    · obtain rfl := (Outcome.running.inj running).symm
      simp_all [AcquireCall.remaining]
  | loadRefcount =>
    obtain rfl := retried running
    simp [AcquireCall.step, AcquireCall.remaining]
  | exchange observedRef =>
    simp only [AcquireCall.step] at running ⊢
    split at running
    · obtain rfl := (Outcome.running.inj running).symm
      simp_all [AcquireCall.remaining]
    · next stale =>
      obtain rfl := retried running
      have unknown : metadata.refcount ≠ observedRef := by simpa using stale
      simp [AcquireCall.remaining, unknown]
  | recheckUid =>
    simp only [AcquireCall.step] at running ⊢
    split at running
    · obtain rfl := (Outcome.running.inj running).symm
      simp [AcquireCall.remaining]
    · cases running
  | rollback => cases running

namespace GpuBufferManager

open Reachability

/-- The actions by which the parties of a state come to an end. None of them begins
anything but the cancel of a PublishBlock. -/
def Action.Settles : Action → Prop
  | .advanceHolder | .buildDescriptor _ true true | .commit _ true | .cancel _
  | .advanceCancel _ | .advanceAcquisition _ false | .release _ | .tick _ => True
  | _ => False

/-- A state which the parties reach by themselves, with no new reservation, publication or
acquire, and no failing answer on the way. -/
def State.Settled (state next : State) : Prop :=
  Reachable step (fun _ action => action.Settles) (fun origin => origin = state) next

variable {state middle next : State}

/-- A state is a continuation of itself, by no action. -/
theorem State.Settled.refl (state : State) : state.Settled state := .start state rfl

/-- One action which brings a party on is a continuation. -/
theorem State.Settled.one {action : Action} (moved : step state action = some next)
    (settles : action.Settles) : state.Settled next :=
  .step state next action (.start state rfl) settles moved

/-- Continuations follow each other, in the order in which they are taken. -/
theorem State.Settled.trans (first : state.Settled middle) (rest : middle.Settled next) :
    state.Settled next :=
  Reachable.trans first rest

/-- A continuation of a reachable state is reachable, so every invariant holds in it. -/
theorem State.Settled.reachable {admitted : State → Action → Prop}
    (settled : state.Settled next) (reached : Reachable step admitted Initial state) :
    Reachable step (fun _ _ => True) Initial next := by
  have anyhow : ∀ {later}, Reachable step admitted Initial later →
      Reachable step (fun _ _ => True) Initial later := by
    intro later before
    induction before with
    | start origin initial => exact .start origin initial
    | step earlier later action _ _ moved inductionHypothesis =>
      exact .step earlier later action inductionHypothesis trivial moved
  induction settled with
  | start origin same => exact same ▸ anyhow reached
  | step earlier later action _ _ moved inductionHypothesis =>
    exact .step earlier later action inductionHypothesis trivial moved

/-- What a continuation leaves: the pool apart from its cursor, and the log, to which it
adds the failure of a reservation only where the pool has no ready event for it. -/
structure State.Advances (state next : State) : Prop where
  settled : state.Settled next
  pool : ∃ cursor, next.pool = { state.pool with nextBlock := cursor }
  logged : ∃ events, next.log = events ++ state.log ∧ ∀ reservation,
    .prepareFailed reservation ∈ events →
      (state.pool.owned reservation).bind GpuBufferBlock.readyEvent = none

/-- A state advances to itself, with nothing logged. -/
theorem State.Advances.refl (state : State) : state.Advances state :=
  ⟨.refl state, ⟨_, rfl⟩, [], rfl, nofun⟩

/-- Continuations follow each other: the cursor decides about no reservation, so the second one
fails nothing new. -/
theorem State.Advances.trans (first : state.Advances middle) (rest : middle.Advances next) :
    state.Advances next := by
  obtain ⟨cursor, same⟩ := first.pool
  obtain ⟨later, again⟩ := rest.pool
  obtain ⟨events, logged, lost⟩ := first.logged
  obtain ⟨more, added, missed⟩ := rest.logged
  refine ⟨first.settled.trans rest.settled, ⟨later, by rw [again, same]⟩, more ++ events,
    by rw [added, logged, List.append_assoc], fun reservation member => ?_⟩
  rcases List.mem_append.mp member with late | early
  · have unowned := missed reservation late
    rw [same] at unowned
    exact unowned
  · exact lost reservation early

/-- An action which fails nothing. It may move the cursor, and logs no failed reservation. -/
theorem State.Advances.one {action : Action} {events : List Event} {cursor : Nat}
    (moved : step state action = some next) (settles : action.Settles)
    (pool : next.pool = { state.pool with nextBlock := cursor })
    (logged : next.log = events ++ state.log)
    (unfailed : ∀ reservation, .prepareFailed reservation ∉ events) : state.Advances next :=
  ⟨.one moved settles, ⟨cursor, pool⟩, events, logged,
    fun reservation member => absurd member (unfailed reservation)⟩

/-- An action which logs nothing and leaves the pool alone. -/
theorem State.Advances.quiet {action : Action} (moved : step state action = some next)
    (settles : action.Settles) (pool : next.pool = state.pool)
    (logged : next.log = state.log) : state.Advances next :=
  ⟨.one moved settles, ⟨state.pool.nextBlock, pool⟩, [], logged, nofun⟩

/-- An action which fails a reservation the pool has no ready event for, and which changes nothing
else of the pool. -/
theorem State.Advances.failed {action : Action} {reservation : BlockReservation}
    (moved : step state action = some next) (settles : action.Settles)
    (pool : next.pool = state.pool) (logged : next.log = .prepareFailed reservation :: state.log)
    (lost : (state.pool.owned reservation).bind GpuBufferBlock.readyEvent = none) :
    state.Advances next := by
  refine ⟨.one moved settles, ⟨state.pool.nextBlock, pool⟩, [.prepareFailed reservation], logged,
    fun other member => ?_⟩
  obtain rfl : other = reservation := by simpa using member
  exact lost

/-- A decrement is no failure of a reservation. -/
theorem decrements_unfailed (mapping : Option Nat) (call : SettleCall)
    (reservation : BlockReservation) : .prepareFailed reservation ∉ decrements mapping call := by
  unfold decrements
  split <;> simp

/-- Nothing but a missing ready event keeps `try_build_descriptor` from building, when the lock
and the copy succeed. -/
theorem unbuilt {pool : GpuBufferPool} {reservation : BlockReservation}
    (refused : pool.tryBuildDescriptor true reservation true = none) :
    (pool.owned reservation).bind GpuBufferBlock.readyEvent = none := by
  simp only [GpuBufferPool.tryBuildDescriptor, Bool.true_eq_false, if_false] at refused
  split at refused
  · next unowned => rw [unowned, Option.bind_none]
  · next block owned =>
    split at refused
    · next missing => rw [owned, Option.bind_some, missing]
    · cases refused

/-- What a PublishBlock needs at most to give its reservation back, from its stage on. -/
def Stage.remaining : Stage → Nat
  | .recorded => 8
  | .described _ => 7
  | .idle true => 6
  | .cancelling call _ => call.remaining
  | .idle false | .committing | .assigning _ | .destroyed => 0

/-- What the call inside the mutex needs at most, in a pool of so many blocks. A scan may
still leave a reservation. -/
def Holder.remaining (count : Nat) : Holder → Nat
  | .scanning offset => (count - offset) * 10 + 7
  | .reserving offset _ _ call => (count - offset - 1) * 10 + 7 + call.remaining
  | .committing _ _ _ call => call.remaining

/-- What all publishers need: the call inside the mutex, and each PublishBlock. -/
def State.unsettled (state : State) : Nat :=
  total (Holder.remaining state.pool.blocks.length) state.mutex.toList +
    total (fun block => block.stage.remaining) state.publishBlocks

/-- The publishers can come a step closer to their end, without the subscribers taking part. -/
def State.Progresses (state : State) : Prop :=
  ∃ next, state.Advances next ∧ next.unsettled < state.unsettled ∧
    next.acquisitions = state.acquisitions

/-- A cancelled PublishBlock needs nothing more, whatever it goes on with. -/
@[simp] theorem AfterCancel.stage_remaining (after : AfterCancel) : after.stage.remaining = 0 := by
  cases after <;> rfl

/-- A created object is read through its number. -/
theorem read_known {mapping : Nat} (known : mapping < state.blockIds.length) :
    ∃ metadata, state.read (some mapping) = some metadata := by
  rw [State.blockIds, List.length_map] at known
  exact ⟨state.objects[mapping].metadata, by simp [State.read, known]⟩

/-- A scan goes on: it visits the next block, or leaves without a reservation behind the last one.
-/
theorem scanning_goes {offset : Nat} (inside : state.mutex = some (.scanning offset)) :
    state.Progresses := by
  have moved : step state .advanceHolder = state.advanceHolder (.scanning offset) := by
    simp [step, inside]
  simp only [State.advanceHolder] at moved
  split at moved
  · next within =>
    split at moved
    · refine ⟨_, .quiet moved trivial rfl rfl, ?_, rfl⟩
      simp only [State.unsettled, inside, Option.toList_some, total_cons, total_nil,
        Holder.remaining]
      omega
    · refine ⟨_, .quiet moved trivial rfl rfl, ?_, rfl⟩
      simp only [State.unsettled, inside, Option.toList_some, total_cons, total_nil,
        Holder.remaining, ReserveCall.remaining, ReserveCall.start]
      omega
  · refine ⟨_, .quiet moved trivial rfl rfl, ?_, rfl⟩
    simp only [State.unsettled, inside, Option.toList_some, Option.toList_none, total_cons,
      total_nil, Holder.remaining]
    omega

/-- So does an attempt: the block it is on stands in the pool, and its object was created. -/
theorem reserving_goes (reached : Reachable step (fun _ _ => True) Initial state)
    {offset index mapping : Nat} {call : ReserveCall}
    (inside : state.mutex = some (.reserving offset index mapping call)) : state.Progresses := by
  have known : mapping < state.blockIds.length := (reachable_formed reached).holder _ inside
  obtain ⟨metadata, found⟩ := read_known known
  have within := reachable_within reached offset index mapping call inside
  have moved : step state .advanceHolder =
      state.advanceHolder (.reserving offset index mapping call) := by
    simp [step, inside]
  simp only [State.advanceHolder, found, Option.bind_some] at moved
  have operation := call.step_operation state.clock metadata
  generalize call.step state.clock metadata = result at operation moved
  obtain ⟨changed, outcome⟩ := result
  cases outcome with
  | running following =>
    refine ⟨_, .quiet moved trivial rfl rfl, ?_, rfl⟩
    have closer := operation.closer
    simp only [State.unsettled, inside, Option.toList_some, total_cons, total_nil,
      Holder.remaining, State.write]
    omega
  | returned reserved =>
    cases reserved with
    | none =>
      refine ⟨_, .quiet moved trivial rfl rfl, ?_, rfl⟩
      have positive := call.remaining_pos
      simp only [State.unsettled, inside, Option.toList_some, total_cons, total_nil,
        Holder.remaining, State.write]
      omega
    | some uid =>
      have stands : (state.write (some mapping) changed).pool.resources index =
          some state.pool.blocks[index] := List.getElem?_eq_getElem within
      simp only [State.grant, stands, Option.map_some] at moved
      refine ⟨_, .one moved trivial rfl (List.singleton_append ..).symm (by simp), ?_, rfl⟩
      simp only [State.unsettled, inside, Option.toList_some, Option.toList_none, total_cons,
        total_nil, total_append, Holder.remaining, Stage.remaining, State.write]
      omega

/-- So does a commit, which nothing refuses, because its uid is the current one and its count is
not zero. -/
theorem committing_goes (reached : Reachable step (fun _ _ => True) Initial state)
    {index : Nat} {reservation : BlockReservation} {descriptor : BufferDescriptor}
    {call : SettleCall}
    (inside : state.mutex = some (.committing index reservation descriptor call)) :
    state.Progresses := by
  have formed := reachable_formed reached
  obtain ⟨⟨-, mapping, mapped, known⟩, -⟩ :
      descriptor.Describes state.blockIds reservation ∧ call.Commits reservation.uid :=
    formed.holder _ inside
  have linked := formed.linked _ _ _ _ inside
  obtain ⟨metadata, found⟩ := read_known (List.getElem?_eq_some_iff.mp known).1
  have viewed := reachable_views reached mapping metadata found
  have member : .settle call ∈ callsOn mapping state.mutex state.publishBlocks state.acquisitions :=
    Holder.callsOn_mem inside (by simp [Holder.callsOn, mapped])
  have moved : step state .advanceHolder =
      state.advanceHolder (.committing index reservation descriptor call) := by
    simp [step, inside]
  simp only [State.advanceHolder, mapped, found, Option.map_some] at moved
  have operation := call.step_operation state.clock metadata
  generalize call.step state.clock metadata = result at operation moved
  obtain ⟨changed, outcome⟩ := result
  cases outcome with
  | running following =>
    refine ⟨_, .one moved trivial rfl rfl (decrements_unfailed _ call), ?_, rfl⟩
    have closer := operation.closer
    simp only [State.unsettled, inside, Option.toList_some, total_cons, total_nil,
      Holder.remaining, State.settle, State.write]
    omega
  | returned released =>
    obtain ⟨rfl, -⟩ := viewed.settle_released member operation
    refine ⟨_, .one moved trivial rfl (List.cons_append ..).symm
      (by simp [decrements_unfailed]), ?_, rfl⟩
    have replaced := total_set (fun block : PublishBlock => block.stage.remaining) _ index _
      ⟨reservation, .idle false⟩ linked
    have positive := call.remaining_pos
    simp only [State.unsettled, inside, Option.toList_some, Option.toList_none, total_cons,
      total_nil, Holder.remaining, State.settle, State.write, State.put, State.note,
      Stage.remaining] at replaced ⊢
    omega

/-- The call inside the mutex goes on, whichever it is. -/
theorem holder_goes (reached : Reachable step (fun _ _ => True) Initial state) {holder : Holder}
    (inside : state.mutex = some holder) : state.Progresses := by
  cases holder with
  | scanning offset => exact scanning_goes inside
  | reserving offset index mapping call => exact reserving_goes reached inside
  | committing index reservation descriptor call => exact committing_goes reached inside

/-- What a PublishBlock which is replaced leaves to be done is less than before, if its new stage
needs less. -/
theorem unsettled_put {index : Nat} {old block : PublishBlock}
    (found : state.publishBlocks[index]? = some old)
    (fewer : block.stage.remaining < old.stage.remaining) :
    (state.put index block).unsettled < state.unsettled := by
  have replaced := total_set (fun block : PublishBlock => block.stage.remaining) _ index old block
    found
  simp only [State.unsettled, State.put]
  omega

/-- A reservation is cancelled by its PublishBlock, which the mutex does not keep from it. -/
theorem reserved_goes (formed : state.Formed) {index : Nat} {reservation : BlockReservation}
    (found : state.publishBlocks[index]? = some ⟨reservation, .idle true⟩) :
    state.Progresses := by
  have fits := formed.blocks _ (List.mem_of_getElem? found)
  have own : reservation.publisherPid = state.pool.publisherPid ∧ reservation.mapping ≠ none :=
    ⟨fits.pid, fits.staged.mapped rfl⟩
  have moved : step state (.cancel index) = some (state.put index
      ⟨reservation, .cancelling (SettleCall.cancelPublish reservation.uid) .idle⟩) := by
    simp [step, found, State.beginCancel, own]
  have fewer : (Stage.cancelling (SettleCall.cancelPublish reservation.uid) .idle).remaining <
      (Stage.idle true).remaining := by
    simp [Stage.remaining, SettleCall.remaining, SettleCall.cancelPublish]
  exact ⟨_, .quiet moved trivial rfl rfl, unsettled_put found fewer, rfl⟩

/-- A `prepare_publish` behind its ready record builds the descriptor, or finds that the
pool lost the ready event. -/
theorem recorded_goes (free : state.mutex = none) {index : Nat} {reservation : BlockReservation}
    (found : state.publishBlocks[index]? = some ⟨reservation, .recorded⟩) : state.Progresses := by
  have moved : step state (.buildDescriptor index true true) =
      state.buildDescriptor index true true ⟨reservation, .recorded⟩ := by
    simp [step, found]
  simp only [State.buildDescriptor, free, Option.isSome_none, Bool.false_eq_true, and_false,
    if_false] at moved
  cases built : state.pool.tryBuildDescriptor true reservation true with
  | none =>
    rw [built] at moved
    exact ⟨_, .failed moved trivial rfl rfl (unbuilt built),
      unsettled_put found (by simp [Stage.remaining]), rfl⟩
  | some descriptor =>
    rw [built] at moved
    exact ⟨_, .quiet moved trivial rfl rfl, unsettled_put found (by simp [Stage.remaining]), rfl⟩

/-- One with a descriptor commits, or finds that the pool lost the block, once the mutex is free. -/
theorem described_goes (free : state.mutex = none) {index : Nat} {reservation : BlockReservation}
    {descriptor : BufferDescriptor}
    (found : state.publishBlocks[index]? = some ⟨reservation, .described descriptor⟩) :
    state.Progresses := by
  have moved : step state (.commit index true) =
      state.commit index true ⟨reservation, .described descriptor⟩ := by
    simp [step, found]
  simp only [State.commit, free, Option.isSome_none, Bool.false_eq_true, Bool.true_eq_false,
    if_false] at moved
  cases owned : state.pool.owns reservation with
  | false =>
    rw [owned, if_pos rfl] at moved
    have lost : (state.pool.owned reservation).bind GpuBufferBlock.readyEvent = none := by
      simp [GpuBufferPool.owned, owned]
    exact ⟨_, .failed moved trivial rfl rfl lost, unsettled_put found (by simp [Stage.remaining]),
      rfl⟩
  | true =>
    rw [owned, if_neg (by decide)] at moved
    refine ⟨_, .quiet moved trivial rfl rfl, ?_, rfl⟩
    have replaced := total_set (fun block : PublishBlock => block.stage.remaining) _ index _
      ⟨reservation, .committing⟩ found
    simp only [State.unsettled, free, Option.toList_some, Option.toList_none, total_cons,
      total_nil, Holder.remaining, State.put, Stage.remaining, SettleCall.remaining,
      SettleCall.commitPublish] at replaced ⊢
    omega

/-- A cancel goes on, and nothing refuses it, because its uid is the current one and its count is
not zero. -/
theorem cancelling_goes (reached : Reachable step (fun _ _ => True) Initial state) {index : Nat}
    {reservation : BlockReservation} {call : SettleCall} {after : AfterCancel}
    (found : state.publishBlocks[index]? = some ⟨reservation, .cancelling call after⟩) :
    state.Progresses := by
  have fits := (reachable_formed reached).blocks _ (List.mem_of_getElem? found)
  obtain ⟨mapping, mapped⟩ : ∃ mapping, reservation.mapping = some mapping :=
    Option.ne_none_iff_exists'.mp fits.staged.1
  obtain ⟨metadata, read⟩ := read_known (fits.known mapping mapped)
  have viewed := reachable_views reached mapping metadata read
  have member : .settle call ∈ callsOn mapping state.mutex state.publishBlocks state.acquisitions :=
    PublishBlock.callsOn_mem found (by simp [PublishBlock.callsOn, mapped])
  have moved : step state (.advanceCancel index) =
      state.advanceCancel index ⟨reservation, .cancelling call after⟩ := by
    simp [step, found]
  simp only [State.advanceCancel, mapped, read, Option.map_some] at moved
  have operation := call.step_operation state.clock metadata
  generalize call.step state.clock metadata = result at operation moved
  obtain ⟨changed, outcome⟩ := result
  cases outcome with
  | running following =>
    have fewer : (Stage.cancelling following after).remaining <
        (Stage.cancelling call after).remaining := operation.closer
    exact ⟨_, .one moved trivial rfl rfl (decrements_unfailed _ call), unsettled_put found fewer,
      rfl⟩
  | returned released =>
    obtain ⟨rfl, -⟩ := viewed.settle_released member operation
    have fewer : after.stage.remaining < (Stage.cancelling call after).remaining := by
      rw [after.stage_remaining]
      exact call.remaining_pos
    exact ⟨_, .one moved trivial rfl (List.cons_append ..).symm (by simp [decrements_unfailed]),
      unsettled_put found fewer, rfl⟩

/-- While the mutex is free, a PublishBlock with something left to do goes on. -/
theorem publishBlock_goes (reached : Reachable step (fun _ _ => True) Initial state)
    (free : state.mutex = none) {index : Nat} {reservation : BlockReservation} {stage : Stage}
    (found : state.publishBlocks[index]? = some ⟨reservation, stage⟩) (left : 0 < stage.remaining) :
    state.Progresses := by
  cases stage with
  | idle owner =>
    cases owner with
    | false => simp [Stage.remaining] at left
    | true => exact reserved_goes (reachable_formed reached) found
  | recorded => exact recorded_goes free found
  | described descriptor => exact described_goes free found
  | cancelling call after => exact cancelling_goes reached found
  | committing | assigning source | destroyed => simp [Stage.remaining] at left

/-- From every reachable state the publishers can come to their end. By induction on what they
need. -/
theorem publishers_settle (state : State)
    (reached : Reachable step (fun _ _ => True) Initial state) :
    ∃ next, state.Advances next ∧ next.unsettled = 0 ∧ next.acquisitions = state.acquisitions := by
  generalize measure : state.unsettled = left
  induction left using Nat.strong_induction_on generalizing state with
  | _ left inductionHypothesis =>
    rcases Nat.eq_zero_or_pos left with rfl | positive
    · exact ⟨state, .refl state, measure, rfl⟩
    · obtain ⟨middle, first, fewer, same⟩ : state.Progresses := by
        cases inside : state.mutex with
        | some holder => exact holder_goes reached inside
        | none =>
          obtain ⟨block, member, busy⟩ :
              ∃ block ∈ state.publishBlocks, 0 < block.stage.remaining := by
            by_contra none
            push Not at none
            have idle := total_eq_zero (fun block : PublishBlock => block.stage.remaining)
              state.publishBlocks fun block member => Nat.le_zero.mp (none block member)
            simp only [State.unsettled, inside, Option.toList_none, total_nil, idle] at measure
            omega
          obtain ⟨index, found⟩ := List.getElem?_of_mem member
          exact publishBlock_goes reached inside found busy
      obtain ⟨next, rest, settled, kept⟩ :=
        inductionHypothesis _ (measure ▸ fewer) middle (first.settled.reachable reached) rfl
      exact ⟨next, first.trans rest, settled, kept.trans same⟩

/-- An acquire and its BufferRef are through: it was refused, or its reference was released. -/
def Acquisition.Finished (acquisition : Acquisition) : Prop :=
  acquisition.phase = .refused ∨ acquisition.phase = .released

instance (acquisition : Acquisition) : Decidable acquisition.Finished :=
  inferInstanceAs (Decidable (_ ∨ _))

/-- What a subscriber needs at most, if nobody disturbs it, given the words of its object. -/
def Acquisition.remaining (metadata : BlockMetadata) (acquisition : Acquisition) : Nat :=
  match acquisition.phase with
  | .acquiring pc => AcquireCall.remaining metadata ⟨acquisition.uid, pc⟩ + 2
  | .holding => 2
  | .underflowed => 1
  | .refused | .released => 0

/-- What the subscribers change: the words of objects, and themselves. The publishers stay where
they are. -/
structure State.Reads (state next : State) : Prop where
  settled : state.Settled next
  pool : next.pool = state.pool
  mutex : next.mutex = state.mutex
  publishBlocks : next.publishBlocks = state.publishBlocks
  log : next.log = state.log

/-- What subscribers change one behind the other is still only theirs. -/
theorem State.Reads.trans (first : state.Reads middle) (rest : middle.Reads next) :
    state.Reads next :=
  ⟨first.settled.trans rest.settled, rest.pool.trans first.pool, rest.mutex.trans first.mutex,
    rest.publishBlocks.trans first.publishBlocks, rest.log.trans first.log⟩

/-- An acquire or BufferRef which is not through goes on, and is closer to its end. -/
theorem acquisition_goes {number : Nat} {acquisition : Acquisition} {metadata : BlockMetadata}
    (found : state.acquisitions[number]? = some acquisition)
    (read : state.read (some acquisition.mapping) = some metadata)
    (unfinished : ¬ acquisition.Finished) :
    ∃ next changed words, state.Reads next ∧
      next.acquisitions = state.acquisitions.set number changed ∧
      next.read (some changed.mapping) = some words ∧
      changed.remaining words < acquisition.remaining metadata := by
  obtain ⟨mapping, uid, phase⟩ := acquisition
  cases phase with
  | acquiring pc =>
    have moved : step state (.advanceAcquisition number false) =
        state.advanceAcquisition number false ⟨mapping, uid, .acquiring pc⟩ := by
      simp [step, found]
    simp only [State.advanceAcquisition, read, Option.map_some] at moved
    have closer := @AcquireCall.step_closer metadata ⟨uid, pc⟩
    generalize AcquireCall.step false metadata ⟨uid, pc⟩ = result at closer moved
    obtain ⟨words, outcome⟩ := result
    refine ⟨_, _, words, ⟨.one moved trivial, rfl, rfl, rfl, rfl⟩, rfl, read_written read words, ?_⟩
    cases outcome with
    | running following =>
      obtain ⟨same, fewer⟩ := closer rfl
      obtain ⟨other, position⟩ := following
      obtain rfl : other = uid := same
      simpa [Acquisition.remaining] using fewer
    | returned valid =>
      cases valid <;> simp [Acquisition.remaining, AcquireCall.remaining_pos]
  | holding =>
    have moved : step state (.release number) = state.release number ⟨mapping, uid, .holding⟩ := by
      simp [step, found]
    simp only [State.release, read, Option.map_some] at moved
    refine ⟨_, _, metadata.fetchSub, ⟨.one moved trivial, rfl, rfl, rfl, rfl⟩, rfl,
      read_written read _, ?_⟩
    split <;> simp [Acquisition.remaining]
  | underflowed =>
    have moved : step state (.advanceAcquisition number false) =
        state.advanceAcquisition number false ⟨mapping, uid, .underflowed⟩ := by
      simp [step, found]
    simp only [State.advanceAcquisition, read, Option.map_some] at moved
    exact ⟨_, _, _, ⟨.one moved trivial, rfl, rfl, rfl, rfl⟩, rfl, read_written read _,
      by simp [Acquisition.remaining]⟩
  | refused | released => simp [Acquisition.Finished] at unfinished

/-- So it comes to its end, and the others stay where they are. By induction on what it needs. -/
theorem acquisition_settles (state : State) {number : Nat} (acquisition : Acquisition)
    (metadata : BlockMetadata) (found : state.acquisitions[number]? = some acquisition)
    (read : state.read (some acquisition.mapping) = some metadata) :
    ∃ next last, state.Reads next ∧ last.Finished ∧
      next.acquisitions = state.acquisitions.set number last := by
  generalize measure : acquisition.remaining metadata = left
  induction left using Nat.strong_induction_on generalizing state acquisition metadata with
  | _ left inductionHypothesis =>
    by_cases finished : acquisition.Finished
    · have inside := (List.getElem?_eq_some_iff.mp found).2
      refine ⟨state, acquisition, ⟨.refl state, rfl, rfl, rfl, rfl⟩, finished, ?_⟩
      rw [← inside, List.set_getElem_self]
    · obtain ⟨middle, changed, words, first, replaced, reads, fewer⟩ :=
        acquisition_goes found read finished
      have stands : middle.acquisitions[number]? = some changed := by
        rw [replaced, List.getElem?_set_self (List.getElem?_eq_some_iff.mp found).1]
      obtain ⟨next, last, rest, ended, again⟩ :=
        inductionHypothesis _ (measure ▸ fewer) middle changed words stands reads rfl
      exact ⟨next, last, first.trans rest, ended, by rw [again, replaced, List.set_set]⟩

/-- All of them come to their ends, one behind the other. By induction on how many are not
through. -/
theorem subscribers_settle (state : State)
    (reached : Reachable step (fun _ _ => True) Initial state) :
    ∃ next, state.Reads next ∧ ∀ acquisition ∈ next.acquisitions, acquisition.Finished := by
  generalize measure : state.acquisitions.countP (fun acquisition => ¬ acquisition.Finished) = left
  induction left using Nat.strong_induction_on generalizing state with
  | _ left inductionHypothesis =>
    by_cases finished : ∀ acquisition ∈ state.acquisitions, acquisition.Finished
    · exact ⟨state, ⟨.refl state, rfl, rfl, rfl, rfl⟩, finished⟩
    · push Not at finished
      obtain ⟨acquisition, member, running⟩ := finished
      obtain ⟨number, found⟩ := List.getElem?_of_mem member
      obtain ⟨metadata, read⟩ :=
        read_known ((reachable_formed reached).acquisitions acquisition member)
      obtain ⟨middle, last, first, ended, replaced⟩ :=
        acquisition_settles state acquisition metadata found read
      have fewer :
          middle.acquisitions.countP (fun acquisition => ¬ acquisition.Finished) < left := by
        obtain ⟨before, after, split, -, others⟩ := focus _ number acquisition found
        rw [replaced, others]
        rw [split] at measure
        simp only [List.countP_append, List.countP_cons, ended, running] at measure ⊢
        simp only [not_true_eq_false, decide_false, Bool.false_eq_true, if_false, not_false_eq_true,
          decide_true, if_true] at measure ⊢
        omega
      obtain ⟨next, rest, done⟩ :=
        inductionHypothesis _ fewer middle (first.settled.reachable reached) rfl
      exact ⟨next, first.trans rest, done⟩

/-- A timestamp an operation leaves is zero, the old one, or the sampled clock. -/
theorem settle_timestamp {clock : Nat} {metadata changed : BlockMetadata} {call : SettleCall}
    {outcome : Outcome SettleCall Bool}
    (operation : call.Operation clock metadata changed outcome) :
    changed.publishTimestampUs = metadata.publishTimestampUs ∨
      call.pc = .storeTimestamp ∧ changed.publishTimestampUs = call.now := by
  cases operation <;> simp [BlockMetadata.fetchSub]

/-- No object and no commit has a timestamp which is still to come, so waiting lets every block
age. -/
structure State.Past (state : State) : Prop where
  stored : ∀ number metadata, state.read (some number) = some metadata →
    metadata.publishTimestampUs ≤ state.clock
  sampled : ∀ index reservation descriptor call,
    state.mutex = some (.committing index reservation descriptor call) → call.now ≤ state.clock

/-- Writing words with a past timestamp keeps every object's timestamp past. -/
theorem State.Past.written (past : state.Past) (mapping : Option Nat) {changed : BlockMetadata}
    (before : changed.publishTimestampUs ≤ state.clock) (number : Nat) (metadata : BlockMetadata)
    (found : (state.write mapping changed).read (some number) = some metadata) :
    metadata.publishTimestampUs ≤ state.clock := by
  rw [read_write] at found
  split at found
  · obtain ⟨old, -, rfl⟩ := Option.map_eq_some_iff.mp found
    exact before
  · exact past.stored number metadata found

/-- Every action keeps the timestamps past: a commit stores the clock it has sampled. -/
theorem past_transition (formed : state.Formed) (past : state.Past)
    (transition : Transition state next) : next.Past := by
  cases transition with
  | environment clock counter later more =>
    exact ⟨fun number metadata found => Nat.le_trans (past.stored number metadata found) later,
      fun _ _ _ _ inside => Nat.le_trans (past.sampled _ _ _ _ inside) later⟩
  | created index blockId value running =>
    refine ⟨fun number metadata found => ?_, past.sampled⟩
    simp only [State.read, Option.bind_some, List.getElem?_append] at found
    split at found
    · exact past.stored number metadata found
    · obtain ⟨object, stands, rfl⟩ := Option.map_eq_some_iff.mp found
      obtain rfl := List.mem_singleton.mp (List.mem_of_getElem? stands)
      exact Nat.zero_le _
  | scanned mutex outside goes =>
    refine ⟨past.stored, fun index reservation descriptor call inside => ?_⟩
    rcases goes with rfl | ⟨offset, rfl⟩ <;> cases inside
  | visited => exact ⟨past.stored, fun _ _ _ _ inside => by cases inside⟩
  | reserving offset index mapping call following metadata changed inside found operation
  | passed offset index mapping call metadata changed inside found operation
  | reserved offset index mapping uid call metadata changed block inside found operation =>
    have old := past.stored mapping metadata found
    refine ⟨past.written (some mapping) ?_, fun _ _ _ _ inside => by cases inside⟩
    cases operation <;> first | exact old | exact Nat.zero_le _
  | commitBegun index reservation descriptor found free owned =>
    refine ⟨past.stored, ?_⟩
    rintro _ _ _ _ ⟨⟩
    exact Nat.zero_le _
  | committing index reservation descriptor call following metadata changed inside found
      operation =>
    have old : metadata.publishTimestampUs ≤ state.clock := by
      obtain ⟨⟨-, mapping, mapped, -⟩, -⟩ := formed.holder _ inside
      exact past.stored mapping metadata (mapped ▸ found)
    have sampled := past.sampled _ _ _ _ inside
    refine ⟨past.written reservation.mapping ?_, ?_⟩
    · rcases settle_timestamp operation with same | ⟨-, same⟩ <;> omega
    · rintro _ _ _ _ ⟨⟩
      cases operation <;> first | exact sampled | exact Nat.le_refl _
  | committed index reservation descriptor call metadata changed released inside found operation =>
    have old : metadata.publishTimestampUs ≤ state.clock := by
      obtain ⟨⟨-, mapping, mapped, -⟩, -⟩ := formed.holder _ inside
      exact past.stored mapping metadata (mapped ▸ found)
    have sampled := past.sampled _ _ _ _ inside
    refine ⟨past.written reservation.mapping ?_, fun _ _ _ _ inside => by cases inside⟩
    rcases settle_timestamp operation with same | ⟨-, same⟩ <;> omega
  | cancelling index reservation after call following metadata changed block found operation
  | cancelled index reservation after call metadata changed released block found operation =>
    obtain ⟨named, cancels⟩ := (formed.blocks _ (List.mem_of_getElem? block)).staged
    obtain ⟨mapping, mapped⟩ : ∃ mapping, reservation.mapping = some mapping :=
      Option.ne_none_iff_exists'.mp named
    have old := past.stored mapping metadata (mapped ▸ found)
    refine ⟨past.written reservation.mapping ?_, past.sampled⟩
    rcases settle_timestamp operation with same | ⟨stamps, -⟩
    · omega
    · exact absurd stamps cancels.2.2.2
  | acquiring number mapping call following metadata changed running found operation
  | acquired number mapping call metadata changed valid running found operation =>
    have old := past.stored mapping metadata found
    exact ⟨past.written (some mapping) (operation.count.2 ▸ old), past.sampled⟩
  | zeroed number mapping uid metadata running found
  | released number mapping uid metadata running found =>
    have old := past.stored mapping metadata found
    exact ⟨past.written (some mapping) old, past.sampled⟩
  | _ => exact ⟨past.stored, past.sampled⟩

/-- The timestamps are past in every run. By induction on the run, with the references beside it. -/
theorem reachable_past {admitted : State → Action → Prop}
    (reached : Reachable step admitted Initial state) : state.Past := by
  refine Reachable.invariant (?_ : ∀ start, Initial start → start.Past) ?_ reached
  · rintro start ⟨config, blockCount, publisherPid, nextBlockId, clock, -, -, rfl⟩
    exact ⟨by simp [State.read], fun _ _ _ _ inside => by cases inside⟩
  · intro earlier later action before past _ moved
    exact past_transition (reachable_formed before) past (step_transition moved)

/-- What subscribers change is an advance: they fail no reservation and touch no pool. -/
theorem State.Reads.advances (reads : state.Reads next) : state.Advances next :=
  ⟨reads.settled, ⟨state.pool.nextBlock, reads.pool⟩, [], reads.log, nofun⟩

/-- Publishers with nothing left to do are outside the mutex, without a reservation and
without a running cancel. -/
theorem settled_publishers (settled : state.unsettled = 0) :
    state.mutex = none ∧ ∀ block ∈ state.publishBlocks, block.stage.remaining = 0 := by
  obtain ⟨inside, blocks⟩ := Nat.add_eq_zero_iff.mp settled
  constructor
  · cases running : state.mutex with
    | none => rfl
    | some holder =>
      rw [running] at inside
      cases holder with
      | scanning | reserving => simp [Holder.remaining] at inside
      | committing index reservation descriptor call =>
        have positive := call.remaining_pos
        simp only [Option.toList_some, total_cons, total_nil, Holder.remaining] at inside
        omega
  · intro block member
    exact Nat.le_zero.mp (blocks ▸ weight_le_total
      (fun block : PublishBlock => block.stage.remaining) _ block member)

/-- A PublishBlock which needs nothing more has no reservation and no running cancel. -/
theorem Stage.remaining_zero {stage : Stage} (idle : stage.remaining = 0) :
    stage.reserved = false ∧ ∀ call after, stage ≠ .cancelling call after := by
  cases stage with
  | idle owner => cases owner <;> simp_all [Stage.remaining, Stage.reserved]
  | recorded | described => simp [Stage.remaining] at idle
  | cancelling call after => exact absurd idle (Nat.ne_of_gt call.remaining_pos)
  | committing | assigning source | destroyed => exact ⟨rfl, fun _ _ same => by cases same⟩

/-- A subscriber which is through has no call and no BufferRef on any object. -/
theorem Acquisition.Finished.vacant {acquisition : Acquisition} (finished : acquisition.Finished)
    (number : Nat) : acquisition.callsOn number = [] ∧ acquisition.refsOn number = [] := by
  rcases finished with refused | released
  · simp [Acquisition.callsOn, Acquisition.refsOn, refused]
  · simp [Acquisition.callsOn, Acquisition.refsOn, released]

/-- An object of which no reservation was quarantined has nobody left there, once publishers and
subscribers are through. -/
theorem settled_unused (reached : Reachable step (fun _ _ => True) Initial state)
    (settled : state.unsettled = 0)
    (finished : ∀ acquisition ∈ state.acquisitions, acquisition.Finished) {number : Nat}
    (kept : ∀ reservation, .prepareFailed reservation ∈ state.log →
      reservation.mapping ≠ some number) : state.Unused number := by
  obtain ⟨free, blocks⟩ := settled_publishers settled
  refine ⟨?_, ?_, ?_⟩
  · refine List.append_eq_nil_iff.mpr ⟨List.flatMap_eq_nil_iff.mpr fun block member => ?_,
      List.flatMap_eq_nil_iff.mpr fun event member => ?_⟩
    · exact reservationsOn_vacant (Stage.remaining_zero (blocks block member)).1
    · cases event with
      | prepareFailed reservation => exact if_neg (kept reservation member)
      | cancelFailed reservation =>
        exact absurd member ((reachable_givesBack reached).uncancelled reservation)
      | _ => rfl
  · rw [free]
    intro call member
    rcases List.mem_append.mp member with inside | outside
    · simp at inside
    rcases List.mem_append.mp outside with cancels | acquires
    · obtain ⟨block, present, running⟩ := List.mem_flatMap.mp cancels
      have idle := (Stage.remaining_zero (blocks block present)).2
      cases position : block.stage with
      | cancelling call after => exact absurd position (idle call after)
      | _ => simp [PublishBlock.callsOn, position] at running
    · obtain ⟨acquisition, present, running⟩ := List.mem_flatMap.mp acquires
      rw [((finished acquisition present).vacant number).1] at running
      cases running
  · exact List.flatMap_eq_nil_iff.mpr fun acquisition member =>
      ((finished acquisition member).vacant number).2

/-- Every block comes back. From every reachable state the parties can go on by themselves
until no call is left inside the mutex, in a PublishBlock or in an acquire, no PublishBlock
has a reservation and every BufferRef is released. No reservation is quarantined on the way
unless the pool has lost it or its ready event. Behind the grace period each block of the
pool can then be handed to a publisher, unless a reservation of it was quarantined or its
uid is the largest one.

A running `initialise` stays where it is, and so does the second half of a move assignment:
neither has a reference to a block, and the blocks meant are those the pool has. -/
theorem blocks_recovered (reached : Reachable step (fun _ _ => True) Initial state) :
    ∃ next, state.Advances next ∧ next.mutex = none ∧
      (∀ block ∈ next.publishBlocks, block.stage.reserved = false ∧ ∀ call after,
        block.stage ≠ .cancelling call after) ∧
      (∀ acquisition ∈ next.acquisitions, acquisition.Finished) ∧
      ∀ index block mapping metadata, state.pool.resources index = some block →
        block.sharedMetadata = some mapping → next.read (some mapping) = some metadata →
        metadata.uid ≠ uint64Max →
        (∀ reservation, .prepareFailed reservation ∈ next.log →
          reservation.mapping ≠ some mapping) →
          next.Available index := by
  obtain ⟨quiet, settles, settled, -⟩ := publishers_settle state reached
  obtain ⟨still, reads, finished⟩ := subscribers_settle quiet (settles.settled.reachable reached)
  have unsettled : still.unsettled = 0 := by
    rw [State.unsettled, reads.pool, reads.mutex, reads.publishBlocks]
    exact settled
  have waits : step still (.tick gracePeriodUs) =
      some { still with clock := still.clock + gracePeriodUs } := rfl
  have ticked : still.Advances { still with clock := still.clock + gracePeriodUs } :=
    .quiet waits trivial rfl rfl
  have advances := (settles.trans reads.advances).trans ticked
  have reachedStill := (settles.trans reads.advances).settled.reachable reached
  obtain ⟨free, blocks⟩ := settled_publishers unsettled
  refine ⟨_, advances, free, fun block member => Stage.remaining_zero (blocks block member),
    finished, ?_⟩
  · intro index block mapping metadata stands shared read room kept
    obtain ⟨cursor, same⟩ := advances.pool
    have unused := settled_unused (advances.settled.reachable reached) unsettled finished kept
    refine ⟨block, mapping, metadata, ?_, shared, read, unused, room, .inr ?_⟩
    · rw [same]
      exact stands
    · have past := (reachable_past reachedStill).stored mapping metadata read
      exact Nat.add_le_add_right past _

/-- A publication is read by one subscriber while a second one is about to acquire it. -/
def readByTwo : List Action :=
  initialiseOnce ++ acquireOnce ++ publishOnce 0 ++ [.acquire 0 5] ++
    List.replicate 4 (.advanceAcquisition 0 false) ++ [.acquire 0 5, .advanceAcquisition 1 false]

/-- All of them come to their ends, and nobody is inside the mutex. -/
theorem blocks_recovered_read : ∃ state,
    run (guarded step fun _ _ => True) oneBlock readByTwo = some state ∧
      state.acquisitions = [⟨0, 5, .holding⟩, ⟨0, 5, .acquiring .loadRefcount⟩] ∧
      ∃ next, state.Advances next ∧ next.mutex = none ∧
        ∀ acquisition ∈ next.acquisitions, acquisition.Finished := by
  obtain ⟨state, taken, same⟩ := Option.map_eq_some_iff.mp (by decide +kernel :
    (run (guarded step fun _ _ => True) oneBlock readByTwo).map State.acquisitions =
      some [⟨0, 5, .holding⟩, ⟨0, 5, .acquiring .loadRefcount⟩])
  have reached : Reachable step (fun _ _ => True) Initial state :=
    reachable_run readByTwo oneBlock state
      (.start oneBlock ⟨_, 1, 7, 0, 1, by decide, by decide, rfl⟩) taken
  obtain ⟨next, advances, free, -, finished, -⟩ := blocks_recovered reached
  exact ⟨state, taken, same, next, advances, free, finished⟩

end GpuBufferManager

end Ros2CudaIpc
