import Ros2CudaIpc.ManagerExclusion
import Ros2CudaIpc.ZeroCopy

/-!
# What a publisher enqueues

A PublishBlock which can write has not recorded its ready event, and one which goes
on with its `prepare_publish` has. Together with the lives of the blocks this orders
what a publisher enqueues for one block: the uids do not go down, and behind the
ready record of a reservation nothing more is enqueued under it. A publication is
announced behind its ready record.
-/

namespace Ros2CudaIpc.GpuBufferManager

open Reachability Lifecycle

variable {state next : State} {number : Nat} {reservation : BlockReservation}

/-- Stages of a `prepare_publish` behind its ready record, at which the PublishBlock can no longer
write. -/
def Stage.announcing : Stage → Bool
  | .recorded | .described _ | .committing => true
  | _ => false

/-- Behind an action which records no ready event: a PublishBlock which can write was
there before, or has just been reserved, and one behind its record was so before. -/
def Traced (state next : State) : Prop :=
  ∀ block ∈ next.publishBlocks,
    (block.stage = .idle true → block ∈ state.publishBlocks ∨
      ∃ now, next.log = .reserved block.reservation now :: state.log) ∧
    (block.stage.announcing = true → ∃ old ∈ state.publishBlocks,
      old.reservation = block.reservation ∧ old.stage.announcing = true)

/-- The PublishBlocks are as before, so nothing has to be traced. -/
theorem traced_same (same : next.publishBlocks = state.publishBlocks) : Traced state next := by
  intro block member
  rw [same] at member
  exact ⟨fun _ => .inl member, fun announcing => ⟨block, member, rfl, announcing⟩⟩

/-- One PublishBlock changed its stage, to one which neither writes nor announces more than
before. -/
theorem traced_set {index : Nat} {changed : PublishBlock}
    (set : next.publishBlocks = state.publishBlocks.set index changed)
    (writes : changed.stage = .idle true → changed ∈ state.publishBlocks)
    (announces : changed.stage.announcing = true → ∃ old ∈ state.publishBlocks,
      old.reservation = changed.reservation ∧ old.stage.announcing = true) :
    Traced state next := by
  intro block member
  rw [set] at member
  rcases List.mem_or_eq_of_mem_set member with before | rfl
  · exact ⟨fun _ => .inl before, fun announcing => ⟨block, before, rfl, announcing⟩⟩
  · exact ⟨fun writing => .inl (writes writing), announces⟩

/-- No stage behind a cancel announces anything. This is what spares a PublishBlock which is
cancelled, moved from or destroyed from owing the event to a descriptor. -/
theorem AfterCancel.stage_announcing (after : AfterCancel) : after.stage.announcing = false := by
  cases after <;> rfl

/-- The call inside the mutex reserves a block, or ends a commit; in between it leaves the
PublishBlocks alone. -/
theorem advanceHolder_traced {holder : Holder} (moved : state.advanceHolder holder = some next) :
    Traced state next := by
  cases holder with
  | scanning offset =>
    simp only [State.advanceHolder] at moved
    split at moved
    · split at moved <;> exact (Option.some.inj moved) ▸ traced_same rfl
    · exact (Option.some.inj moved) ▸ traced_same rfl
  | reserving offset index mapping call =>
    obtain ⟨metadata, -, moved⟩ := Option.bind_eq_some_iff.mp moved
    generalize call.step state.clock metadata = after at moved
    obtain ⟨changed, outcome⟩ := after
    cases outcome with
    | running following => exact (Option.some.inj moved) ▸ traced_same rfl
    | returned result =>
      cases result with
      | none => exact (Option.some.inj moved) ▸ traced_same rfl
      | some uid =>
        obtain ⟨block, -, rfl⟩ := Option.map_eq_some_iff.mp moved
        intro other member
        rcases List.mem_append.mp member with before | new
        · exact ⟨fun _ => .inl before, fun announcing => ⟨other, before, rfl, announcing⟩⟩
        · obtain rfl := List.mem_singleton.mp new
          exact ⟨fun _ => .inr ⟨call.now, rfl⟩, fun announcing => by
            simp [Stage.announcing] at announcing⟩
  | committing index reservation descriptor call =>
    obtain ⟨metadata, -, rfl⟩ := Option.map_eq_some_iff.mp moved
    generalize call.step state.clock metadata = after
    obtain ⟨changed, outcome⟩ := after
    cases outcome with
    | running following => exact traced_same rfl
    | returned released => exact traced_set rfl (by simp) (by simp [Stage.announcing])

/-- A descriptor is built, and its commit begins, behind the ready record, which was recorded by
an earlier call. -/
theorem publication_traced {index : Nat} {block : PublishBlock}
    (found : state.publishBlocks[index]? = some block)
    (moved : (∃ locked copied, state.buildDescriptor index locked copied block = some next) ∨
      ∃ locked, state.commit index locked block = some next) : Traced state next := by
  obtain ⟨reservation, stage⟩ := block
  have member := List.mem_of_getElem? found
  rcases moved with ⟨locked, copied, moved⟩ | ⟨locked, moved⟩
  · cases stage with
    | recorded =>
      simp only [State.buildDescriptor] at moved
      split at moved
      · simp at moved
      · split at moved
        · obtain rfl := Option.some.inj moved
          exact traced_set rfl (by simp) (by simp [Stage.announcing])
        · obtain rfl := Option.some.inj moved
          exact traced_set rfl (by simp) fun _ => ⟨_, member, rfl, rfl⟩
    | _ => simp [State.buildDescriptor] at moved
  · cases stage with
    | described descriptor =>
      simp only [State.commit] at moved
      split at moved
      · obtain rfl := Option.some.inj moved
        exact traced_set rfl (by simp) (by simp [Stage.announcing])
      · split at moved
        · simp at moved
        · split at moved
          · obtain rfl := Option.some.inj moved
            exact traced_set rfl (by simp) (by simp [Stage.announcing])
          · obtain rfl := Option.some.inj moved
            exact traced_set rfl (by simp) fun _ => ⟨_, member, rfl, rfl⟩
    | _ => simp [State.commit] at moved

/-- A cancel ends what a PublishBlock can write, and announces nothing. -/
theorem cancel_traced {index : Nat} {block : PublishBlock}
    (moved : (∃ after, state.beginCancel index after block = some next) ∨
      state.advanceCancel index block = some next) : Traced state next := by
  have ended (after : AfterCancel) : after.stage ≠ .idle true := by cases after <;> simp
    [AfterCancel.stage]
  obtain ⟨reservation, stage⟩ := block
  rcases moved with ⟨after, moved⟩ | moved
  · cases stage with
    | idle owner =>
      cases owner with
      | false =>
        obtain rfl := Option.some.inj moved
        exact traced_set rfl (fun writing => absurd writing (ended after))
            (by simp [AfterCancel.stage_announcing])
      | true =>
        simp only [State.beginCancel] at moved
        split at moved
        · obtain rfl := Option.some.inj moved
          exact traced_set rfl (by simp) (by simp [Stage.announcing])
        · obtain rfl := Option.some.inj moved
          exact traced_set rfl (fun writing => absurd writing (ended after))
            (by simp [AfterCancel.stage_announcing])
    | _ => simp [State.beginCancel] at moved
  · cases stage with
    | cancelling call rest =>
      obtain ⟨metadata, -, rfl⟩ := Option.map_eq_some_iff.mp moved
      generalize call.step state.clock metadata = result
      obtain ⟨changed, outcome⟩ := result
      cases outcome with
      | running following => exact traced_set rfl (by simp) (by simp [Stage.announcing])
      | returned released =>
        exact traced_set rfl (fun writing => absurd writing (ended rest))
            (by simp [AfterCancel.stage_announcing])
    | _ => simp [State.advanceCancel] at moved

/-- A move passes a PublishBlock's state on between two operations, the right to write with it. -/
theorem move_traced {index : Nat} {block : PublishBlock}
    (found : state.publishBlocks[index]? = some block)
    (moved : state.moveConstruct index block = some next ∨
      state.moveFrom index block = some next) : Traced state next := by
  obtain ⟨reservation, stage⟩ := block
  have idle {owner : Bool} : (Stage.idle owner).announcing = false := rfl
  rcases moved with moved | moved
  · cases stage with
    | idle owner =>
      obtain rfl := Option.some.inj moved
      intro block member
      rcases List.mem_append.mp member with before | new
      · rcases List.mem_or_eq_of_mem_set before with earlier | rfl
        · exact ⟨fun _ => .inl earlier, fun announcing => ⟨block, earlier, rfl, announcing⟩⟩
        · exact ⟨by simp, by simp [idle]⟩
      · obtain rfl := List.mem_singleton.mp new
        exact ⟨fun _ => .inl (List.mem_of_getElem? found), by simp [idle]⟩
    | _ => simp [State.moveConstruct] at moved
  · cases stage with
    | assigning source =>
      simp only [State.moveFrom] at moved
      split at moved
      · next other owner held =>
        obtain rfl := Option.some.inj moved
        intro block member
        rcases List.mem_or_eq_of_mem_set member with before | rfl
        · rcases List.mem_or_eq_of_mem_set before with earlier | rfl
          · exact ⟨fun _ => .inl earlier, fun announcing => ⟨block, earlier, rfl, announcing⟩⟩
          · exact ⟨fun _ => .inl (List.mem_of_getElem? held), by simp [idle]⟩
        · exact ⟨by simp, by simp [idle]⟩
      · simp at moved
    | _ => simp [State.moveFrom] at moved

/-- Every action but a ready record leaves the PublishBlocks traced: those which can write could
before, or were just granted. -/
theorem step_traced {action : Action}
    (other : ∀ index locked recorded stream, action ≠ .preparePublish index locked recorded stream)
    (moved : step state action = some next) : Traced state next := by
  cases action with
  | tick elapsed => exact (Option.some.inj moved) ▸ traced_same rfl
  | allocateElsewhere =>
    simp only [step] at moved
    split at moved
    · exact (Option.some.inj moved) ▸ traced_same rfl
    · simp at moved
  | initialise locked =>
    simp only [step] at moved
    split at moved
    · simp at moved
    · obtain ⟨cleared, destroyed, rfl⟩ := Option.map_eq_some_iff.mp moved
      have same := (destroyBlocks_users destroyed).1
      exact traced_same same
  | advanceInitialise supply =>
    obtain ⟨frame, -, moved⟩ := Option.bind_eq_some_iff.mp moved
    exact traced_same (advanceInitialise_users moved).1
  | reset locked =>
    simp only [step] at moved
    split at moved
    · simp at moved
    · exact traced_same (destroyBlocks_users moved).1
  | acquireForPublish locked =>
    simp only [step] at moved
    split at moved
    · exact (Option.some.inj moved) ▸ traced_same rfl
    · split at moved
      · simp at moved
      · split at moved <;> exact (Option.some.inj moved) ▸ traced_same rfl
  | advanceHolder =>
    obtain ⟨holder, -, moved⟩ := Option.bind_eq_some_iff.mp moved
    exact advanceHolder_traced moved
  | preparePublish index locked recorded stream =>
    exact absurd rfl (other index locked recorded stream)
  | buildDescriptor index locked copied =>
    obtain ⟨block, found, moved⟩ := Option.bind_eq_some_iff.mp moved
    exact publication_traced found (.inl ⟨_, _, moved⟩)
  | commit index locked =>
    obtain ⟨block, found, moved⟩ := Option.bind_eq_some_iff.mp moved
    exact publication_traced found (.inr ⟨_, moved⟩)
  | cancel index | destroy index =>
    obtain ⟨block, -, moved⟩ := Option.bind_eq_some_iff.mp moved
    exact cancel_traced (.inl ⟨_, moved⟩)
  | advanceCancel index =>
    obtain ⟨block, -, moved⟩ := Option.bind_eq_some_iff.mp moved
    exact cancel_traced (.inr moved)
  | moveConstruct source =>
    obtain ⟨block, found, moved⟩ := Option.bind_eq_some_iff.mp moved
    exact move_traced found (.inl moved)
  | moveAssign target source =>
    simp only [step] at moved
    split at moved
    · exact (Option.some.inj moved) ▸ traced_same rfl
    · obtain ⟨block, -, moved⟩ := Option.bind_eq_some_iff.mp moved
      exact cancel_traced (.inl ⟨_, moved⟩)
  | moveFrom target =>
    obtain ⟨block, found, moved⟩ := Option.bind_eq_some_iff.mp moved
    exact move_traced found (.inr moved)
  | acquire mapping uid =>
    simp only [step] at moved
    split at moved
    · exact (Option.some.inj moved) ▸ traced_same rfl
    · simp at moved
  | advanceAcquisition number spurious =>
    obtain ⟨⟨mapping, uid, phase⟩, -, moved⟩ := Option.bind_eq_some_iff.mp moved
    cases phase with
    | acquiring | underflowed =>
      obtain ⟨metadata, -, rfl⟩ := Option.map_eq_some_iff.mp moved
      exact traced_same rfl
    | _ => simp [State.advanceAcquisition] at moved
  | release number =>
    obtain ⟨⟨mapping, uid, phase⟩, -, moved⟩ := Option.bind_eq_some_iff.mp moved
    cases phase with
    | holding =>
      obtain ⟨metadata, -, rfl⟩ := Option.map_eq_some_iff.mp moved
      exact traced_same rfl
    | _ => simp [State.release] at moved

/-- A `record_ready` records the event of a PublishBlock which can write, quarantines it,
or does nothing. -/
theorem preparePublish_cases {index stream : Nat} {locked recorded : Bool} {block : PublishBlock}
    (moved : state.preparePublish index locked recorded stream block = some next) :
    next = state ∨ ∃ reservation, block = ⟨reservation, .idle true⟩ ∧
      (next = state.quarantine index reservation ∨
        ∃ pool, next = { state with pool := pool }.put index ⟨reservation, .recorded⟩) := by
  obtain ⟨reservation, stage⟩ := block
  cases stage with
  | idle owner =>
    cases owner with
    | false => exact .inl (Option.some.inj moved).symm
    | true =>
      simp only [State.preparePublish] at moved
      split at moved
      · simp at moved
      · split at moved
        · exact .inr ⟨reservation, rfl, .inr ⟨_, (Option.some.inj moved).symm⟩⟩
        · exact .inr ⟨reservation, rfl, .inl (Option.some.inj moved).symm⟩
  | _ => simp [State.preparePublish] at moved

/-- The reservation a PublishBlock can write under has the last uid granted for its object, and no
other PublishBlock has it.

Proof: with this reservation taken away nobody holds the object, by the count's accounting. -/
theorem writer_last {admitted : State → Action → Prop} {mapping index : Nat}
    (reached : Reachable step admitted Initial state)
    (found : state.publishBlocks[index]? = some ⟨reservation, .idle true⟩)
    (mapped : reservation.mapping = some mapping) :
    (∃ now, .reserved reservation now ∈ state.log) ∧
    (∀ other now, .reserved other now ∈ state.log → other.mapping = some mapping →
      other.uid ≤ reservation.uid) ∧
    ∀ changed, ∀ block ∈ state.publishBlocks.set index changed,
      block.stage = .idle true → block.reservation.mapping = some mapping → block = changed := by
  have known := (reachable_formed reached).blocks _ (List.mem_of_getElem? found)
  have below : mapping < state.objects.length := by
    simpa [State.blockIds] using known.known mapping mapped
  have read : state.read (some mapping) = some state.objects[mapping].metadata := by
    simp [State.read, below]
  obtain ⟨life, lived, tracks⟩ := (reachable_lives reached mapping).2 _ read
  obtain ⟨others, sets⟩ := heldOn_set found
  obtain ⟨before, after⟩ := sets mapping ⟨reservation, .idle false⟩ state.mutex
  rw [heldOn_stage rfl, if_pos mapped] at before
  obtain ⟨tenure, empty⟩ := (tracks.permute before).sole
  have alone : heldOn mapping state.mutex others = [] := empty
  obtain ⟨now, granted⟩ := lived.accounts.origin reservation (.inl tenure)
  refine ⟨⟨now, List.mem_of_mem_filter granted⟩, fun other now member same => ?_, ?_⟩
  · have bounded := lived.recorded.granted other now (mem_historyOn member same)
    rwa [lived.recorded.current reservation (.inl tenure)] at bounded
  · intro changed block member writes mappedToo
    obtain ⟨position, stored⟩ := List.getElem?_of_mem member
    by_cases same : index = position
    · subst same
      rw [List.getElem?_set_self (List.getElem?_eq_some_iff.mp found).1] at stored
      exact (Option.some.inj stored).symm
    · rw [List.getElem?_set_ne same] at stored
      have beside : block ∈ state.publishBlocks.set index ⟨reservation, .idle false⟩ :=
        List.mem_of_getElem? (by rw [List.getElem?_set_ne same, stored])
      rw [heldOn_released rfl, alone] at after
      have own := List.flatMap_eq_nil_iff.mp (List.append_eq_nil_iff.mp after.eq_nil).2 _ beside
      obtain ⟨owned, stage⟩ := block
      obtain rfl : stage = .idle true := writes
      rw [heldOn_stage rfl, if_pos mappedToo] at own
      exact absurd own (by simp)

/-- Only the end of a commit announces a publication, and its ready record was recorded before. -/
theorem announced_step {action : Action} {mapping uid : Nat} (formed : state.Formed)
    (moved : step state action = some next) (announced : next.Announced mapping uid) :
    state.Announced mapping uid ∨ ∃ block ∈ state.publishBlocks,
      block.stage.announcing = true ∧ block.reservation.mapping = some mapping ∧
        block.reservation.uid = uid := by
  obtain ⟨event, member, announces⟩ := announced
  have before (same : event ∈ state.log) : state.Announced mapping uid := ⟨event, same, announces⟩
  have silent {events : List Event} (member : event ∈ events ++ state.log)
      (other : ∀ earlier ∈ events, earlier.announces mapping uid = false) :
      state.Announced mapping uid := by
    rcases List.mem_append.mp member with new | old
    · exact absurd announces (by simp [other event new])
    · exact before old
  have outcome {events : List Event} (outcomes : Outcomes events) :
      ∀ earlier ∈ events, earlier.announces mapping uid = false := by
    intro earlier inside
    obtain ⟨succeeded, rfl⟩ := outcomes earlier inside
    rfl
  have decrement (named : Option Nat) (call : SettleCall) :
      ∀ earlier ∈ decrements named call, earlier.announces mapping uid = false := by
    intro earlier inside
    rw [mem_decrements inside]
    rfl
  have single {new : Event} (quiet : new.announces mapping uid = false)
      (member : event ∈ new :: state.log) : state.Announced mapping uid := by
    rcases List.mem_cons.mp member with rfl | old
    · simp [quiet] at announces
    · exact before old
  cases step_transition moved with
  | environment | created | scanned | visited | reserving | passed | handled | commitBegun
  | cancelBegun | movedFrom | moveConstructed | acquireBegun | acquiring | acquired | zeroed
  | released => exact .inl (before member)
  | reconfigured pool initialising events same pid unallocated outcomes =>
    exact .inl (silent member (outcome outcomes))
  | retired pool initialising events free empty pid unallocated outcomes =>
    rcases List.mem_append.mp member with new | old
    · exact absurd announces (by simp [outcome outcomes event new])
    · exact .inl (single rfl old)
  | allocated | reserved => exact .inl (single rfl member)
  | quarantined index reservation stage following failure found unsettled vacant failed =>
    refine .inl (single ?_ member)
    rcases failed with rfl | ⟨rfl, -⟩ <;> rfl
  | committing index reservation descriptor call =>
    exact .inl (silent member (decrement reservation.mapping call))
  | cancelling index reservation after call =>
    exact .inl (silent member (decrement reservation.mapping call))
  | committed index reservation descriptor call metadata changed released inside found operation =>
    rcases List.mem_cons.mp member with rfl | old
    · cases released with
      | false => simp [Event.announces] at announces
      | true =>
        obtain ⟨mapped, same⟩ : reservation.mapping = some mapping ∧ descriptor.uid = uid := by
          simpa [Event.announces] using announces
        obtain ⟨⟨described, -⟩, -⟩ := formed.holder _ inside
        refine .inr ⟨_, List.mem_of_getElem? (formed.linked _ _ _ _ inside), rfl, mapped, ?_⟩
        exact described.symm.trans same
    · exact .inl (silent old (decrement reservation.mapping call))
  | cancelled index reservation after call metadata changed released block found operation =>
    rcases List.mem_cons.mp member with rfl | old
    · cases released <;> simp [Event.announces] at announces
    · exact .inl (silent old (decrement reservation.mapping call))

end Ros2CudaIpc.GpuBufferManager

namespace Ros2CudaIpc.ZeroCopy

open Reachability StreamOrder
open GpuBufferManager (Disciplined heldOn)

universe u
variable {δ : Type u}

/-- The reservation a command was enqueued under, for writes and ready records. -/
def Task.publication : Task δ → Option (Nat × Nat)
  | .write mapping uid _ | .ready mapping uid => some (mapping, uid)
  | _ => none

/-- A ready record, as opposed to a write under the same reservation. -/
def Task.isReady : Task δ → Bool
  | .ready _ _ => true
  | _ => false

/-- A command announces a publication when it is the ready record of that reservation. -/
@[simp] theorem Task.announces_iff (task : Task δ) (mapping uid : Nat) :
    task.announces mapping uid = true ↔
      task.publication = some (mapping, uid) ∧ task.isReady = true := by
  cases task <;> simp [Task.announces, Task.publication, Task.isReady]

/-- What a publisher enqueues for a block: on the block's one stream, under granted
reservations, with uids which do not go down, and nothing behind a ready record under
its own uid. A PublishBlock which can write has no ready record, one which goes on to
publish has one, and so has every announced publication. -/
structure Enqueued (producer : Nat → Nat) (manager : GpuBufferManager.State)
    (commands : List (Command Stream (Task δ))) : Prop where
  streams : ∀ command ∈ commands, ∀ mapping uid, command.task.publication = some (mapping, uid) →
    command.stream = .publisher (producer mapping)
  ordered : commands.Pairwise fun former latter => ∀ mapping older younger,
    former.task.publication = some (mapping, older) →
      latter.task.publication = some (mapping, younger) →
        older < younger ∨ older = younger ∧ former.task.isReady = false
  granted : ∀ command ∈ commands, ∀ mapping uid, command.task.publication = some (mapping, uid) →
    ∃ reservation now, .reserved reservation now ∈ manager.log ∧
      reservation.mapping = some mapping ∧ reservation.uid = uid
  unrecorded : ∀ block ∈ manager.publishBlocks, block.stage = .idle true →
    ∀ mapping, block.reservation.mapping = some mapping → ∀ command ∈ commands,
      command.task.announces mapping block.reservation.uid = false
  recorded : ∀ block ∈ manager.publishBlocks, block.stage.announcing = true →
    ∀ mapping, block.reservation.mapping = some mapping → ∃ command ∈ commands,
      command.task.announces mapping block.reservation.uid = true
  announced : ∀ mapping uid, manager.Announced mapping uid → ∃ command ∈ commands,
    command.task.announces mapping uid = true

variable {producer : Nat → Nat} {manager next : GpuBufferManager.State}
  {commands : List (Command Stream (Task δ))}

/-- Nothing is enqueued by a constructed manager, so nothing is out of order. -/
theorem enqueued_initial (initial : GpuBufferManager.Initial manager) :
    Enqueued producer manager ([] : List (Command Stream (Task δ))) := by
  obtain ⟨config, blockCount, publisherPid, nextBlockId, clock, -, -, rfl⟩ := initial
  constructor <;> simp [GpuBufferManager.State.Announced]

/-- An action of the manager which records no ready event leaves the commands ordered.

Proof: a reservation just granted has a uid nobody has had. -/
theorem Enqueued.manage (enqueued : Enqueued producer manager commands)
    {admitted : GpuBufferManager.State → GpuBufferManager.Action → Prop}
    {action : GpuBufferManager.Action}
    (reached : Reachable GpuBufferManager.step admitted GpuBufferManager.Initial manager)
    (allowed : admitted manager action)
    (moved : GpuBufferManager.step manager action = some next)
    (traced : GpuBufferManager.Traced manager next) : Enqueued producer next commands := by
  obtain ⟨events, logged⟩ :=
    GpuBufferManager.transition_log (GpuBufferManager.step_transition moved)
  refine ⟨enqueued.streams, enqueued.ordered, ?_, ?_, ?_, ?_⟩
  · intro command member mapping uid under
    obtain ⟨reservation, now, granted, same⟩ := enqueued.granted command member mapping uid under
    exact ⟨reservation, now, by rw [logged]; exact List.mem_append_right _ granted, same⟩
  · intro block member writes mapping mapped command enqueuedToo
    rcases (traced block member).1 writes with before | ⟨now, fresh⟩
    · exact enqueued.unrecorded block before writes mapping mapped command enqueuedToo
    · by_contra announces
      obtain ⟨under, -⟩ := (Task.announces_iff ..).mp (by simpa using announces)
      obtain ⟨other, earlier, granted, same, uid⟩ :=
        enqueued.granted command enqueuedToo mapping _ under
      have further := Reachable.step manager next action reached allowed moved
      have split : next.log = [] ++ .reserved block.reservation now :: manager.log := fresh
      obtain ⟨life, lived⟩ := GpuBufferManager.event_split further split mapped
      have younger := lived.fresh (GpuBufferManager.mem_historyOn granted same)
      omega
  · intro block member announcing mapping mapped
    obtain ⟨old, before, same, stage⟩ := (traced block member).2 announcing
    rw [← same] at mapped ⊢
    exact enqueued.recorded old before stage mapping mapped
  · intro mapping uid announced
    rcases GpuBufferManager.announced_step (GpuBufferManager.reachable_formed reached) moved
      announced with before | ⟨block, member, stage, mapped, rfl⟩
    · exact enqueued.announced mapping uid before
    · exact enqueued.recorded block member stage mapping mapped

/-- A command which is none of a publisher's leaves the publishers' commands ordered. -/
theorem Enqueued.append (enqueued : Enqueued producer manager commands)
    {command : Command Stream (Task δ)} (beside : command.task.publication = none) :
    Enqueued producer manager (commands ++ [command]) := by
  have silent (mapping uid : Nat) : command.task.announces mapping uid = false := by
    by_contra announces
    have under := ((Task.announces_iff ..).mp (by simpa using announces)).1
    simp [beside] at under
  constructor
  · intro other member mapping uid under
    rcases List.mem_append.mp member with before | new
    · exact enqueued.streams other before mapping uid under
    · rw [List.mem_singleton.mp new, beside] at under
      simp at under
  · refine List.pairwise_append.mpr ⟨enqueued.ordered, List.pairwise_singleton .., ?_⟩
    intro former _ latter new mapping older younger _ under
    rw [List.mem_singleton.mp new, beside] at under
    simp at under
  · intro other member mapping uid under
    rcases List.mem_append.mp member with before | new
    · exact enqueued.granted other before mapping uid under
    · rw [List.mem_singleton.mp new, beside] at under
      simp at under
  · intro block member writes mapping mapped other enqueuedToo
    rcases List.mem_append.mp enqueuedToo with before | new
    · exact enqueued.unrecorded block member writes mapping mapped other before
    · rw [List.mem_singleton.mp new]
      exact silent _ _
  · intro block member announcing mapping mapped
    obtain ⟨other, before, announces⟩ := enqueued.recorded block member announcing mapping mapped
    exact ⟨other, List.mem_append_left _ before, announces⟩
  · intro mapping uid announced
    obtain ⟨other, before, announces⟩ := enqueued.announced mapping uid announced
    exact ⟨other, List.mem_append_left _ before, announces⟩

/-- A PublishBlock without a block records nothing, so its stage may say otherwise without a
command. -/
theorem Enqueued.unmapped (enqueued : Enqueued producer manager commands) {index : Nat}
    {reservation : BlockReservation} (unmapped : reservation.mapping = none)
    (logged : next.log = manager.log)
    (blocks : next.publishBlocks = manager.publishBlocks.set index ⟨reservation, .recorded⟩) :
    Enqueued producer next commands := by
  refine ⟨enqueued.streams, enqueued.ordered, ?_, ?_, ?_, ?_⟩
  · rw [logged]
    exact enqueued.granted
  · intro block member able
    rw [blocks] at member
    rcases List.mem_or_eq_of_mem_set member with before | rfl
    · exact enqueued.unrecorded block before able
    · simp at able
  · intro block member announcing mapping mapped
    rw [blocks] at member
    rcases List.mem_or_eq_of_mem_set member with before | rfl
    · exact enqueued.recorded block before announcing mapping mapped
    · simp [unmapped] at mapped
  · rintro mapping uid ⟨event, member, announces⟩
    rw [logged] at member
    exact enqueued.announced mapping uid ⟨event, member, announces⟩

section Writer

variable {admitted : GpuBufferManager.State → GpuBufferManager.Action → Prop}
  {index mapping : Nat} {reservation : BlockReservation} {command : Command Stream (Task δ)}

/-- A command under the reservation of a PublishBlock which can write comes behind
everything enqueued for its block. -/
theorem Enqueued.behind (enqueued : Enqueued producer manager commands)
    (reached : Reachable GpuBufferManager.step admitted GpuBufferManager.Initial manager)
    (found : manager.publishBlocks[index]? = some ⟨reservation, .idle true⟩)
    (mapped : reservation.mapping = some mapping)
    (under : command.task.publication = some (mapping, reservation.uid)) :
    (commands ++ [command]).Pairwise fun former latter => ∀ mapping older younger,
      former.task.publication = some (mapping, older) →
        latter.task.publication = some (mapping, younger) →
          older < younger ∨ older = younger ∧ former.task.isReady = false := by
  obtain ⟨-, last, -⟩ := GpuBufferManager.writer_last reached found mapped
  refine List.pairwise_append.mpr ⟨enqueued.ordered, List.pairwise_singleton .., ?_⟩
  intro former member latter new other older younger before after
  rw [List.mem_singleton.mp new, under] at after
  obtain ⟨rfl, rfl⟩ := Prod.mk.inj (Option.some.inj after)
  obtain ⟨granted, now, logged, same, rfl⟩ := enqueued.granted former member _ _ before
  rcases Nat.lt_or_eq_of_le (last granted now logged same) with below | equal
  · exact .inl below
  · refine .inr ⟨equal, ?_⟩
    have unrecorded := enqueued.unrecorded _ (List.mem_of_getElem? found) rfl _ mapped former member
    by_contra ready
    have announces := (Task.announces_iff former.task mapping reservation.uid).mpr
      ⟨equal ▸ before, by simpa using ready⟩
    simp [unrecorded] at announces

/-- A command enqueued under an idle reservation is on the block's stream, and its reservation was
granted. -/
theorem Enqueued.under (enqueued : Enqueued producer manager commands)
    (reached : Reachable GpuBufferManager.step admitted GpuBufferManager.Initial manager)
    (found : manager.publishBlocks[index]? = some ⟨reservation, .idle true⟩)
    (mapped : reservation.mapping = some mapping)
    (streamed : command.stream = .publisher (producer mapping))
    (under : command.task.publication = some (mapping, reservation.uid)) :
    ∀ other ∈ commands ++ [command], ∀ named uid, other.task.publication = some (named, uid) →
      other.stream = .publisher (producer named) ∧
        ∃ granted now, .reserved granted now ∈ manager.log ∧ granted.mapping = some named ∧
          granted.uid = uid := by
  obtain ⟨⟨now, logged⟩, -⟩ := GpuBufferManager.writer_last reached found mapped
  intro other member named uid published
  rcases List.mem_append.mp member with before | new
  · exact ⟨enqueued.streams other before named uid published,
      enqueued.granted other before named uid published⟩
  · rw [List.mem_singleton.mp new] at published ⊢
    obtain ⟨rfl, rfl⟩ := Prod.mk.inj (Option.some.inj (under.symm.trans published))
    exact ⟨streamed, reservation, now, logged, mapped, rfl⟩

/-- A write under an idle reservation comes before the ready record of it, which is not recorded
yet. -/
theorem Enqueued.write (enqueued : Enqueued producer manager commands)
    (reached : Reachable GpuBufferManager.step admitted GpuBufferManager.Initial manager)
    (found : manager.publishBlocks[index]? = some ⟨reservation, .idle true⟩)
    (mapped : reservation.mapping = some mapping)
    (streamed : command.stream = .publisher (producer mapping))
    (under : command.task.publication = some (mapping, reservation.uid))
    (writes : command.task.isReady = false) :
    Enqueued producer manager (commands ++ [command]) where
  streams other member named uid published :=
    (enqueued.under reached found mapped streamed under other member named uid published).1
  ordered := enqueued.behind reached found mapped under
  granted other member named uid published :=
    (enqueued.under reached found mapped streamed under other member named uid published).2
  unrecorded := by
    intro block member able named owned other enqueuedToo
    rcases List.mem_append.mp enqueuedToo with before | new
    · exact enqueued.unrecorded block member able named owned other before
    · rw [List.mem_singleton.mp new]
      by_contra announces
      have ready := ((Task.announces_iff ..).mp (by simpa using announces)).2
      simp [writes] at ready
  recorded := by
    intro block member announcing named owned
    obtain ⟨other, before, announces⟩ := enqueued.recorded block member announcing named owned
    exact ⟨other, List.mem_append_left _ before, announces⟩
  announced := by
    intro named uid announced
    obtain ⟨other, before, announces⟩ := enqueued.announced named uid announced
    exact ⟨other, List.mem_append_left _ before, announces⟩

/-- The ready record of an idle reservation, with which its PublishBlock stops writing. -/
theorem Enqueued.ready (enqueued : Enqueued producer manager commands)
    (reached : Reachable GpuBufferManager.step admitted GpuBufferManager.Initial manager)
    (found : manager.publishBlocks[index]? = some ⟨reservation, .idle true⟩)
    (mapped : reservation.mapping = some mapping)
    (streamed : command.stream = .publisher (producer mapping))
    (records : command.task = .ready mapping reservation.uid)
    (logged : next.log = manager.log)
    (blocks : next.publishBlocks = manager.publishBlocks.set index ⟨reservation, .recorded⟩) :
    Enqueued producer next (commands ++ [command]) := by
  have under : command.task.publication = some (mapping, reservation.uid) := by
    rw [records]
    rfl
  have announces : command.task.announces mapping reservation.uid = true := by
    simp [records, Task.announces]
  obtain ⟨-, -, sole⟩ := GpuBufferManager.writer_last reached found mapped
  refine ⟨?_, enqueued.behind reached found mapped under, ?_, ?_, ?_, ?_⟩
  · intro other member named uid published
    exact (enqueued.under reached found mapped streamed under other member named uid published).1
  · intro other member named uid published
    rw [logged]
    exact (enqueued.under reached found mapped streamed under other member named uid published).2
  · intro block member able named owned other enqueuedToo
    rw [blocks] at member
    have earlier : block ∈ manager.publishBlocks := by
      rcases List.mem_or_eq_of_mem_set member with before | rfl
      · exact before
      · simp at able
    rcases List.mem_append.mp enqueuedToo with before | new
    · exact enqueued.unrecorded block earlier able named owned other before
    · rw [List.mem_singleton.mp new]
      by_contra recorded
      have published := ((Task.announces_iff ..).mp (by simpa using recorded)).1
      obtain ⟨rfl, -⟩ := Prod.mk.inj (Option.some.inj (under.symm.trans published))
      obtain rfl := sole _ block member able owned
      simp at able
  · intro block member announcing named owned
    rw [blocks] at member
    rcases List.mem_or_eq_of_mem_set member with before | rfl
    · obtain ⟨other, inside, does⟩ := enqueued.recorded block before announcing named owned
      exact ⟨other, List.mem_append_left _ inside, does⟩
    · obtain rfl : mapping = named := Option.some.inj (mapped.symm.trans owned)
      exact ⟨command, List.mem_append_right _ (List.mem_singleton_self _), announces⟩
  · rintro named uid ⟨event, member, does⟩
    rw [logged] at member
    obtain ⟨other, inside, ready⟩ := enqueued.announced named uid ⟨event, member, does⟩
    exact ⟨other, List.mem_append_left _ inside, ready⟩

end Writer

/-- Nobody granted a larger uid than the object has, so the current reservation is the youngest. -/
theorem granted_current {admitted : GpuBufferManager.State → GpuBufferManager.Action → Prop}
    {mapping : Nat} {metadata : BlockMetadata} {reservation : BlockReservation} {now : Nat}
    (reached : Reachable GpuBufferManager.step admitted GpuBufferManager.Initial manager)
    (read : manager.read (some mapping) = some metadata)
    (granted : .reserved reservation now ∈ manager.log)
    (mapped : reservation.mapping = some mapping) : reservation.uid ≤ metadata.uid := by
  obtain ⟨life, lived, tracks⟩ := (GpuBufferManager.reachable_lives reached mapping).2 _ read
  exact Nat.le_trans
    (lived.recorded.granted reservation now (GpuBufferManager.mem_historyOn granted mapped))
    tracks.uid

/-- Two commands of a block in the order of their enqueuing have uids in that order, and behind a
ready record a larger one. -/
theorem Enqueued.uids (enqueued : Enqueued producer manager commands) {first second : Nat}
    {former latter : Command Stream (Task δ)} {mapping older younger : Nat}
    (below : first < second) (foundFormer : commands[first]? = some former)
    (foundLatter : commands[second]? = some latter)
    (before : former.task.publication = some (mapping, older))
    (after : latter.task.publication = some (mapping, younger)) :
    older < younger ∨ older = younger ∧ former.task.isReady = false := by
  obtain ⟨inside, rfl⟩ := List.getElem?_eq_some_iff.mp foundFormer
  obtain ⟨within, rfl⟩ := List.getElem?_eq_some_iff.mp foundLatter
  exact List.pairwise_iff_getElem.mp enqueued.ordered first second inside within below mapping older
    younger before after

/-- A recorded ready event is one of some reservation of the block. -/
theorem Task.recordsReady_iff (task : Task δ) (mapping : Nat) :
    task.recordsReady mapping = true ↔ ∃ uid, task.announces mapping uid = true := by
  cases task <;> simp [Task.recordsReady, Task.announces]

/-- A write is one under some reservation of the block, and no ready record. -/
theorem Task.writesTo_isSome (task : Task δ) (mapping : Nat)
    (writes : (task.writesTo mapping).isSome = true) :
    ∃ uid, task.publication = some (mapping, uid) ∧ task.isReady = false := by
  cases task with
  | write other uid data =>
    by_cases same : other = mapping
    · exact ⟨uid, by rw [same]; rfl, rfl⟩
    · simp [Task.writesTo, same] at writes
  | _ => simp [Task.writesTo] at writes

/-- While the uid of a block is an announced one, the latest record of its ready event is the one
of that publication, and all writes to the block were enqueued before.

Proof: a record behind the announced one would have a larger uid. -/
theorem Enqueued.latest (enqueued : Enqueued producer manager commands)
    {admitted : GpuBufferManager.State → GpuBufferManager.Action → Prop}
    {mapping : Nat} {metadata : BlockMetadata} {executed : List Nat}
    (reached : Reachable GpuBufferManager.step admitted GpuBufferManager.Initial manager)
    (read : manager.read (some mapping) = some metadata)
    (announced : manager.Announced mapping metadata.uid) : ∃ record ready,
      (Device.mk commands executed).latest (Task.recordsReady mapping) = some record ∧
      commands[record]? = some ready ∧ ready.task.announces mapping metadata.uid = true ∧
      ∀ index command, commands[index]? = some command →
        (command.task.writesTo mapping).isSome → index < record := by
  have bounded {command : Command Stream (Task δ)} (member : command ∈ commands) {uid : Nat}
      (under : command.task.publication = some (mapping, uid)) : uid ≤ metadata.uid := by
    obtain ⟨reservation, now, granted, mapped, rfl⟩ :=
      enqueued.granted command member mapping uid under
    exact granted_current reached read granted mapped
  obtain ⟨first, member, announces⟩ := enqueued.announced mapping _ announced
  obtain ⟨under, isReady⟩ := (Task.announces_iff ..).mp announces
  obtain ⟨index, found⟩ := List.getElem?_of_mem member
  have marked := (Task.recordsReady_iff first.task mapping).mpr ⟨_, announces⟩
  have latest := (Device.mk commands executed).latest_found found marked
  obtain ⟨record, ready, result, stored, does, later⟩ := latest
  obtain ⟨uid, named⟩ := (Task.recordsReady_iff ready.task mapping).mp does
  obtain ⟨underToo, -⟩ := (Task.announces_iff ..).mp named
  obtain rfl : index = record := by
    rcases Nat.lt_trichotomy index record with below | same | above
    · rcases enqueued.uids below found stored under underToo with larger | ⟨-, unready⟩
      · have most := bounded (List.mem_of_getElem? stored) underToo
        omega
      · simp [isReady] at unready
    · exact same
    · have unmarked := later index first above found
      simp [marked] at unmarked
  obtain rfl : first = ready := Option.some.inj (found.symm.trans stored)
  refine ⟨index, first, result, found, announces, fun position command held writes => ?_⟩
  obtain ⟨written, undered, unready⟩ := command.task.writesTo_isSome mapping writes
  rcases Nat.lt_trichotomy position index with below | rfl | above
  · exact below
  · obtain rfl : first = command := Option.some.inj (found.symm.trans held)
    simp [isReady] at unready
  · rcases enqueued.uids above found held under undered with larger | ⟨-, unrecorded⟩
    · have most := bounded (List.mem_of_getElem? held) undered
      omega
    · simp [isReady] at unrecorded

/-- What was written in front of a publication is what was enqueued in front of its ready
record. -/
theorem Enqueued.published_take (enqueued : Enqueued producer manager commands)
    {mapping uid record : Nat} {ready : Command Stream (Task δ)}
    (found : commands[record]? = some ready)
    (announces : ready.task.announces mapping uid = true) :
    published commands mapping uid =
      (commands.take record).filterMap fun command => command.task.writesTo mapping := by
  obtain ⟨under, isReady⟩ := (Task.announces_iff ..).mp announces
  obtain ⟨inside, rfl⟩ := List.getElem?_eq_some_iff.mp found
  have split : commands =
      commands.take record ++ commands[record] :: commands.drop (record + 1) := by
    rw [List.getElem_cons_drop, List.take_append_drop]
  have unannounced : ∀ command ∈ commands.take record,
      (!command.task.announces mapping uid) = true := by
    intro command member
    obtain ⟨index, stored⟩ := List.getElem?_of_mem member
    rw [List.getElem?_take] at stored
    split at stored
    · next below =>
      by_contra other
      obtain ⟨underToo, readyToo⟩ := (Task.announces_iff ..).mp (by simpa using other)
      rcases enqueued.uids below stored found underToo under with larger | ⟨-, unready⟩
      · omega
      · simp [readyToo] at unready
    · simp at stored
  have stops : (!commands[record].task.announces mapping uid) = false := by simp [announces]
  unfold published
  congr 1
  conv_lhs => rw [split]
  rw [List.takeWhile_append_of_pos unannounced, List.takeWhile_cons, stops]
  simp

end Ros2CudaIpc.ZeroCopy
