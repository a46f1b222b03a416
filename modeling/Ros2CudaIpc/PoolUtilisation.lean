import Ros2CudaIpc.ReservationScan

/-!
# A block is refused to a publisher only while somebody has it

The count of a block is a number which all processes change. Below the largest uid it is
the number of those who have the block: PublishBlocks and quarantined reservations,
commits, cancels and attempts inside a block, BufferRefs, and acquires behind their
exchange. A zero count therefore means that nobody is left, and a nonzero one names
somebody.

An undisturbed `acquire_for_publish` on an initialised pool thus returns a block exactly
when some block of the pool has nobody left, is old enough and has a uid left. Nothing
else makes a publisher skip a frame, in no run.
-/

namespace Ros2CudaIpc

open BlockProtocol WeightedLists

/-- Below the largest uid, the count of a viewed block is the number of its holders. -/
theorem BlockProtocol.Viewed.count {metadata : BlockMetadata} {calls : List Call}
    {reservations granted settled : List Nat} {refs : List BufferRef}
    (viewed : Viewed metadata calls reservations refs granted settled)
    (room : metadata.uid ≠ uint64Max) :
    metadata.refcount = total Call.share calls + reservations.length + refs.length := by
  obtain ⟨⟨block, reached, rfl, callsAgree, reservationsAgree, refsAgree⟩, -⟩ := viewed
  rcases reachable_regime reached with accounted | exhausted
  · rw [accounted.count, total_perm Call.share callsAgree, reservationsAgree.length_eq,
      total_ref_share, List.countP_eq_length_filter, refsAgree.length_eq]
  · exact absurd exhausted.last room

namespace GpuBufferManager

open Reachability RoundRobin

/-- Nobody has an object: no PublishBlock and no quarantined reservation, no call behind
its claim or exchange, and no BufferRef. -/
structure State.Unused (state : State) (number : Nat) : Prop where
  unreserved : reservationsOn number state.publishBlocks state.log = []
  unclaimed : ∀ call ∈ callsOn number state.mutex state.publishBlocks state.acquisitions,
    call.share = 0
  unread : refsOn number state.acquisitions = []

variable {admitted : State → Action → Prop} {state : State}

/-- In every run, an object whose uid is not the largest is unreferenced exactly when
nobody has it. -/
theorem unreferenced_iff (reached : Reachable step admitted Initial state) {number : Nat}
    {metadata : BlockMetadata} (found : state.read (some number) = some metadata)
    (room : metadata.uid ≠ uint64Max) : metadata.refcount = 0 ↔ state.Unused number := by
  have counted := (reachable_views reached number metadata found).count room
  constructor
  · intro unreferenced
    rw [unreferenced] at counted
    refine ⟨List.length_eq_zero_iff.mp (by omega), fun call member => ?_,
      List.length_eq_zero_iff.mp (by omega)⟩
    have light := weight_le_total Call.share _ call member
    omega
  · intro unused
    rw [counted, unused.unreserved, unused.unread, total_eq_zero _ _ unused.unclaimed]
    rfl

/-- The block at an index of the pool can be handed to a publisher now: nobody has it, its
grace period is over, and its uid can still grow. -/
structure State.Available (state : State) (index : Nat) : Prop where
  block : ∃ block mapping metadata, state.pool.resources index = some block ∧
    block.sharedMetadata = some mapping ∧ state.read (some mapping) = some metadata ∧
      state.Unused mapping ∧ metadata.uid ≠ uint64Max ∧
        (metadata.publishTimestampUs = 0 ∨
          metadata.publishTimestampUs + gracePeriodUs ≤ state.clock)

/-- What the search looks for is an available block: unreferenced, old enough, and with a uid
left. -/
theorem reusableAt_iff (reached : Reachable step admitted Initial state) (index : Nat) :
    ReusableAt (fun _ => state.clock) state.pool state.objects index ↔ state.Available index := by
  constructor
  · rintro ⟨metadata, words, reusable⟩
    obtain ⟨mapping, shares, found⟩ := Option.bind_eq_some_iff.mp words
    obtain ⟨block, stands, shared⟩ := Option.bind_eq_some_iff.mp shares
    exact ⟨block, mapping, metadata, stands, shared, found,
      (unreferenced_iff reached found reusable.room).mp reusable.unreferenced, reusable.room,
      reusable.aged⟩
  · rintro ⟨block, mapping, metadata, stands, shared, found, unused, room, aged⟩
    refine ⟨metadata, ?_, (unreferenced_iff reached found room).mpr unused, aged, room⟩
    rw [metadataAt, stands, Option.bind_some, shared, Option.bind_some]
    exact found

/-- In every reachable state, an object whose uid is not the largest is unreferenced exactly
when nobody has it. So where the pool is initialised and its mutex free, an
`acquire_for_publish` which nobody disturbs comes to its end and hands out a block which
was available; if none was, it returns nothing and changes nothing.

The runs are not restricted: the operations of all parties interleave as they may. Behind
the largest uid the count of an object is not said to be anybody's, and a publisher which
is disturbed may be refused a block that comes back meanwhile. -/
theorem acquireForPublish_available (reached : Reachable step admitted Initial state) :
    (∀ number metadata, state.read (some number) = some metadata → metadata.uid ≠ uint64Max →
      (metadata.refcount = 0 ↔ state.Unused number)) ∧
    (state.pool.initialised = true → state.mutex = none →
      ∃ steps next, run step state
          (.acquireForPublish true :: List.replicate steps .advanceHolder) = some next ∧
        next.mutex = none ∧
        (((∃ index, state.Available index) ∧ ∃ reservation,
            state.Available reservation.poolIndex ∧
            next.publishBlocks = state.publishBlocks ++ [⟨reservation, .idle true⟩]) ∨
          (¬ ∃ index, state.Available index) ∧ next.publishBlocks = state.publishBlocks ∧
            next.objects = state.objects ∧ next.pool = state.pool)) := by
  refine ⟨fun number metadata found room => unreferenced_iff reached found room, ?_⟩
  intro ready free
  have generated := reachable_generated reached ready
  obtain ⟨steps, next, executed, leaves⟩ :=
    acquireForPublish_performs free ready generated.nonempty generated.stored
  refine ⟨steps, next, executed, leaves.mutex, ?_⟩
  rcases (generation ready generated).reserveForPublish_cases fun _ => state.clock with
    ⟨reservation, granted, serves⟩ | ⟨absent, same⟩
  · have available := (reusableAt_iff reached _).mp serves.reusable
    have blocks := leaves.publishBlocks
    rw [show (reserveForPublish true (fun _ => state.clock) state.pool state.objects).reservation =
      some reservation from granted] at blocks
    exact .inl ⟨⟨_, available⟩, reservation, available, blocks⟩
  · have stayed : reserveForPublish true (fun _ => state.clock) state.pool state.objects =
        ⟨state.pool, state.objects, none⟩ := same
    rw [stayed] at leaves
    refine .inr ⟨fun ⟨index, available⟩ => absent index ((reusableAt_iff reached index).mpr
      available), ?_, leaves.objects, leaves.pool⟩
    simpa using leaves.publishBlocks

/-- A publication of the block which is read and released, and the grace period. -/
def readOnce : List Action :=
  initialiseOnce ++ acquireOnce ++ publishOnce 0 ++ [.acquire 0 5] ++
    List.replicate 4 (.advanceAcquisition 0 false) ++ [.release 0, .tick 100000]

/-- Behind it the count of the block's object is zero, since nobody has the object, and the
block is handed out again. -/
theorem acquireForPublish_available_again : ∃ state,
    run (guarded step fun _ _ => True) oneBlock readOnce = some state ∧ state.Unused 0 ∧
    ∃ steps next reservation, run step state (.acquireForPublish true ::
      List.replicate steps .advanceHolder) = some next ∧
        next.publishBlocks = state.publishBlocks ++ [⟨reservation, .idle true⟩] := by
  obtain ⟨state, taken, same⟩ := Option.map_eq_some_iff.mp (by decide +kernel :
    (run (guarded step fun _ _ => True) oneBlock readOnce).map (fun state =>
      (state.pool.initialised, state.mutex.isNone,
        (state.read (some 0)).map fun metadata => (metadata.refcount, metadata.uid),
        decide (ReusableAt (fun _ => state.clock) state.pool state.objects 0))) =
      some (true, true, some (0, 5), true))
  obtain ⟨ready, free, words, reusable⟩ := by simpa using same
  obtain ⟨metadata, found, unreferenced, uid⟩ := words
  have reached : Reachable step (fun _ _ => True) Initial state :=
    reachable_run readOnce oneBlock state
      (.start oneBlock ⟨_, 1, 7, 0, 1, by decide, by decide, rfl⟩) taken
  have available := (reusableAt_iff reached 0).mp reusable
  obtain ⟨counts, serves⟩ := acquireForPublish_available reached
  have room : metadata.uid ≠ uint64Max := by
    rw [uid]
    decide
  refine ⟨state, taken, (counts 0 metadata found room).mp unreferenced, ?_⟩
  obtain ⟨steps, next, executed, -, served | refused⟩ := serves ready free
  · obtain ⟨-, reservation, -, blocks⟩ := served
    exact ⟨steps, next, reservation, executed, blocks⟩
  · exact absurd ⟨0, available⟩ refused.1

end GpuBufferManager

end Ros2CudaIpc
