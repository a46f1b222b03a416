import Ros2CudaIpc.LifecycleRefinement

/-!
# A reservation is given back once or quarantined

Ownership of a reservation is one null pointer in a PublishBlock, and neither a
commit nor a cancel can tell that it is the second one of its uid. That none ever
is follows from the lives of the blocks: whatever is done to the PublishBlocks, a
reservation has one holder until it is published, cancelled or quarantined, its
count is given back with the first two and never with the third, and the block of
a quarantined reservation is not granted again.
-/

namespace Ros2CudaIpc.GpuBufferManager

open Reachability BlockProtocol Lifecycle

variable {state next : State} {number : Nat} {reservation : BlockReservation}

/-- How often the publisher gave back the count of a reservation, by a commit or a cancel. -/
def State.givenBack (state : State) (reservation : BlockReservation) : Nat :=
  state.log.count (.decremented reservation.mapping reservation.uid)

/-- A commit or a PublishBlock, and no second one, holds a reservation. -/
def State.HeldOnce (state : State) (reservation : BlockReservation) : Prop :=
  ∃ number, reservation.mapping = some number ∧
    heldOn number state.mutex state.publishBlocks = [reservation]

/-- Nobody holds a reservation any more, neither a PublishBlock nor the call inside the mutex. -/
def State.Unheld (state : State) (reservation : BlockReservation) : Prop :=
  ∀ number, reservation.mapping = some number →
    reservation ∉ heldOn number state.mutex state.publishBlocks

/-- What a run did to the reservations: which counts were given back, how often, and by whom the
others are held. -/
structure State.GivesBack (state : State) : Prop where
  /-- At most one decrement, of a granted reservation. -/
  once : ∀ reservation, state.givenBack reservation ≤ 1
  owed : ∀ mapping uid, .decremented mapping uid ∈ state.log → ∃ reservation now,
    .reserved reservation now ∈ state.log ∧ reservation.mapping = mapping ∧ reservation.uid = uid
  /-- No two reservations of a block share a uid. -/
  renewed : ∀ later earlier reservation now,
    state.log = later ++ .reserved reservation now :: earlier →
      ∀ other before, .reserved other before ∈ earlier → other.mapping = reservation.mapping →
        other.uid < reservation.uid
  /-- A descriptor is returned behind the decrement of its own uid. -/
  published : ∀ descriptor mapping timestamp, .prepared descriptor mapping timestamp ∈ state.log →
    ∃ reservation now, .reserved reservation now ∈ state.log ∧ reservation.mapping = mapping ∧
      reservation.uid = descriptor.uid ∧ state.givenBack reservation = 1
  cancelled : ∀ reservation, .cancelled reservation ∈ state.log → state.givenBack reservation = 1
  uncancelled : ∀ reservation, .cancelFailed reservation ∉ state.log
  quarantined : ∀ reservation, .prepareFailed reservation ∈ state.log →
    state.givenBack reservation = 0
  /-- The block of a failed reservation is not granted any more. -/
  withheld : ∀ later earlier reservation,
    state.log = later ++ .prepareFailed reservation :: earlier →
      ∀ other now, .reserved other now ∈ later → other.mapping ≠ reservation.mapping
  /-- A reservation which was not settled has one holder. -/
  fate : ∀ reservation now, .reserved reservation now ∈ state.log →
    (state.HeldOnce reservation ∧ state.givenBack reservation = 0) ∨
    (state.Unheld reservation ∧
      (.prepareFailed reservation ∈ state.log ∨ .cancelled reservation ∈ state.log ∨
        ∃ descriptor timestamp, .prepared descriptor reservation.mapping timestamp ∈ state.log ∧
          descriptor.uid = reservation.uid))

/-- The decrements of a reservation are in the history of its object, so they may be counted
there. -/
theorem givenBack_history (mapped : reservation.mapping = some number) :
    state.givenBack reservation =
      (historyOn number state.log).count (.decremented reservation.mapping reservation.uid) := by
  exact .symm (List.count_filter (decide_eq_true mapped))

/-- A reservation on an object which has a life is given back at most once. -/
theorem givenBack_once {life : Lifecycle} (mapped : reservation.mapping = some number)
    (lived : Of (historyOn number state.log) life) :
    state.givenBack reservation ≤ 1 :=
  givenBack_history mapped ▸ lived.once _ _

/-- A reservation whose decrement is in the history was given back once, as no life has it twice. -/
theorem givenBack_one {life : Lifecycle} (mapped : reservation.mapping = some number)
    (lived : Of (historyOn number state.log) life)
    (settled : .decremented reservation.mapping reservation.uid ∈ historyOn number state.log) :
    state.givenBack reservation = 1 := by
  have most := givenBack_once mapped lived
  have least : 0 < state.givenBack reservation :=
    givenBack_history mapped ▸ List.count_pos_iff.mpr settled
  omega

/-- A reservation whose decrement is not in the history keeps its count. -/
theorem givenBack_zero (mapped : reservation.mapping = some number)
    (unsettled : .decremented reservation.mapping reservation.uid ∉ historyOn number state.log) :
    state.givenBack reservation = 0 :=
  givenBack_history mapped ▸ List.count_eq_zero_of_not_mem unsettled

/-- The holder of an object's reservation has the one at hand, by which the block is reserved. -/
theorem held_tenure {metadata : BlockMetadata} {life : Lifecycle} {work : Option Work}
    {held : List BlockReservation} (tracks : Tracks state.clock metadata work held life)
    (holds : reservation ∈ held) : life.tenure = .reserved reservation := by
  have holder := tracks.holders.mem_iff.mp holds
  cases tenure : life.tenure with
  | reserved other =>
    rw [tenure] at holder
    rw [List.mem_singleton.mp holder]
  | free | released | lost => simp [tenure, Tenure.holders] at holder

/-- A reservation on an object is held by one, or is settled and held by nobody. -/
theorem reservation_fate {metadata : BlockMetadata} {life : Lifecycle} {now : Nat}
    (mapped : reservation.mapping = some number)
    (lived : Of (historyOn number state.log) life)
    (tracks : Tracks state.clock metadata (workOn number state.mutex)
      (heldOn number state.mutex state.publishBlocks) life)
    (granted : .reserved reservation now ∈ historyOn number state.log) :
    (state.HeldOnce reservation ∧ state.givenBack reservation = 0) ∨
    (state.Unheld reservation ∧
      (.prepareFailed reservation ∈ state.log ∨ .cancelled reservation ∈ state.log ∨
        ∃ descriptor timestamp, .prepared descriptor reservation.mapping timestamp ∈ state.log ∧
          descriptor.uid = reservation.uid)) := by
  have accounts := lived.accounts
  have unheld (settled : life.tenure ≠ .reserved reservation) : state.Unheld reservation := by
    intro other same holds
    obtain rfl : number = other := Option.some.inj (mapped.symm.trans same)
    exact settled (held_tenure tracks holds)
  have returned (settled : .decremented reservation.mapping reservation.uid ∈
      historyOn number state.log) : life.tenure ≠ .reserved reservation :=
    fun tenure => lived.unreturned (.inl tenure) settled
  rcases accounts.fate reservation now granted with
    tenure | tenure | failed | cancelled | ⟨descriptor, timestamp, published, same⟩
  · have sole := tracks.holders
    rw [tenure] at sole
    exact .inl ⟨⟨number, mapped, List.perm_singleton.mp sole⟩,
      givenBack_zero mapped (lived.unreturned (.inl tenure))⟩
  · exact absurd tenure (tracks.rest reservation)
  · refine .inr ⟨unheld ?_, .inl (List.mem_of_mem_filter failed)⟩
    rw [accounts.failed reservation failed]
    simp
  · have settled := accounts.cancelled reservation cancelled
    exact .inr ⟨unheld (returned settled), .inr (.inl (List.mem_of_mem_filter cancelled))⟩
  · have settled := accounts.prepared descriptor reservation.mapping timestamp published
    rw [same] at settled
    exact .inr ⟨unheld (returned settled),
      .inr (.inr ⟨descriptor, timestamp, List.mem_of_mem_filter published, same⟩)⟩

/-- Every run gives its reservations back once, or not at all where it says so. Each part is read
off the lives of the objects. -/
theorem reachable_givesBack (reached : Reachable step (fun _ _ => True) Initial state) :
    state.GivesBack where
  once reservation := by
    by_cases settled : .decremented reservation.mapping reservation.uid ∈ state.log
    · obtain ⟨number, mapped, -⟩ := (reachable_formed reached).events _ settled
      obtain ⟨metadata, life, lived, -⟩ := event_life reached settled mapped
      exact givenBack_once mapped lived
    · have kept : state.givenBack reservation = 0 := List.count_eq_zero_of_not_mem settled
      omega
  owed mapping uid settled := by
    obtain ⟨number, mapped, -⟩ := (reachable_formed reached).events _ settled
    obtain ⟨metadata, life, lived, -⟩ := event_life reached settled mapped
    obtain ⟨reservation, now, granted, same⟩ :=
      lived.accounts.owed mapping uid (mem_historyOn settled mapped)
    exact ⟨reservation, now, List.mem_of_mem_filter granted, same⟩
  renewed later earlier reservation now logged other before member same := by
    have granted : .reserved reservation now ∈ state.log := by simp [logged]
    obtain ⟨number, mapped, -⟩ := (reachable_formed reached).events _ granted
    obtain ⟨life, lived⟩ := event_split reached logged mapped
    exact lived.fresh (mem_historyOn member (same.trans mapped))
  published descriptor mapping timestamp prepared := by
    obtain ⟨number, mapped, -⟩ := (reachable_formed reached).events _ prepared
    obtain ⟨metadata, life, lived, -⟩ := event_life reached prepared mapped
    have settled := lived.accounts.prepared descriptor mapping timestamp
      (mem_historyOn prepared mapped)
    obtain ⟨reservation, now, granted, rfl, uid⟩ := lived.accounts.owed _ _ settled
    refine ⟨reservation, now, List.mem_of_mem_filter granted, rfl, uid, ?_⟩
    exact givenBack_one mapped lived (uid ▸ settled)
  cancelled reservation cancelled := by
    obtain ⟨number, mapped, -⟩ := (reachable_formed reached).events _ cancelled
    obtain ⟨metadata, life, lived, -⟩ := event_life reached cancelled mapped
    exact givenBack_one mapped lived
      (lived.accounts.cancelled reservation (mem_historyOn cancelled mapped))
  uncancelled reservation failed := by
    obtain ⟨number, mapped, -⟩ := (reachable_formed reached).events _ failed
    obtain ⟨metadata, life, lived, -⟩ := event_life reached failed mapped
    exact lived.cancels (mem_historyOn failed mapped)
  quarantined reservation failed := by
    obtain ⟨number, mapped, -⟩ := (reachable_formed reached).events _ failed
    obtain ⟨metadata, life, lived, -⟩ := event_life reached failed mapped
    exact givenBack_zero mapped (lived.kept (mem_historyOn failed mapped))
  withheld later earlier reservation logged other now granted same := by
    have failed : .prepareFailed reservation ∈ state.log := by simp [logged]
    obtain ⟨number, mapped, -⟩ := (reachable_formed reached).events _ failed
    obtain ⟨metadata, life, lived, -⟩ := event_life reached failed mapped
    rw [logged, historyOn_append, historyOn_own _ mapped] at lived
    have member := mem_historyOn granted (same.trans mapped)
    rw [lived.ended] at member
    exact absurd member (by simp)
  fate reservation now granted := by
    obtain ⟨number, mapped, -⟩ := (reachable_formed reached).events _ granted
    obtain ⟨metadata, life, lived, tracks⟩ := event_life reached granted mapped
    exact reservation_fate mapped lived tracks (mem_historyOn granted mapped)

/-- The operations which cancel a PublishBlock, and what they go on with: a cancel, a destruction,
a move assignment. -/
inductive CancelsAt (index : Nat) : Action → AfterCancel → Prop where
  | cancel : CancelsAt index (.cancel index) .idle
  | destroy : CancelsAt index (.destroy index) .destroyed
  | assign (source : Nat) (other : index ≠ source) :
      CancelsAt index (.moveAssign index source) (.assigning source)

variable {index : Nat} {after : AfterCancel}

/-- Each of them begins with the cancel of the reservation the PublishBlock owns, under the uid of
that reservation. -/
theorem cancel_begins {action : Action} (formed : state.Formed)
    (cancels : CancelsAt index action after)
    (owned : state.publishBlocks[index]? = some ⟨reservation, .idle true⟩)
    (moved : step state action = some next) :
    next.publishBlocks[index]? =
      some ⟨reservation, .cancelling (SettleCall.cancelPublish reservation.uid) after⟩ ∧
    next.log = state.log := by
  have begun : state.beginCancel index after ⟨reservation, .idle true⟩ = some next := by
    cases cancels with
    | cancel | destroy => simpa [step, owned] using moved
    | assign source other => simpa [step, owned, other] using moved
  have fits := formed.blocks _ (List.mem_of_getElem? owned)
  have own : reservation.publisherPid = state.pool.publisherPid ∧ reservation.mapping ≠ none :=
    ⟨fits.pid, fits.staged.mapped rfl⟩
  rw [State.beginCancel, if_pos own] at begun
  obtain rfl := Option.some.inj begun
  have inside := (List.getElem?_eq_some_iff.mp owned).1
  exact ⟨by simp [State.put, inside], rfl⟩

/-- Each of its operations goes on with it, or was its decrement and ends it. -/
theorem cancel_goes {call : SettleCall} (reached : Reachable step (fun _ _ => True) Initial state)
    (running : state.publishBlocks[index]? = some ⟨reservation, .cancelling call after⟩)
    (moved : step state (.advanceCancel index) = some next) :
    (∃ following, next.publishBlocks[index]? = some ⟨reservation, .cancelling following after⟩ ∧
      next.log = state.log) ∨
    (next.publishBlocks[index]? = some ⟨reservation, after.stage⟩ ∧
      next.log = .cancelled reservation :: .decremented reservation.mapping reservation.uid ::
        state.log) := by
  have formed := reachable_formed reached
  have inside := (List.getElem?_eq_some_iff.mp running).1
  have fits : reservation.mapping ≠ none ∧ call.Cancels reservation.uid :=
    (formed.blocks _ (List.mem_of_getElem? running)).staged
  obtain ⟨number, mapped⟩ := Option.ne_none_iff_exists'.mp fits.1
  simp only [step, running, Option.bind_some, State.advanceCancel] at moved
  obtain ⟨metadata, found, rfl⟩ := Option.map_eq_some_iff.mp moved
  have viewed := reachable_views reached number metadata (mapped ▸ found)
  have member : .settle call ∈ callsOn number state.mutex state.publishBlocks state.acquisitions :=
    PublishBlock.callsOn_mem running (by simp [PublishBlock.callsOn, mapped])
  have operation := call.step_operation state.clock metadata
  generalize call.step state.clock metadata = result at operation
  obtain ⟨changed, outcome⟩ := result
  cases outcome with
  | running following =>
    have silent : decrements reservation.mapping call = [] :=
      if_neg (viewed.settle_running member operation)
    exact .inl ⟨following, by simp [State.put, State.settle, State.write, inside],
      by simp [State.put, State.settle, silent]⟩
  | returned released =>
    obtain ⟨rfl, last⟩ := viewed.settle_released member operation
    have uid : call.uid = reservation.uid := fits.2.1
    have logged : decrements reservation.mapping call =
        [.decremented reservation.mapping reservation.uid] := by
      rw [decrements, if_pos last, uid]
    exact .inr ⟨by simp [State.put, State.settle, State.write, State.note, inside],
      by simp [State.put, State.settle, State.note, logged]⟩

/-- Over every run of PublishBlock operations, with every outcome of their parts and any
subscribers: each reservation is given back at most once, exactly once if it was published
or cancelled, never if its publication failed, and then its block is not granted again.
Whatever cancels a PublishBlock gives its reservation back before it goes on. -/
theorem reservation_returned_once (reached : Reachable step (fun _ _ => True) Initial state) :
    state.GivesBack ∧
    (∀ index reservation action after next, CancelsAt index action after →
      state.publishBlocks[index]? = some ⟨reservation, .idle true⟩ →
      step state action = some next → next.publishBlocks[index]? =
        some ⟨reservation, .cancelling (SettleCall.cancelPublish reservation.uid) after⟩) ∧
    ∀ index reservation call after next,
      state.publishBlocks[index]? = some ⟨reservation, .cancelling call after⟩ →
      step state (.advanceCancel index) = some next →
      (∃ following, next.publishBlocks[index]? = some ⟨reservation, .cancelling following after⟩) ∨
        (next.publishBlocks[index]? = some ⟨reservation, after.stage⟩ ∧
          .cancelled reservation ∈ next.log ∧ next.givenBack reservation = 1) := by
  refine ⟨reachable_givesBack reached, ?_, ?_⟩
  · intro index reservation action after next cancels owned moved
    exact (cancel_begins (reachable_formed reached) cancels owned moved).1
  · intro index reservation call after next running moved
    rcases cancel_goes reached running moved with ⟨following, goes, -⟩ | ⟨ended, logged⟩
    · exact .inl ⟨following, goes⟩
    · have member : .cancelled reservation ∈ next.log := by simp [logged]
      have later := Reachable.step state next (.advanceCancel index) reached trivial moved
      exact .inr ⟨ended, member, (reachable_givesBack later).cancelled reservation member⟩

/-- Publish a reservation, overwrite the next one behind its move, and fail to publish
the third. -/
def publishOverwriteFail : List Action :=
  initialiseOnce ++ acquireOnce ++ publishOnce 0 ++ [.tick gracePeriodUs] ++ acquireOnce ++
    [.moveConstruct 1, .moveAssign 2 0, .advanceCancel 2, .advanceCancel 2, .moveFrom 2] ++
    acquireOnce ++ [.preparePublish 3 true false 3]

/-- Where that run ends: the block is quarantined, and its PublishBlock owns nothing. -/
def quarantinedBlock : State :=
  { config := ⟨64, 0⟩
    pool := ⟨1, [⟨0, some 0, 4096, some ⟨Vector.replicate 64 0, [3]⟩, []⟩], 0, 64, 0, 7, true⟩
    initialising := none
    mutex := none
    publishBlocks := [⟨(reservationOf 5).moved, .idle false⟩,
      ⟨(reservationOf 6).moved, .idle false⟩, ⟨reservationOf 5, .idle false⟩,
      ⟨reservationOf 7, .idle false⟩]
    objects := [⟨0, ⟨7, 1, 0⟩⟩]
    acquisitions := []
    nextProcessBlockId := 1
    clock := 100001
    log := [.prepareFailed (reservationOf 7), .reserved (reservationOf 7) 100001,
      .cancelled (reservationOf 6), .decremented (some 0) 6, .reserved (reservationOf 6) 100001] ++
        publishedLog }

/-- The first two reservations were given back once, the third never. -/
theorem returned_quarantinedBlock : Reachable step (fun _ _ => True) Initial quarantinedBlock ∧
    quarantinedBlock.givenBack (reservationOf 5) ≤ 1 ∧
    quarantinedBlock.givenBack (reservationOf 6) = 1 ∧
    quarantinedBlock.givenBack (reservationOf 7) = 0 ∧
    quarantinedBlock.Unheld (reservationOf 7) := by
  have executed : run (guarded step (fun _ _ => True)) oneBlock publishOverwriteFail =
      some quarantinedBlock := by decide +kernel
  have reached : Reachable step (fun _ _ => True) Initial quarantinedBlock :=
    reachable_run publishOverwriteFail oneBlock _
      (.start oneBlock ⟨⟨64, 0⟩, 1, 7, 0, 1, by decide, by decide, rfl⟩) executed
  have returned := (reservation_returned_once reached).1
  have kept := returned.quarantined (reservationOf 7) (List.mem_cons_self ..)
  refine ⟨reached, returned.once _, ?_, kept, ?_⟩
  · exact returned.cancelled (reservationOf 6) (by decide +kernel)
  · rcases returned.fate (reservationOf 7) 100001 (by decide +kernel) with ⟨held, -⟩ | ⟨unheld, -⟩
    · obtain ⟨number, mapped, held⟩ := held
      obtain rfl : 0 = number := Option.some.inj mapped
      exact absurd held (by decide +kernel)
    · exact unheld

end Ros2CudaIpc.GpuBufferManager
