import Ros2CudaIpc.ReferenceAccounting

/-!
# A block seen through its words, calls, reservations and references

Whoever tracks a block's calls in an order of their own sees a state of the block
protocol up to permutation, with the empty BufferRef objects left out. Such a
view, together with the reservations granted and settled so far, follows the
protocol operation by operation, so what holds of every
reachable block can be read off the view.
-/

namespace Ros2CudaIpc.BlockProtocol

open Reachability WeightedLists

/-- An operation of a reservation attempt is its step, with the outcome turned into the progress
of a call. The spurious failure of the exchange is not part of a strong one. -/
theorem reserve_step {clock : Nat} {metadata changed : BlockMetadata} {call : ReserveCall}
    {outcome : Outcome ReserveCall (Option Nat)}
    (operation : call.Operation clock metadata changed outcome) (spurious : Bool) :
    (Call.reserve call).step clock spurious metadata = (changed, reserveProgress outcome) := by
  cases operation <;> simp_all [Call.step, ReserveCall.step]

/-- An operation of a commit or cancel is its step, with the outcome turned into the progress of a
call and its settlement. -/
theorem settle_step {clock : Nat} {metadata changed : BlockMetadata} {call : SettleCall}
    {outcome : Outcome SettleCall Bool} (operation : call.Operation clock metadata changed outcome)
    (spurious : Bool) : (Call.settle call).step clock spurious metadata =
      (changed, settleProgress call.uid call.published outcome) := by
  cases operation <;> simp_all [Call.step, SettleCall.step]

/-- An operation of an acquire is its step when the weak exchange decides so. -/
theorem acquire_step {metadata changed : BlockMetadata} {call : AcquireCall}
    {outcome : Outcome AcquireCall Bool} (operation : call.Operation metadata changed outcome)
    (clock : Nat) : ∃ spurious, (Call.acquire call).step clock spurious metadata =
      (changed, acquireProgress call.uid outcome) := by
  cases operation with
  | exchanged uid => exact ⟨false, by simp [Call.step, AcquireCall.step]⟩
  | refused uid observedRef => exact ⟨true, by simp [Call.step, AcquireCall.step]⟩
  | stale | matched | observed | superseded | confirmed | rolledBack =>
    refine ⟨false, ?_⟩
    simp_all [Call.step, AcquireCall.step]

/-- A running acquire keeps the uid it was called with over each of its operations, so the
reference it returns carries the uid asked for. -/
theorem acquire_uid {metadata changed : BlockMetadata} {call next : AcquireCall}
    {outcome : Outcome AcquireCall Bool} (operation : call.Operation metadata changed outcome)
    (running : outcome = .running next) : next.uid = call.uid := by
  have retried {uid observedRef : Nat} (again : AcquireCall.retry uid observedRef = .running next) :
      next.uid = uid := by
    unfold AcquireCall.retry at again
    split at again
    · simp at again
    · exact (Outcome.running.inj again) ▸ rfl
  cases operation with
  | observed uid | refused uid observedRef => exact retried running
  | matched | exchanged | superseded => exact (Outcome.running.inj running) ▸ rfl
  | stale | confirmed | rolledBack => simp at running

/-- The uid of the reservation a running commit or cancel is settling. Other calls settle nothing.
-/
def Call.unsettledUids : Call → List Nat
  | .settle call => [call.uid]
  | _ => []

/-- The uid of the reservation a returning commit or cancel has settled, whether it gave the count
back or refused. -/
def Progress.settledUids (progress : Progress) : List Nat := progress.settlements.map Settlement.uid

/-- A reachable block in any order, without its empty BufferRef objects, and the
account of its reservations: each granted one is unsettled, in a running commit or
cancel, or settled. -/
def Viewed (metadata : BlockMetadata) (calls : List Call) (reservations : List Nat)
    (refs : List BufferRef) (granted settled : List Nat) : Prop :=
  (∃ block, Reachable step (fun _ _ => True) Initial block ∧ block.metadata = metadata ∧
    block.calls.Perm calls ∧ block.reservations.Perm reservations ∧
      (block.refs.filter BufferRef.valid).Perm refs) ∧
  granted.Perm (reservations ++ (calls.flatMap Call.unsettledUids ++ settled))

variable {metadata : BlockMetadata} {calls changedCalls rest : List Call}
  {reservations changedReservations : List Nat} {refs changedRefs : List BufferRef}
  {granted settled : List Nat}

/-- The order of a view does not matter, so the holders of calls, reservations and references may
be listed as the model above keeps them. -/
theorem Viewed.permute (viewed : Viewed metadata calls reservations refs granted settled)
    (sameCalls : calls.Perm changedCalls) (sameReservations : reservations.Perm changedReservations)
    (sameRefs : refs.Perm changedRefs) :
    Viewed metadata changedCalls changedReservations changedRefs granted settled := by
  obtain ⟨⟨block, reached, words, callsAgree, reservationsAgree, refsAgree⟩, account⟩ := viewed
  refine ⟨⟨block, reached, words, callsAgree.trans sameCalls,
    reservationsAgree.trans sameReservations, refsAgree.trans sameRefs⟩, account.trans ?_⟩
  exact sameReservations.append ((sameCalls.flatMap_right _).append_right _)

/-- A created block on which nobody operates is a view of the initial state, whatever uid the
random device has given it. -/
theorem viewed_create (value : UInt64) : Viewed (BlockMetadata.create value) [] [] [] [] [] :=
  ⟨⟨⟨BlockMetadata.create value, [], [], [], []⟩, .start _ ⟨value, rfl⟩, rfl, List.Perm.refl _,
    List.Perm.refl _, List.Perm.refl _⟩, List.Perm.refl _⟩

/-- A new reservation attempt adds its call to the view and nothing else. It has not touched the
block yet. -/
theorem Viewed.reserve (viewed : Viewed metadata calls reservations refs granted settled) :
    Viewed metadata (.reserve ReserveCall.start :: calls) reservations refs granted settled := by
  obtain ⟨⟨block, reached, words, callsAgree, reservationsAgree, refsAgree⟩, account⟩ := viewed
  refine ⟨⟨_, .step block _ .reserve reached trivial rfl, words, ?_, reservationsAgree, refsAgree⟩,
    account⟩
  exact List.perm_append_comm.trans (callsAgree.cons _)

/-- A new acquire adds its call to the view, for whatever uid it asks. It has not touched the
block yet. -/
theorem Viewed.acquire (viewed : Viewed metadata calls reservations refs granted settled)
    (uid : Nat) :
    Viewed metadata (.acquire (AcquireCall.start uid) :: calls) reservations refs granted
      settled := by
  obtain ⟨⟨block, reached, words, callsAgree, reservationsAgree, refsAgree⟩, account⟩ := viewed
  refine ⟨⟨_, .step block _ (.acquire uid) reached trivial rfl, words, ?_, reservationsAgree,
    refsAgree⟩, account⟩
  exact List.perm_append_comm.trans (callsAgree.cons _)

/-- A reservation is handed to a commit or a cancel: the outstanding uid becomes that of a running
call, and neither granted nor settled changes. -/
theorem Viewed.settle {uid : Nat} {others : List Nat}
    (viewed : Viewed metadata calls reservations refs granted settled)
    (held : reservations.Perm (uid :: others)) (published : Bool) :
    Viewed metadata (.settle ⟨uid, published, 0, .loadUid⟩ :: calls) others refs granted
      settled := by
  obtain ⟨⟨block, reached, words, callsAgree, reservationsAgree, refsAgree⟩, account⟩ := viewed
  have agreed := reservationsAgree.trans held
  obtain ⟨index, found⟩ := List.getElem?_of_mem (agreed.mem_iff.mpr (List.mem_cons_self ..))
  have moved : step block (.settle index published) = some { block with
      reservations := block.reservations.eraseIdx index
      calls := block.calls ++ [.settle ⟨uid, published, 0, .loadUid⟩] } := by
    cases published <;> simp [step, found, SettleCall.commitPublish, SettleCall.cancelPublish]
  refine ⟨⟨_, .step block _ _ reached trivial moved, words, ?_, ?_, refsAgree⟩, ?_⟩
  · exact List.perm_append_comm.trans (callsAgree.cons _)
  · obtain ⟨before, after, split, removed, -⟩ := focus _ index uid found
    rw [removed]
    rw [split] at agreed
    exact (List.perm_middle.symm.trans agreed).cons_inv
  · refine (account.trans (held.append_right _)).trans ?_
    exact List.perm_middle.symm

/-- What a call is settling passes to what its operation leaves: a call which goes on still
settles it, and one which returns has settled it. -/
theorem unsettledUids_step (call : Call) (clock : Nat) (spurious : Bool)
    (metadata : BlockMetadata) : call.unsettledUids =
      (call.step clock spurious metadata).2.calls.flatMap Call.unsettledUids ++
        (call.step clock spurious metadata).2.settledUids := by
  cases call with
  | reserve call =>
    simp only [Call.step]
    cases (call.step clock metadata).2 <;> rfl
  | acquire call =>
    simp only [Call.step]
    cases (call.step spurious metadata).2 <;> rfl
  | underflowedRelease => rfl
  | settle call =>
    have operation := call.step_operation clock metadata
    simp only [Call.step]
    generalize call.step clock metadata = after at operation
    obtain ⟨changed, outcome⟩ := after
    cases operation <;> rfl

/-- A running call performs its next operation. Each of the three kinds of call is a step of the
protocol, and the granted and settled uids grow by what it reports. -/
theorem Viewed.advance {call : Call} {changed : BlockMetadata} {progress : Progress}
    {clock : Nat} {spurious : Bool}
    (viewed : Viewed metadata calls reservations refs granted settled)
    (running : calls.Perm (call :: rest))
    (moved : call.step clock spurious metadata = (changed, progress)) :
    Viewed changed (progress.calls ++ rest) (progress.reservations ++ reservations)
      (refs ++ progress.refs.filter BufferRef.valid) (progress.reservations ++ granted)
      (progress.settledUids ++ settled) := by
  obtain ⟨⟨block, reached, rfl, callsAgree, reservationsAgree, refsAgree⟩, account⟩ := viewed
  have agreed := callsAgree.trans running
  obtain ⟨index, found⟩ := List.getElem?_of_mem (agreed.mem_iff.mpr (List.mem_cons_self ..))
  have taken : step block (.advance index clock spurious) =
      some ({ block with metadata := changed }.deliver index progress) := by
    simp only [step, found, moved]
  refine ⟨⟨_, .step block _ _ reached trivial taken, rfl, ?_, ?_, ?_⟩, ?_⟩
  · have split := split_found _ index call found
    rw [split] at agreed
    have others := (List.perm_middle.symm.trans agreed).cons_inv
    simp only [State.deliver]
    refine List.Perm.trans ?_ (others.append_left progress.calls)
    rw [List.append_assoc, ← List.append_assoc]
    exact (List.perm_append_comm.append_right _).trans (List.Perm.of_eq (List.append_assoc ..))
  · exact reservationsAgree.append_left _
  · simp only [State.deliver, List.filter_append]
    exact refsAgree.append_right _
  · have passes := unsettledUids_step call clock spurious block.metadata
    rw [moved] at passes
    have before := account.trans (((running.flatMap_right _).append_right _).append_left _)
    refine List.perm_iff_count.mpr fun uid => ?_
    have counted := before.count_eq uid
    simp only [List.flatMap_cons, List.flatMap_append, List.count_append, passes] at counted ⊢
    omega

/-- A valid BufferRef is destroyed and its count goes down. Should the count have been zero, the
release goes on to store zero again, which is one more call. -/
theorem Viewed.release {uid : Nat} {others : List BufferRef}
    (viewed : Viewed metadata calls reservations refs granted settled)
    (held : refs.Perm (⟨true, uid⟩ :: others)) :
    Viewed metadata.fetchSub
      ((if metadata.refcount = 0 then [.underflowedRelease] else []) ++ calls) reservations
      others granted settled := by
  obtain ⟨⟨block, reached, rfl, callsAgree, reservationsAgree, refsAgree⟩, account⟩ := viewed
  have agreed := refsAgree.trans held
  have member : (⟨true, uid⟩ : BufferRef) ∈ block.refs :=
    List.mem_of_mem_filter (agreed.mem_iff.mpr (List.mem_cons_self ..))
  obtain ⟨index, found⟩ := List.getElem?_of_mem member
  have moved : step block (.destroy index) = some { block with
      metadata := block.metadata.fetchSub
      refs := block.refs.eraseIdx index
      calls := if block.metadata.refcount = 0 then block.calls ++ [.underflowedRelease]
        else block.calls } := by
    simp [step, found, State.release, BufferRef.valid]
  refine ⟨⟨_, .step block _ _ reached trivial moved, rfl, ?_, reservationsAgree, ?_⟩, ?_⟩
  · simp only
    split
    · exact List.perm_append_comm.trans (callsAgree.cons _)
    · exact callsAgree
  · obtain ⟨before, after, split, removed, -⟩ := focus _ index _ found
    simp only [removed]
    rw [split, List.filter_append, List.filter_cons_of_pos (by rfl)] at agreed
    rw [List.filter_append]
    exact (List.perm_middle.symm.trans agreed).cons_inv
  · refine account.trans (List.Perm.of_eq ?_)
    split <;> simp [Call.unsettledUids]

/-- No commit or cancel runs on an exhausted block, since no reservation could be granted on it
for one to settle. -/
theorem Exhausted.unsettled {state : State} (exhausted : Exhausted state) :
    state.calls.countP Call.unsettled = 0 := by
  apply List.countP_eq_zero.mpr
  intro call member
  have barren := exhausted.barren call member
  cases call <;> simp_all [Call.Barren, Call.unsettled]

/-- At most one reservation of a block is outstanding, counting those in a running commit or
cancel. Below the largest uid the shares of the count say so; beyond it there are none. -/
theorem Viewed.exclusive (viewed : Viewed metadata calls reservations refs granted settled) :
    reservations.length + calls.countP Call.unsettled ≤ 1 := by
  obtain ⟨⟨block, reached, rfl, callsAgree, reservationsAgree, -⟩, -⟩ := viewed
  rw [← reservationsAgree.length_eq, ← callsAgree.countP_eq]
  rcases reachable_regime reached with accounted | exhausted
  · have exclusive := accounted.exclusive
    rw [total_publisher_share] at exclusive
    omega
  · rw [exhausted.unsettled, exhausted.unreserved]
    decide

/-- A commit or cancel carries the current uid and never underflowed, so neither its check of the
uid nor its count can refuse it. -/
theorem Viewed.settles (viewed : Viewed metadata calls reservations refs granted settled)
    {call : SettleCall} (running : .settle call ∈ calls) :
    call.pc ≠ .storeRefcount ∧ call.uid = metadata.uid := by
  obtain ⟨⟨block, reached, rfl, callsAgree, -, -⟩, -⟩ := viewed
  have member := callsAgree.mem_iff.mpr running
  rcases reachable_regime reached with accounted | exhausted
  · exact accounted.sound _ member
  · exact (exhausted.barren _ member).elim

/-- An operation with which a commit or cancel returns does not refuse it. Both refusals, the
other uid and the count of zero, contradict `Viewed.settles`. -/
theorem Viewed.settle_released (viewed : Viewed metadata calls reservations refs granted settled)
    {call : SettleCall} (running : .settle call ∈ calls) {clock : Nat} {changed : BlockMetadata}
    {released : Bool} (operation : call.Operation clock metadata changed (.returned released)) :
    released = true ∧ call.pc = .fetchSub := by
  obtain ⟨inRange, current⟩ := viewed.settles running
  cases operation with
  | mismatched uid now published other => exact absurd current.symm other
  | released uid now published referenced => exact ⟨rfl, rfl⟩
  | zeroed uid now published => exact absurd rfl inRange

/-- The decrement of a commit or cancel is its last operation: it goes on only when the count was
zero, and its own share excludes that. -/
theorem Viewed.settle_running (viewed : Viewed metadata calls reservations refs granted settled)
    {call next : SettleCall} (running : .settle call ∈ calls) {clock : Nat}
    {changed : BlockMetadata} (operation : call.Operation clock metadata changed (.running next)) :
    call.pc ≠ .fetchSub := by
  obtain ⟨⟨block, reached, rfl, callsAgree, -, -⟩, -⟩ := viewed
  have member := callsAgree.mem_iff.mpr running
  cases operation with
  | underflowed uid now published unreferenced =>
    rcases reachable_regime reached with accounted | exhausted
    · exact absurd unreferenced (accounted.holder_counted member Nat.zero_lt_one)
    · exact (exhausted.barren _ member).elim
  | committing | cancelling | sampled | stamped => simp

/-- Without an unsettled commit or cancel in the count there is none at all, because each running
one counts as unsettled. -/
theorem Viewed.unsettling (viewed : Viewed metadata calls reservations refs granted settled)
    (unsettled : calls.countP Call.unsettled = 0) (call : SettleCall) : .settle call ∉ calls := by
  intro running
  refine List.countP_eq_zero.mp unsettled _ running ?_
  simp [Call.unsettled, (viewed.settles running).1]

/-- A reserve call which has read the uid is about to store its successor, or has. -/
theorem Viewed.renews (viewed : Viewed metadata calls reservations refs granted settled)
    {call : ReserveCall} (running : .reserve call ∈ calls) {nextUid : Nat} :
    (call.pc = .storeUid nextUid → nextUid = metadata.uid + 1) ∧
      (call.pc = .storeTimestamp nextUid → nextUid = metadata.uid) := by
  obtain ⟨⟨block, reached, rfl, callsAgree, -, -⟩, -⟩ := viewed
  have member := callsAgree.mem_iff.mpr running
  rcases reachable_regime reached with accounted | exhausted
  · have sound := accounted.sound _ member
    refine ⟨fun position => ?_, fun position => ?_⟩
    · simp only [Call.Sound, position] at sound
      exact sound.1
    · simpa only [Call.Sound, position] using sound
  · have barren := exhausted.barren _ member nextUid
    exact ⟨fun position => absurd position barren.1, fun position => absurd position barren.2⟩

/-- While a reserve call is past its claim, no reservation is outstanding and no commit or cancel
is unsettled: the claim has taken the one publisher share. -/
theorem Viewed.claimed (viewed : Viewed metadata calls reservations refs granted settled)
    {call : ReserveCall} (running : .reserve call ∈ calls) (holds : call.share = 1) :
    reservations = [] ∧ calls.countP Call.unsettled = 0 := by
  obtain ⟨⟨block, reached, rfl, callsAgree, reservationsAgree, -⟩, -⟩ := viewed
  have member := callsAgree.mem_iff.mpr running
  rw [← callsAgree.countP_eq]
  have empty : block.reservations = [] ∧ block.calls.countP Call.unsettled = 0 := by
    rcases reachable_regime reached with accounted | exhausted
    · have exclusive := accounted.exclusive
      rw [total_publisher_share] at exclusive
      have claims : 0 < block.calls.countP Call.claimed :=
        List.countP_pos_iff.mpr ⟨_, member, by simp [Call.claimed, holds]⟩
      exact ⟨List.eq_nil_of_length_eq_zero (by omega), by omega⟩
    · exact ⟨exhausted.unreserved, exhausted.unsettled⟩
  rw [empty.1] at reservationsAgree
  exact ⟨reservationsAgree.nil_eq.symm, empty.2⟩

/-- An unreferenced block below the largest uid has no outstanding reservation and no running
commit or cancel, as each of these would hold one count. -/
theorem Viewed.unreferenced (viewed : Viewed metadata calls reservations refs granted settled)
    (unreferenced : metadata.refcount = 0) (below : metadata.uid < uint64Max) :
    reservations = [] ∧ ∀ call, .settle call ∉ calls := by
  obtain ⟨⟨block, reached, rfl, callsAgree, reservationsAgree, -⟩, -⟩ := viewed
  rcases reachable_regime reached with accounted | exhausted
  · have counted := accounted.count
    refine ⟨?_, fun call running => ?_⟩
    · have empty : block.reservations = [] := List.eq_nil_of_length_eq_zero (by omega)
      rw [empty] at reservationsAgree
      exact reservationsAgree.nil_eq.symm
    · have member := callsAgree.mem_iff.mpr running
      have inRange : call.pc ≠ .storeRefcount := (accounted.sound _ member).1
      refine accounted.holder_counted member ?_ unreferenced
      obtain ⟨uid, published, now, pc⟩ := call
      cases pc <;> simp_all [Call.share, SettleCall.share]
  · have last := exhausted.last
    omega

end Ros2CudaIpc.BlockProtocol
