import Ros2CudaIpc.BlockProtocol

/-!
# Exact reference accounting on one block

Every atomic operation changes the count by exactly the change of its call's
share. Summed over all running calls, unsettled reservations and BufferRef
objects this gives the count itself, in every state any interleaving reaches
while a reservation's uid can still be issued.

The one operation outside this law is the store of zero after a claim found the
largest uid. It needs the maximal uid, which ends the block's reservations: no
publisher holds anything then or later. Both regimes together are preserved
without any assumption on the uid.
-/

namespace Ros2CudaIpc.BlockProtocol

open Reachability WeightedLists

/-- The operation which gives a claimed block back without looking at its count. -/
def Call.Overflows (call : Call) : Prop := ∃ now, call = .reserve ⟨now, .storeRefcount⟩

/-- What one regular operation does to the count, the uid and the shares: the count changes by
what the share changes. -/
structure Call.Counts (metadata changed : BlockMetadata) (call : Call) (progress : Progress) :
    Prop where
  count : changed.refcount + call.share = metadata.refcount + progress.share
  bounded : changed.refcount ≤ uint32Max
  room : changed.uid ≤ uint64Max
  uid : changed.uid = metadata.uid ∨ call.publisherShare = 1
  publisher : progress.publisherShare ≤ call.publisherShare ∨
    metadata.refcount = 0 ∧ progress.publisherShare = 1
  sound : progress.Sound changed.uid

section Operations

attribute [local simp] Call.Sound Progress.Sound Call.share Call.publisherShare Progress.share
  Progress.publisherShare Progress.calls Progress.reservations Progress.refs Progress.settlements
  reserveProgress settleProgress acquireProgress ReserveCall.share SettleCall.share
  AcquireCall.share acquiredRef BufferRef.share BufferRef.valid BufferRef.empty

/-- The operations of a reservation attempt other than the overflow store. The cases are its
positions. -/
theorem reserve_counts {clock : Nat} {metadata changed : BlockMetadata} {call : ReserveCall}
    {outcome : Outcome ReserveCall (Option Nat)}
    (operation : call.Operation clock metadata changed outcome)
    (sound : (Call.reserve call).Sound metadata.uid) (bounded : metadata.refcount ≤ uint32Max)
    (regular : ¬ (Call.reserve call).Overflows) (room : metadata.uid ≤ uint64Max) :
    (Call.reserve call).Counts metadata changed (reserveProgress outcome) := by
  cases operation with
  | overflowed now => exact absurd ⟨now, rfl⟩ regular
  | claimed now unreferenced =>
    have wordSized : 1 ≤ uint32Max := by decide
    constructor <;> simp_all
  | renewed now nextUid =>
    obtain ⟨rfl, below⟩ := sound
    constructor
    · rfl
    · exact bounded
    · exact below
    · exact .inr rfl
    · exact .inl (by simp)
    · simp
  | loaded now below =>
    have strictly : metadata.uid < uint64Max := by omega
    constructor <;> simp_all
  | _ =>
    constructor <;> simp_all

/-- The operations of a commit or cancel which holds its reservation. The cases are its positions.
-/
theorem settle_counts {clock : Nat} {metadata changed : BlockMetadata} {call : SettleCall}
    {outcome : Outcome SettleCall Bool}
    (operation : call.Operation clock metadata changed outcome)
    (sound : (Call.settle call).Sound metadata.uid) (held : call.share ≤ metadata.refcount)
    (bounded : metadata.refcount ≤ uint32Max) (room : metadata.uid ≤ uint64Max) :
    (Call.settle call).Counts metadata changed
      (settleProgress call.uid call.published outcome) := by
  cases operation with
  | released uid now published referenced =>
    have decreased := metadata.fetchSub_refcount (by omega)
    constructor
    · exact decreased
    · omega
    · exact room
    · exact .inl rfl
    · exact .inl (Nat.zero_le _)
    · simp
  | underflowed uid now published unreferenced =>
    have referenced : 1 ≤ metadata.refcount := held
    omega
  | _ =>
    constructor <;> simp_all

/-- Observing the count and retrying or refusing changes nothing, whatever count was observed. -/
theorem retry_counts {metadata : BlockMetadata} {call : AcquireCall} (unshared : call.share = 0)
    (bounded : metadata.refcount ≤ uint32Max) (room : metadata.uid ≤ uint64Max) :
    (Call.acquire call).Counts metadata metadata
      (acquireProgress call.uid (AcquireCall.retry call.uid metadata.refcount)) := by
  unfold AcquireCall.retry
  split
  · constructor <;> simp_all
  · have below : metadata.refcount < uint32Max := by omega
    constructor <;> simp_all

/-- The operations of an acquire. The cases are its positions; only the exchange and the rollback
change the count. -/
theorem acquire_counts {metadata changed : BlockMetadata} {call : AcquireCall}
    {outcome : Outcome AcquireCall Bool}
    (operation : call.Operation metadata changed outcome)
    (sound : (Call.acquire call).Sound metadata.uid) (held : call.share ≤ metadata.refcount)
    (bounded : metadata.refcount ≤ uint32Max) (room : metadata.uid ≤ uint64Max) :
    (Call.acquire call).Counts metadata changed (acquireProgress call.uid outcome) := by
  cases operation with
  | observed uid => exact retry_counts rfl bounded room
  | refused uid observedRef => exact retry_counts rfl bounded room
  | exchanged uid =>
    have below : metadata.refcount < uint32Max := sound
    constructor
    · simp
    · exact below
    · exact room
    · exact .inl rfl
    · exact .inl (Nat.zero_le _)
    · simp
  | rolledBack uid =>
    have referenced : 1 ≤ metadata.refcount := held
    have decreased := metadata.fetchSub_refcount referenced
    constructor
    · exact decreased
    · omega
    · exact room
    · exact .inl rfl
    · exact .inl (Nat.zero_le _)
    · simp
  | _ =>
    constructor <;> simp_all

/-- Outside the overflow store, an operation changes the count by the change of
its call's share, keeps positions consistent with the uid, and takes a
publisher reference only from an unreferenced block. -/
theorem Call.step_counts (call : Call) (clock : Nat) (spurious : Bool) (metadata : BlockMetadata)
    (sound : call.Sound metadata.uid) (held : call.share ≤ metadata.refcount)
    (bounded : metadata.refcount ≤ uint32Max) (regular : ¬ call.Overflows)
    (room : metadata.uid ≤ uint64Max) :
    call.Counts metadata (call.step clock spurious metadata).1
      (call.step clock spurious metadata).2 := by
  cases call with
  | reserve call =>
    exact reserve_counts (call.step_operation clock metadata) sound bounded regular room
  | settle call => exact settle_counts (call.step_operation clock metadata) sound held bounded room
  | acquire call =>
    exact acquire_counts (call.step_operation spurious metadata) sound held bounded room
  | underflowedRelease => exact sound.elim

end Operations

/-- A publisher's share is part of its call's share; subscribers' calls have none. -/
theorem Call.publisherShare_le (call : Call) : call.publisherShare ≤ call.share := by
  cases call <;> simp [Call.publisherShare, Call.share]

/-- A position without a publisher reference fits every uid, so it stays sound when another call
renews the uid. -/
theorem Call.Sound.of_unshared {call : Call} {uid : Nat} (sound : call.Sound uid)
    (unshared : call.publisherShare = 0) (other : Nat) : call.Sound other := by
  cases call with
  | reserve call =>
    obtain ⟨now, pc⟩ := call
    cases pc <;> simp_all [Call.Sound, Call.publisherShare, ReserveCall.share]
  | settle call =>
    obtain ⟨settled, published, now, pc⟩ := call
    cases pc <;> simp_all [Call.Sound, Call.publisherShare, SettleCall.share]
  | acquire call => exact sound
  | underflowedRelease => exact sound.elim

/-- The regular regime: the count is the sum of all shares, at most one of them
is a publisher's, and every position fits the current uid. -/
structure Accounted (state : State) : Prop where
  count : state.metadata.refcount = total Call.share state.calls + state.reservations.length +
    total BufferRef.share state.refs
  exclusive : total Call.publisherShare state.calls + state.reservations.length ≤ 1
  bounded : state.metadata.refcount ≤ uint32Max
  room : state.metadata.uid ≤ uint64Max
  current : ∀ uid ∈ state.reservations, uid = state.metadata.uid
  sound : ∀ call ∈ state.calls, call.Sound state.metadata.uid
  settled : ∀ settlement ∈ state.settlements, settlement.released = true

/-- A position which neither holds nor will return a reservation, as all positions on an exhausted
block are. -/
def Call.Barren : Call → Prop
  | .reserve call => ∀ uid, call.pc ≠ .storeUid uid ∧ call.pc ≠ .storeTimestamp uid
  | .settle _ => False
  | .acquire _ | .underflowedRelease => True

/-- The regime after an overflow store: the largest uid stays, and no publisher
holds or is about to return a reservation. -/
structure Exhausted (state : State) : Prop where
  last : state.metadata.uid = uint64Max
  unreserved : state.reservations = []
  barren : ∀ call ∈ state.calls, call.Barren
  settled : ∀ settlement ∈ state.settlements, settlement.released = true

/-- A fresh block is accounted: its count is zero, and nobody refers to it. -/
theorem initial_accounted (state : State) (initial : Initial state) : Accounted state := by
  obtain ⟨value, rfl⟩ := initial
  have range := BlockMetadata.initialUid_range value
  constructor <;> simp [BlockMetadata.create]
  omega

/-- Positions of other calls survive an operation: it changes the uid only with
the one publisher reference in its own hands. -/
theorem others_sound {metadata changed : BlockMetadata} {call : Call} {progress : Progress}
    {before after : List Call} {reservations : List Nat}
    (counts : call.Counts metadata changed progress)
    (exclusive : total Call.publisherShare (before ++ call :: after) + reservations.length ≤ 1)
    (sound : ∀ other ∈ before ++ call :: after, other.Sound metadata.uid)
    (current : ∀ uid ∈ reservations, uid = metadata.uid) :
    (∀ other ∈ before ++ after, other.Sound changed.uid) ∧
      ∀ uid ∈ reservations, uid = changed.uid := by
  rcases counts.uid with same | holder
  · rw [same]
    refine ⟨fun other member => sound other ?_, current⟩
    rcases List.mem_append.mp member with earlier | later
    · exact List.mem_append_left _ earlier
    · exact List.mem_append_right _ (List.mem_cons_of_mem _ later)
  · rw [total_append, total_cons] at exclusive
    have alone : total Call.publisherShare (before ++ after) = 0 := by
      rw [total_append]
      omega
    have empty : reservations = [] := List.eq_nil_of_length_eq_zero (by omega)
    refine ⟨fun other member => ?_, by simp [empty]⟩
    have unshared : other.publisherShare = 0 := by
      have light := weight_le_total Call.publisherShare _ other member
      omega
    have wasSound : other.Sound metadata.uid := sound other (by
      rcases List.mem_append.mp member with earlier | later
      · exact List.mem_append_left _ earlier
      · exact List.mem_append_right _ (List.mem_cons_of_mem _ later))
    exact wasSound.of_unshared unshared changed.uid

/-- A regular operation keeps the regular regime: its own share follows the
count, and everyone else's position stays valid. -/
theorem Accounted.advance {state : State} (accounted : Accounted state) {index : Nat} {call : Call}
    (running : state.calls[index]? = some call) (regular : ¬ call.Overflows)
    (clock : Nat) (spurious : Bool) :
    Accounted ({ state with metadata := (call.step clock spurious state.metadata).1 }.deliver index
      (call.step clock spurious state.metadata).2) := by
  obtain ⟨metadata, calls, reservations, refs, settlements⟩ := state
  obtain ⟨count, exclusive, bounded, room, current, sound, settled⟩ := accounted
  have split := split_found calls index call running
  simp only at count exclusive bounded room current sound settled
  rw [split] at sound exclusive count
  have held : call.share ≤ metadata.refcount := by
    simp only [total_append, total_cons] at count
    omega
  have counts := call.step_counts clock spurious metadata (sound call (by simp)) held bounded
    regular room
  simp only [State.deliver]
  generalize calls.take index = before at *
  generalize calls.drop (index + 1) = after at *
  generalize (call.step clock spurious metadata).2 = progress at *
  generalize (call.step clock spurious metadata).1 = changed at *
  obtain ⟨othersSound, stillCurrent⟩ := others_sound counts exclusive sound current
  obtain ⟨counted, stillBounded, stillRoom, _, publisher, progressSound⟩ := counts
  obtain ⟨callsSound, reservedCurrent, _, settledNow⟩ := progressSound
  have light := Call.publisherShare_le call
  constructor
  · simp only [total_append, total_cons, List.length_append, Progress.share] at *
    omega
  · have lightBefore := total_mono _ _ before (fun other _ => Call.publisherShare_le other)
    have lightAfter := total_mono _ _ after (fun other _ => Call.publisherShare_le other)
    simp only [total_append, total_cons, List.length_append, Progress.publisherShare] at *
    omega
  · exact stillBounded
  · exact stillRoom
  · intro uid member
    rcases List.mem_append.mp member with fresh | older
    · exact reservedCurrent uid fresh
    · exact stillCurrent uid older
  · intro other member
    simp only [List.append_assoc, List.mem_append] at member othersSound
    rcases member with earlier | own | later
    · exact othersSound other (.inl earlier)
    · exact callsSound other own
    · exact othersSound other (.inr later)
  · intro settlement member
    rcases List.mem_append.mp member with fresh | older
    · exact settledNow settlement fresh
    · exact settled settlement older

/-- Detaching a BufferRef gives back exactly its own reference, which the count
contains; the underflow branch is not taken. -/
theorem Accounted.release {state : State} (accounted : Accounted state) {index : Nat}
    {old : BufferRef} (found : state.refs[index]? = some old) :
    ∃ metadata, state.release old = { state with metadata := metadata } ∧
      metadata.uid = state.metadata.uid ∧
      metadata.refcount + old.share = state.metadata.refcount := by
  have held : old.share ≤ state.metadata.refcount := by
    have light := weight_le_total BufferRef.share state.refs old (List.mem_of_getElem? found)
    have count := accounted.count
    omega
  by_cases valid : old.valid = true
  · have one : old.share = 1 := by simp [BufferRef.share, valid]
    have referenced : state.metadata.refcount ≠ 0 := by omega
    have decreased := state.metadata.fetchSub_refcount (by omega)
    refine ⟨state.metadata.fetchSub, ?_, state.metadata.fetchSub_uid, one ▸ decreased⟩
    simp only [State.release, valid, if_true, referenced, if_false]
  · have shareless : old.share = 0 := by simp [BufferRef.share, valid]
    exact ⟨state.metadata, by simp [State.release, valid], rfl, by omega⟩

/-- Exchanging the BufferRef objects keeps the regular regime when the count
moves with their shares. -/
theorem Accounted.exchange {state : State} (accounted : Accounted state)
    {metadata : BlockMetadata} {refs : List BufferRef}
    (uid : metadata.uid = state.metadata.uid)
    (count : metadata.refcount + total BufferRef.share state.refs =
      state.metadata.refcount + total BufferRef.share refs)
    (fewer : metadata.refcount ≤ state.metadata.refcount) :
    Accounted { state with metadata := metadata, refs := refs } := by
  obtain ⟨counted, exclusive, bounded, room, current, sound, settled⟩ := accounted
  constructor
  · simp only
    omega
  · exact exclusive
  · exact Nat.le_trans fewer bounded
  · exact uid ▸ room
  · exact uid ▸ current
  · exact uid ▸ sound
  · exact settled

/-- A new call which holds nothing yet joins the running ones without a change to the count. -/
theorem Accounted.begin {state : State} (accounted : Accounted state) (call : Call)
    (unshared : call.share = 0) (sound : call.Sound state.metadata.uid) :
    Accounted { state with calls := state.calls ++ [call] } := by
  have light := Call.publisherShare_le call
  obtain ⟨count, exclusive, bounded, room, current, allSound, settled⟩ := accounted
  constructor
  · simp only [total_append, total_cons, total_nil]
    omega
  · simp only [total_append, total_cons, total_nil]
    omega
  · exact bounded
  · exact room
  · exact current
  · intro other member
    rcases List.mem_append.mp member with running | fresh
    · exact allSound other running
    · exact (List.mem_singleton.mp fresh) ▸ sound
  · exact settled

/-- A reservation handed to commit or cancel keeps its reference in the call, so the count stays
right. -/
theorem Accounted.settle {state : State} (accounted : Accounted state) {index uid : Nat}
    (found : state.reservations[index]? = some uid) (published : Bool) (now : Nat) :
    Accounted { state with
      reservations := state.reservations.eraseIdx index
      calls := state.calls ++ [.settle ⟨uid, published, now, .loadUid⟩] } := by
  obtain ⟨count, exclusive, bounded, room, current, sound, settled⟩ := accounted
  obtain ⟨before, after, same, removed, _⟩ := focus state.reservations index uid found
  have same_uid : uid = state.metadata.uid := current uid (List.mem_of_getElem? found)
  simp only [same, List.length_append, List.length_cons] at count exclusive
  constructor
  · simp only [removed, total_append, total_cons, total_nil, List.length_append, Call.share,
      SettleCall.share]
    omega
  · simp only [removed, total_append, total_cons, total_nil, List.length_append,
      Call.publisherShare, SettleCall.share]
    omega
  · exact bounded
  · exact room
  · intro other member
    exact current other (List.mem_of_mem_eraseIdx member)
  · intro other member
    rcases List.mem_append.mp member with running | fresh
    · exact sound other running
    · rw [List.mem_singleton.mp fresh]
      exact ⟨by simp, same_uid⟩
  · exact settled

/-- Every action other than an overflow store keeps the regular regime.

Proof: the target's old share leaves the count; the source's share changes place. -/
theorem step_accounted (state next : State) (action : Action) (accounted : Accounted state)
    (regular : ∀ index clock spurious call, action = .advance index clock spurious →
      state.calls[index]? = some call → ¬ call.Overflows)
    (moved : step state action = some next) : Accounted next := by
  cases action with
  | reserve =>
    obtain rfl := Option.some.inj moved
    exact accounted.begin _ rfl trivial
  | settle index published =>
    simp only [step] at moved
    cases found : state.reservations[index]? with
    | none => simp [found] at moved
    | some uid =>
      simp only [found, Option.some.injEq] at moved
      subst moved
      cases published with
      | true => exact accounted.settle found true 0
      | false => exact accounted.settle found false 0
  | acquire uid =>
    obtain rfl := Option.some.inj moved
    exact accounted.begin _ rfl trivial
  | advance index clock spurious =>
    simp only [step] at moved
    cases running : state.calls[index]? with
    | none => simp [running] at moved
    | some call =>
      simp only [running, Option.some.injEq] at moved
      subst moved
      exact accounted.advance running (regular index clock spurious call rfl running)
        clock spurious
  | moveConstruct source =>
    simp only [step] at moved
    cases found : state.refs[source]? with
    | none => simp [found] at moved
    | some reference =>
      simp only [found, Option.some.injEq] at moved
      subst moved
      have exchanged := total_set BufferRef.share state.refs source reference BufferRef.empty found
      refine accounted.exchange rfl ?_ (Nat.le_refl _)
      simp only [total_append, total_cons, total_nil, BufferRef.share_empty] at *
      omega
  | moveAssign target source =>
    simp only [step] at moved
    cases foundTarget : state.refs[target]? with
    | none => simp [foundTarget] at moved
    | some old =>
      cases foundSource : state.refs[source]? with
      | none => simp [foundTarget, foundSource] at moved
      | some reference =>
        simp only [foundTarget, foundSource] at moved
        by_cases self : target = source
        · simp only [self, if_true, Option.some.injEq] at moved
          exact moved ▸ accounted
        · simp only [self, if_false, Option.some.injEq] at moved
          obtain ⟨metadata, released, uid, count⟩ := accounted.release foundTarget
          rw [released] at moved
          subst moved
          have first := total_set BufferRef.share state.refs target old reference foundTarget
          have stillThere : (state.refs.set target reference)[source]? = some reference := by
            rw [getElem?_set_found _ _ _ _ _ foundTarget, if_neg self, foundSource]
          have second := total_set BufferRef.share _ source reference BufferRef.empty stillThere
          rw [BufferRef.share_empty] at second
          have counted : metadata.refcount + total BufferRef.share state.refs =
              state.metadata.refcount + total BufferRef.share
                ((state.refs.set target reference).set source BufferRef.empty) := by omega
          have fewer : metadata.refcount ≤ state.metadata.refcount := by omega
          exact accounted.exchange uid counted fewer
  | destroy index =>
    simp only [step] at moved
    cases found : state.refs[index]? with
    | none => simp [found] at moved
    | some old =>
      simp only [found, Option.some.injEq] at moved
      obtain ⟨metadata, released, uid, count⟩ := accounted.release found
      rw [released] at moved
      subst moved
      have removed := total_erase BufferRef.share state.refs index old found
      have counted : metadata.refcount + total BufferRef.share state.refs =
          state.metadata.refcount + total BufferRef.share (state.refs.eraseIdx index) := by omega
      have fewer : metadata.refcount ≤ state.metadata.refcount := by omega
      exact accounted.exchange uid counted fewer

/-- An overflow store ends the block's reservations: its own reference was the
only publisher's, so nobody holds one afterwards. -/
theorem Accounted.overflow {state : State} (accounted : Accounted state) {index : Nat}
    {call : Call} (running : state.calls[index]? = some call) (overflows : call.Overflows)
    (clock : Nat) (spurious : Bool) :
    Exhausted ({ state with metadata := (call.step clock spurious state.metadata).1 }.deliver index
      (call.step clock spurious state.metadata).2) := by
  obtain ⟨now, rfl⟩ := overflows
  obtain ⟨_, exclusive, _, _, _, sound, settled⟩ := accounted
  have split := split_found state.calls index _ running
  have last : state.metadata.uid = uint64Max := sound _ (List.mem_of_getElem? running)
  rw [split] at exclusive sound
  simp only [total_append, total_cons, Call.publisherShare, ReserveCall.share] at exclusive
  have unreserved : state.reservations = [] := List.eq_nil_of_length_eq_zero (by omega)
  refine ⟨last, unreserved, ?_, settled⟩
  intro other member
  simp only [State.deliver, Call.step, ReserveCall.step, reserveProgress, Progress.calls,
    List.append_nil] at member
  have unshared : other.publisherShare = 0 := by
    have light := weight_le_total Call.publisherShare _ other member
    simp only [total_append] at light
    omega
  have otherSound : other.Sound state.metadata.uid := sound other (by
    rcases List.mem_append.mp member with earlier | later
    · exact List.mem_append_left _ earlier
    · exact List.mem_append_right _ (List.mem_cons_of_mem _ later))
  cases other with
  | reserve other =>
    obtain ⟨otherNow, pc⟩ := other
    intro uid
    constructor <;> rintro rfl <;> simp [Call.publisherShare, ReserveCall.share] at unshared
  | settle other =>
    obtain ⟨uid, published, otherNow, pc⟩ := other
    obtain ⟨regular, _⟩ := otherSound
    cases pc <;>
      first | exact regular rfl | simp [Call.publisherShare, SettleCall.share] at unshared
  | acquire other => trivial
  | underflowedRelease => trivial

/-- An operation at the largest uid without a publisher returns no reservation
and leaves the uid alone. -/
theorem Call.Barren.step {call : Call} (barren : call.Barren) (clock : Nat) (spurious : Bool)
    (metadata : BlockMetadata) (last : metadata.uid = uint64Max) :
    (call.step clock spurious metadata).1.uid = uint64Max ∧
      (∀ other ∈ (call.step clock spurious metadata).2.calls, other.Barren) ∧
      (call.step clock spurious metadata).2.reservations = [] ∧
      (call.step clock spurious metadata).2.settlements = [] := by
  cases call with
  | reserve call =>
    have operation := call.step_operation clock metadata
    simp only [Call.step]
    generalize (call.step clock metadata).1 = changed at *
    generalize (call.step clock metadata).2 = outcome at *
    cases operation <;>
      simp_all [reserveProgress, Progress.calls, Progress.reservations, Progress.settlements,
        Call.Barren]
  | settle call => exact barren.elim
  | acquire call =>
    have operation := call.step_operation spurious metadata
    simp only [Call.step]
    generalize (call.step spurious metadata).1 = changed at *
    generalize (call.step spurious metadata).2 = outcome at *
    have quiet : ∀ (left : Outcome AcquireCall Bool),
        (∀ other ∈ (acquireProgress call.uid left).calls, other.Barren) ∧
          (acquireProgress call.uid left).reservations = [] ∧
          (acquireProgress call.uid left).settlements = [] := by
      intro left
      cases left <;> simp [acquireProgress, Progress.calls, Progress.reservations,
        Progress.settlements, Call.Barren]
    refine ⟨?_, quiet outcome⟩
    cases operation <;> exact last
  | underflowedRelease =>
    exact ⟨last, by simp [Call.step, Progress.calls], rfl, rfl⟩

/-- Detaching a BufferRef from an exhausted block leaves it exhausted, whatever the count becomes.
-/
theorem Exhausted.release {state : State} (exhausted : Exhausted state) (old : BufferRef)
    (refs : List BufferRef) : Exhausted { state.release old with refs := refs } := by
  obtain ⟨last, unreserved, barren, settled⟩ := exhausted
  unfold State.release
  split
  · refine ⟨last, unreserved, ?_, settled⟩
    intro call member
    simp only at member
    split at member
    · rcases List.mem_append.mp member with running | fresh
      · exact barren call running
      · exact (List.mem_singleton.mp fresh) ▸ trivial
    · exact barren call member
  · exact ⟨last, unreserved, barren, settled⟩

/-- No action leaves the exhausted regime, since no attempt on the block can be granted any more. -/
theorem step_exhausted (state next : State) (action : Action) (exhausted : Exhausted state)
    (moved : step state action = some next) : Exhausted next := by
  have kept := exhausted
  obtain ⟨last, unreserved, barren, settled⟩ := exhausted
  have begun (call : Call) (fresh : call.Barren) :
      Exhausted { state with calls := state.calls ++ [call] } := by
    refine ⟨last, unreserved, ?_, settled⟩
    intro other member
    rcases List.mem_append.mp member with running | own
    · exact barren other running
    · exact (List.mem_singleton.mp own) ▸ fresh
  cases action with
  | reserve =>
    obtain rfl := Option.some.inj moved
    exact begun _ (by simp [Call.Barren, ReserveCall.start])
  | settle index published => simp [step, unreserved] at moved
  | acquire uid =>
    obtain rfl := Option.some.inj moved
    exact begun _ trivial
  | advance index clock spurious =>
    simp only [step] at moved
    cases running : state.calls[index]? with
    | none => simp [running] at moved
    | some call =>
      simp only [running, Option.some.injEq] at moved
      subst moved
      obtain ⟨stays, calls, reservations, settlements⟩ :=
        (barren call (List.mem_of_getElem? running)).step clock spurious state.metadata last
      refine ⟨stays, by simp [State.deliver, reservations, unreserved], ?_,
        by simpa [State.deliver, settlements] using settled⟩
      intro other member
      simp only [State.deliver, List.append_assoc, List.mem_append] at member
      rcases member with earlier | own | later
      · exact barren other (List.mem_of_mem_take earlier)
      · exact calls other own
      · exact barren other (List.mem_of_mem_drop later)
  | moveConstruct source =>
    simp only [step] at moved
    cases found : state.refs[source]? with
    | none => simp [found] at moved
    | some reference =>
      simp only [found, Option.some.injEq] at moved
      subst moved
      exact ⟨last, unreserved, barren, settled⟩
  | moveAssign target source =>
    simp only [step] at moved
    cases foundTarget : state.refs[target]? with
    | none => simp [foundTarget] at moved
    | some old =>
      cases foundSource : state.refs[source]? with
      | none => simp [foundTarget, foundSource] at moved
      | some reference =>
        simp only [foundTarget, foundSource] at moved
        split at moved
        · exact (Option.some.inj moved) ▸ kept
        · exact (Option.some.inj moved) ▸ kept.release old _
  | destroy index =>
    simp only [step] at moved
    cases found : state.refs[index]? with
    | none => simp [found] at moved
    | some old =>
      simp only [found, Option.some.injEq] at moved
      exact moved ▸ kept.release old _

/-- One action from the regular regime: it stays, or its overflow store ends the
block's reservations at the largest uid. -/
theorem Accounted.step {state next : State} (accounted : Accounted state) {action : Action}
    (moved : step state action = some next) :
    Accounted next ∨ state.metadata.uid = uint64Max ∧ Exhausted next := by
  by_cases overflows : ∃ index clock spurious call, action = .advance index clock spurious ∧
      state.calls[index]? = some call ∧ call.Overflows
  · obtain ⟨index, clock, spurious, call, rfl, running, overflows⟩ := overflows
    simp only [BlockProtocol.step, running, Option.some.injEq] at moved
    subst moved
    have last : state.metadata.uid = uint64Max := by
      obtain ⟨now, rfl⟩ := overflows
      exact accounted.sound _ (List.mem_of_getElem? running)
    exact .inr ⟨last, accounted.overflow running overflows clock spurious⟩
  · refine .inl (step_accounted state next action accounted ?_ moved)
    intro index clock spurious call same running overflow
    exact overflows ⟨index, clock, spurious, call, same, running, overflow⟩

/-- Every run from a fresh block is in one of the two regimes, with no assumption on the uid. By
induction on the run. -/
theorem reachable_regime {admitted : State → Action → Prop} {state : State}
    (reached : Reachable step admitted Initial state) : Accounted state ∨ Exhausted state := by
  have initially : ∀ fresh, Initial fresh → Accounted fresh ∨ Exhausted fresh :=
    fun fresh initial => .inl (initial_accounted fresh initial)
  refine Reachable.invariant initially ?_ reached
  intro earlier later action _ regime _ moved
  rcases regime with accounted | exhausted
  · rcases accounted.step moved with still | ended
    · exact .inl still
    · exact .inr ended.2
  · exact .inr (step_exhausted earlier later action exhausted moved)

/-- The operating condition of a block's owner: the uid is below the largest
word whenever an action is taken. -/
def UidBelowMax (state : State) (_ : Action) : Prop := state.metadata.uid < uint64Max

instance (state : State) (action : Action) : Decidable (UidBelowMax state action) :=
  inferInstanceAs (Decidable (_ < _))

/-- Below the largest uid every run stays in the regular regime, where the count is exact. -/
theorem reachable_accounted {state : State} (reached : Reachable step UidBelowMax Initial state) :
    Accounted state := by
  refine Reachable.invariant initial_accounted ?_ reached
  intro earlier later action _ accounted below moved
  rcases accounted.step moved with still | ⟨last, _⟩
  · exact still
  · have strictly : earlier.metadata.uid < uint64Max := below
    omega

/-- An acquire between its successful exchange and its return or rollback, which holds one
reference. -/
def Call.exchanged : Call → Bool
  | .acquire call => call.pc = .recheckUid ∨ call.pc = .rollback
  | _ => false

/-- A reserve call past its successful claim, which holds one reference. -/
def Call.claimed : Call → Bool
  | .reserve call => call.share = 1
  | _ => false

/-- A commit or cancel which has not decremented yet, which holds one reference. -/
def Call.unsettled : Call → Bool
  | .settle call => call.pc ≠ .storeRefcount
  | _ => false

/-- A call whose next operation decrements the count, which must not be zero then. -/
def Call.decrements : Call → Bool
  | .settle call => call.pc = .fetchSub
  | .acquire call => call.pc = .rollback
  | _ => false

/-- Valid BufferRef objects; emptied ones hold nothing. -/
def State.validRefs (state : State) : Nat := state.refs.countP BufferRef.valid

/-- Acquire calls which hold a reference but have not returned it in a BufferRef. -/
def State.exchangedAcquires (state : State) : Nat := state.calls.countP Call.exchanged

/-- Returned reservations whose reference has not been given back, those of a running commit or
cancel included. -/
def State.outstanding (state : State) : Nat :=
  state.reservations.length + state.calls.countP Call.unsettled

/-- A reservation is outstanding or a reserve call is past its claim, so the publisher holds one
reference. -/
def State.publisherHolds (state : State) : Prop :=
  0 < state.outstanding ∨ ∃ call ∈ state.calls, call.claimed = true

instance (state : State) : Decidable state.publisherHolds :=
  inferInstanceAs (Decidable (_ ∨ _))

/-- The count in terms of its holders, and what follows for each caller: at most one reservation,
and decrements which never meet zero. -/
structure ExactCount (state : State) : Prop where
  count : state.metadata.refcount = state.validRefs + state.exchangedAcquires +
    if state.publisherHolds then 1 else 0
  oneReservation : state.outstanding ≤ 1
  settlesSucceed : ∀ settlement ∈ state.settlements, settlement.released = true
  decrementsCounted : ∀ call ∈ state.calls, call.decrements = true → state.metadata.refcount ≠ 0
  releasesCounted : ∀ reference ∈ state.refs, reference.valid = true → state.metadata.refcount ≠ 0
  neverUnderflowed : ∀ call ∈ state.calls, call ≠ .underflowedRelease ∧
    ∀ settle, call = .settle settle → settle.pc ≠ .storeRefcount
  fullRefuses : state.metadata.refcount = uint32Max → ∀ call, Call.acquire call ∈ state.calls →
    (call.pc = .loadRefcount ∨ ∃ observedRef, call.pc = .exchange observedRef) →
    ∀ spurious, call.step spurious state.metadata = (state.metadata, .returned false)
  returnsToZero : state.validRefs = 0 → state.exchangedAcquires = 0 → ¬ state.publisherHolds →
    state.metadata.refcount = 0

/-- A call's share is the indicator of its one holding role; it never has two of them. -/
theorem Call.share_eq (call : Call) : call.share =
    call.exchanged.toNat + (call.claimed.toNat + call.unsettled.toNat) := by
  cases call with
  | reserve call =>
    obtain ⟨now, pc⟩ := call
    cases pc <;> rfl
  | settle call =>
    obtain ⟨uid, published, now, pc⟩ := call
    cases pc <;> rfl
  | acquire call =>
    obtain ⟨uid, pc⟩ := call
    cases pc <;> rfl
  | underflowedRelease => rfl

/-- The publisher's part of a call's share is the indicator of its two roles there. -/
theorem Call.publisherShare_eq (call : Call) :
    call.publisherShare = call.claimed.toNat + call.unsettled.toNat := by
  cases call with
  | reserve call =>
    obtain ⟨now, pc⟩ := call
    cases pc <;> rfl
  | settle call =>
    obtain ⟨uid, published, now, pc⟩ := call
    cases pc <;> rfl
  | acquire call => rfl
  | underflowedRelease => rfl

/-- The summed shares of the calls count the calls in each holding role. -/
theorem total_call_share (calls : List Call) : total Call.share calls =
    calls.countP Call.exchanged + (calls.countP Call.claimed + calls.countP Call.unsettled) := by
  rw [total_congr Call.share _ calls (fun call _ => call.share_eq), total_add, total_add,
    total_toNat, total_toNat, total_toNat]

/-- The summed publisher's parts count the calls in the publisher's two roles. -/
theorem total_publisher_share (calls : List Call) : total Call.publisherShare calls =
    calls.countP Call.claimed + calls.countP Call.unsettled := by
  rw [total_congr Call.publisherShare _ calls (fun call _ => call.publisherShare_eq), total_add,
    total_toNat, total_toNat]

/-- The summed shares of the BufferRef objects count the valid ones. -/
theorem total_ref_share (refs : List BufferRef) :
    total BufferRef.share refs = refs.countP BufferRef.valid := by
  rw [← total_toNat]
  refine total_congr _ _ refs (fun reference _ => ?_)
  unfold BufferRef.share
  cases reference.valid <;> rfl

/-- A publisher holds the block exactly when a publisher's share is counted, in a reservation or
in a call. -/
theorem publisherHolds_iff (state : State) : state.publisherHolds ↔
    0 < state.outstanding + state.calls.countP Call.claimed := by
  have claims : (∃ call ∈ state.calls, call.claimed = true) ↔
      0 < state.calls.countP Call.claimed := List.countP_pos_iff.symm
  unfold State.publisherHolds
  rw [claims]
  omega

/-- The count in its holders' terms: valid BufferRefs, exchanged acquires, and one for the
publisher if it holds. -/
theorem Accounted.count_eq {state : State} (accounted : Accounted state) :
    state.metadata.refcount = state.validRefs + state.exchangedAcquires +
      if state.publisherHolds then 1 else 0 := by
  have counted := accounted.count
  have exclusive := accounted.exclusive
  rw [total_call_share, total_ref_share] at counted
  rw [total_publisher_share] at exclusive
  have holds := publisherHolds_iff state
  unfold State.outstanding at holds
  unfold State.validRefs State.exchangedAcquires
  by_cases held : state.publisherHolds
  · have one := holds.mp held
    rw [if_pos held]
    omega
  · have unclaimed : ¬ 0 < state.reservations.length + state.calls.countP Call.unsettled +
        state.calls.countP Call.claimed := fun positive => held (holds.mpr positive)
    rw [if_neg held]
    omega

/-- A call with a share is in the count, so the count is not zero while it runs. -/
theorem Accounted.holder_counted {state : State} (accounted : Accounted state) {call : Call}
    (member : call ∈ state.calls) (holds : 0 < call.share) : state.metadata.refcount ≠ 0 := by
  have light := weight_le_total Call.share state.calls call member
  have counted := accounted.count
  omega

/-- In the regular regime the count is exact in its callers' terms, and each caller's decrement
succeeds. -/
theorem Accounted.exactCount {state : State} (accounted : Accounted state) : ExactCount state := by
  constructor
  · exact accounted.count_eq
  · have exclusive := accounted.exclusive
    rw [total_publisher_share] at exclusive
    unfold State.outstanding
    omega
  · exact accounted.settled
  · intro call member decrements
    refine accounted.holder_counted member ?_
    cases call with
    | settle call =>
      have position : call.pc = .fetchSub := by simpa [Call.decrements] using decrements
      simp [Call.share, SettleCall.share, position]
    | acquire call =>
      have position : call.pc = .rollback := by simpa [Call.decrements] using decrements
      simp [Call.share, AcquireCall.share, position]
    | reserve _ | underflowedRelease => simp [Call.decrements] at decrements
  · intro reference member valid
    have light := weight_le_total BufferRef.share state.refs reference member
    have one : reference.share = 1 := by simp [BufferRef.share, valid]
    have counted := accounted.count
    omega
  · intro call member
    have sound := accounted.sound call member
    refine ⟨?_, ?_⟩
    · rintro rfl
      exact sound
    · rintro settle rfl
      exact sound.1
  · intro full call member position spurious
    have sound := accounted.sound _ member
    obtain ⟨uid, pc⟩ := call
    rcases position with rfl | ⟨observedRef, rfl⟩
    · simp [AcquireCall.step, AcquireCall.retry, full]
    · have below : observedRef < uint32Max := sound
      have moved : state.metadata.refcount ≠ observedRef := by omega
      simp [AcquireCall.step, AcquireCall.retry, full, full ▸ moved]
  · intro noRefs noAcquires noPublisher
    rw [accounted.count_eq, noRefs, noAcquires, if_neg noPublisher]

/-- Exact reference accounting. Whatever the publishers and subscribers of one
block do, and however their operations interleave, as long as the uid stays
below its largest word the count equals its holders, one reservation at most is
outstanding, every commit and cancel succeeds, no decrement meets a zero count,
a full count refuses an acquire unchanged, and the count returns to zero. -/
theorem reference_accounting (state : State) (reached : Reachable step UidBelowMax Initial state) :
    ExactCount state :=
  (reachable_accounted reached).exactCount

/-- A publication and a read of it: reserve, commit, acquire, move, destroy, and one more attempt.
-/
def publishAndRead : List Action :=
  [.reserve] ++ List.replicate 7 (.advance 0 1 false) ++
    [.settle 0 true] ++ List.replicate 4 (.advance 0 1 false) ++
    [.acquire 6] ++ List.replicate 3 (.advance 0 1 true) ++
    List.replicate 2 (.advance 0 1 false) ++ [.moveConstruct 0, .moveAssign 0 1, .reserve]

/-- The accounting at the end of that run, with the moved BufferRef alive and counted once. -/
theorem reference_accounting_published : ∃ state,
    run (guarded step UidBelowMax) ⟨BlockMetadata.create 5, [], [], [], []⟩ publishAndRead =
      some state ∧ state.metadata.refcount = 1 ∧ ExactCount state :=
  ⟨⟨⟨6, 1, 1⟩, [.reserve ReserveCall.start], [], [⟨true, 6⟩, BufferRef.empty], [⟨6, true, true⟩]⟩,
    by decide, rfl, reference_accounting _ (reachable_run publishAndRead _ _
      (.start ⟨BlockMetadata.create 5, [], [], [], []⟩ ⟨5, rfl⟩) (by decide))⟩

end Ros2CudaIpc.BlockProtocol
