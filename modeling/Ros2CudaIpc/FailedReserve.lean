import Ros2CudaIpc.ReferenceAccounting

/-!
# A reservation attempt among subscribers

One `reserve_for_publish` call runs while any number of subscribers acquire and
release on the same block. What the attempt itself writes to the count is summed up
beside it. An attempt which fails must leave nothing behind: its writes cancel out,
the other words are as it found them, and the count is still the number of
references.

Three of its four failing exits come before any write. The fourth comes behind the
claim, at the largest uid, and stores zero where it should take back one: a
subscriber which acquired meanwhile is no longer counted.
-/

namespace Ros2CudaIpc.BlockProtocol

open Reachability WeightedLists

/-- A call a subscriber makes: an acquire, or the second half of a release which found the count
at zero. -/
def Call.bySubscriber : Call → Bool
  | .acquire _ | .underflowedRelease => true
  | .reserve _ | .settle _ => false

/-- An action a subscriber takes. A step belongs to whoever made the call at its index, which the
state decides. -/
def Action.bySubscriber : Action → Bool
  | .reserve | .settle _ _ => false
  | .acquire _ | .advance _ _ _ | .moveConstruct _ | .moveAssign _ _ | .destroy _ => true

/-- The same action beside one more call in front, the attempt's own, which moves every
subscriber's call up by one. -/
def Action.shift : Action → Action
  | .advance index clock spurious => .advance (index + 1) clock spurious
  | action => action

variable {block next : State} {action : Action}

/-- Subscribers leave the uid, the timestamp and the reservations alone, and what they start is
theirs again. -/
theorem subscriber_words (subscriber : action.bySubscriber = true)
    (calls : ∀ call ∈ block.calls, call.bySubscriber = true)
    (moved : step block action = some next) :
    next.metadata.uid = block.metadata.uid ∧
      next.metadata.publishTimestampUs = block.metadata.publishTimestampUs ∧
      ∀ call ∈ next.calls, call.bySubscriber = true := by
  have released (old : BufferRef) (refs : List BufferRef) :
      (block.release old).metadata.uid = block.metadata.uid ∧
        (block.release old).metadata.publishTimestampUs = block.metadata.publishTimestampUs ∧
        ∀ call ∈ { block.release old with refs := refs }.calls, call.bySubscriber = true := by
    unfold State.release
    split
    · refine ⟨rfl, rfl, fun call member => ?_⟩
      simp only at member
      split at member
      · rcases List.mem_append.mp member with before | own
        · exact calls call before
        · exact List.mem_singleton.mp own ▸ rfl
      · exact calls call member
    · exact ⟨rfl, rfl, calls⟩
  cases action with
  | reserve | settle => simp [Action.bySubscriber] at subscriber
  | acquire uid =>
    obtain rfl := Option.some.inj moved
    refine ⟨rfl, rfl, fun call member => ?_⟩
    rcases List.mem_append.mp member with before | own
    · exact calls call before
    · exact List.mem_singleton.mp own ▸ rfl
  | advance index clock spurious =>
    simp only [step] at moved
    cases running : block.calls[index]? with
    | none => simp [running] at moved
    | some call =>
      simp only [running, Option.some.injEq] at moved
      subst moved
      have own := calls call (List.mem_of_getElem? running)
      have left : (call.step clock spurious block.metadata).1.uid = block.metadata.uid ∧
          (call.step clock spurious block.metadata).1.publishTimestampUs =
            block.metadata.publishTimestampUs ∧
          ∀ other ∈ (call.step clock spurious block.metadata).2.calls,
            other.bySubscriber = true := by
        cases call with
        | reserve | settle => simp [Call.bySubscriber] at own
        | underflowedRelease => simp [Call.step, Progress.calls]
        | acquire call =>
          have operation := call.step_operation spurious block.metadata
          simp only [Call.step]
          generalize call.step spurious block.metadata = after at operation
          obtain ⟨changed, outcome⟩ := after
          refine ⟨?_, ?_, ?_⟩
          · cases operation <;> rfl
          · cases operation <;> rfl
          · cases outcome <;> simp [acquireProgress, Progress.calls, Call.bySubscriber]
      refine ⟨left.1, left.2.1, fun other member => ?_⟩
      simp only [State.deliver, List.append_assoc, List.mem_append] at member
      rcases member with earlier | own | later
      · exact calls other (List.mem_of_mem_take earlier)
      · exact left.2.2 other own
      · exact calls other (List.mem_of_mem_drop later)
  | moveConstruct source =>
    simp only [step] at moved
    split at moved
    · simp at moved
    · obtain rfl := Option.some.inj moved
      exact ⟨rfl, rfl, calls⟩
  | moveAssign target source =>
    simp only [step] at moved
    split at moved
    · split at moved
      · exact Option.some.inj moved ▸ ⟨rfl, rfl, calls⟩
      · obtain rfl := Option.some.inj moved
        exact released _ _
    · simp at moved
  | destroy index =>
    simp only [step] at moved
    split at moved
    · simp at moved
    · obtain rfl := Option.some.inj moved
      exact released _ _

/-- A step of the others is the same step beside one more call in front. -/
theorem step_prepend (call : Call) (subscriber : action.bySubscriber = true)
    (moved : step block action = some next) :
    step { block with calls := call :: block.calls } action.shift =
      some { next with calls := call :: next.calls } := by
  have released (old : BufferRef) : State.release { block with calls := call :: block.calls } old =
      { block.release old with calls := call :: (block.release old).calls } := by
    unfold State.release
    split
    · simp only
      split <;> rfl
    · rfl
  cases action with
  | reserve | settle => simp [Action.bySubscriber] at subscriber
  | acquire uid =>
    obtain rfl := Option.some.inj moved
    rfl
  | advance index clock spurious =>
    simp only [step] at moved
    cases running : block.calls[index]? with
    | none => simp [running] at moved
    | some other =>
      simp only [running, Option.some.injEq] at moved
      subst moved
      simp [step, Action.shift, running, State.deliver]
  | moveConstruct source =>
    simp only [step] at moved
    cases found : block.refs[source]? with
    | none => simp [found] at moved
    | some reference =>
      simp only [found, Option.some.injEq] at moved
      subst moved
      simp [step, Action.shift, found]
  | moveAssign target source =>
    simp only [step] at moved
    cases foundTarget : block.refs[target]? with
    | none => simp [foundTarget] at moved
    | some old =>
      cases foundSource : block.refs[source]? with
      | none => simp [foundTarget, foundSource] at moved
      | some reference =>
        simp only [foundTarget, foundSource] at moved
        simp only [step, Action.shift, foundTarget, foundSource, released]
        split at moved
        · next self => simp [self, Option.some.inj moved]
        · next apart =>
          obtain rfl := Option.some.inj moved
          simp [apart]
  | destroy index =>
    simp only [step] at moved
    cases found : block.refs[index]? with
    | none => simp [found] at moved
    | some old =>
      simp only [found, Option.some.injEq] at moved
      subst moved
      simp [step, Action.shift, found, released]

end Ros2CudaIpc.BlockProtocol

namespace Ros2CudaIpc.FailedReserve

open Reachability WeightedLists BlockProtocol

/-- The block with its subscribers, the attempt or its result, and the sum of the
attempt's own changes of the count. -/
structure State where
  block : BlockProtocol.State
  attempt : Outcome ReserveCall (Option Nat)
  written : Int
deriving DecidableEq, Repr

/-- The next operation of the attempt, or an action of a subscriber. Their order is arbitrary. -/
inductive Action where
  | attempt (clock : Nat)
  | subscriber (action : BlockProtocol.Action)
deriving DecidableEq, Repr

/-- One action. The attempt's own changes to the count are added up beside the block. -/
def step (state : State) : Action → Option State
  | .attempt clock =>
    match state.attempt with
    | .returned _ => none
    | .running call =>
      let after := call.step clock state.block.metadata
      some
        { block := { state.block with metadata := after.1 }
          attempt := after.2
          written := state.written + (after.1.refcount - state.block.metadata.refcount) }
  | .subscriber action =>
    if action.bySubscriber then
      (BlockProtocol.step state.block action).map fun block => { state with block := block }
    else none

/-- An attempt about to begin on a block whose count is the number of references,
with no other publisher call running. -/
structure Started (state : State) : Prop where
  accounted : Accounted state.block
  calls : ∀ call ∈ state.block.calls, call.bySubscriber = true
  attempt : state.attempt = .running ReserveCall.start
  written : state.written = 0

/-- Nothing is left of the attempt, and every reference is counted: those acquires
and reservations hold and the valid BufferRefs. -/
structure NoTrace (start state : State) : Prop where
  refcount : state.written = 0
  uid : state.block.metadata.uid = start.block.metadata.uid
  timestamp : state.block.metadata.publishTimestampUs = start.block.metadata.publishTimestampUs
  counted : state.block.metadata.refcount = total Call.share state.block.calls +
    state.block.reservations.length + state.block.refs.countP BufferRef.valid

instance (start state : State) : Decidable (NoTrace start state) :=
  decidable_of_iff (state.written = 0 ∧
      state.block.metadata.uid = start.block.metadata.uid ∧
      state.block.metadata.publishTimestampUs = start.block.metadata.publishTimestampUs ∧
      state.block.metadata.refcount = total Call.share state.block.calls +
        state.block.reservations.length + state.block.refs.countP BufferRef.valid)
    ⟨fun ⟨refcount, uid, timestamp, counted⟩ => ⟨refcount, uid, timestamp, counted⟩,
      fun trace => ⟨trace.refcount, trace.uid, trace.timestamp, trace.counted⟩⟩

/-- A store of zero takes back exactly the attempt's own claim: at that moment nobody else is
counted. -/
def StoresAlone (state : State) : Action → Prop
  | .attempt _ =>
    ∀ call, state.attempt = .running call → call.pc = .storeRefcount →
      state.block.metadata.refcount = 1
  | .subscriber _ => True

instance (state : State) (action : Action) : Decidable (StoresAlone state action) :=
  match action with
  | .attempt _ =>
    match found : state.attempt with
    | .running call =>
      decidable_of_iff (call.pc = .storeRefcount → state.block.metadata.refcount = 1)
        (by simp [StoresAlone, found])
    | .returned _ => isTrue (by simp [StoresAlone, found])
  | .subscriber _ => isTrue trivial

/-- While the attempt runs, the count is right with its share, its writes are that
share, and the other words are those of the start up to its last two stores. -/
structure Unfinished (start state : State) (call : ReserveCall) : Prop where
  accounted : Accounted { state.block with calls := .reserve call :: state.block.calls }
  calls : ∀ other ∈ state.block.calls, other.bySubscriber = true
  written : state.written = call.share
  uid : (∀ nextUid, call.pc ≠ .storeTimestamp nextUid) →
    state.block.metadata.uid = start.block.metadata.uid
  timestamp : state.block.metadata.publishTimestampUs = start.block.metadata.publishTimestampUs

/-- A failed attempt behind which the count is right: its writes cancel out, and the uid and the
timestamp are those it began with. -/
structure Undone (start state : State) : Prop where
  accounted : Accounted state.block
  calls : ∀ call ∈ state.block.calls, call.bySubscriber = true
  written : state.written = 0
  uid : state.block.metadata.uid = start.block.metadata.uid
  timestamp : state.block.metadata.publishTimestampUs = start.block.metadata.publishTimestampUs

variable {start state next : State} {call : ReserveCall}

/-- A failed attempt behind which the count is right left no trace, for the count is then the
subscribers' references alone. -/
theorem Undone.noTrace (undone : Undone start state) : NoTrace start state := by
  refine ⟨undone.written, undone.uid, undone.timestamp, ?_⟩
  rw [undone.accounted.count, total_ref_share]

/-- The attempt begins with nothing written, and with the words of the block as it finds them. -/
theorem Started.unfinished (started : Started start) :
    Unfinished start start ReserveCall.start := by
  refine ⟨?_, started.calls, started.written, fun _ => rfl, rfl⟩
  obtain ⟨count, exclusive, bounded, room, current, sound, settled⟩ := started.accounted
  have unshared : (Call.reserve ReserveCall.start).share = 0 := rfl
  have unpublished : (Call.reserve ReserveCall.start).publisherShare = 0 := rfl
  constructor
  · simp only [total_cons, unshared]
    omega
  · simp only [total_cons, unpublished]
    omega
  · exact bounded
  · exact room
  · exact current
  · intro other member
    cases List.mem_cons.mp member with
    | inl own =>
      subst own
      exact trivial
    | inr running => exact sound other running
  · exact settled

/-- An action of a subscriber keeps a running attempt.

Proof: behind the shift the operation is not the attempt's own. -/
theorem Unfinished.subscriber (unfinished : Unfinished start state call)
    {action : BlockProtocol.Action} (subscriber : action.bySubscriber = true)
    {block : BlockProtocol.State} (moved : BlockProtocol.step state.block action = some block) :
    Unfinished start { state with block := block } call := by
  obtain ⟨uid, timestamp, calls⟩ := subscriber_words subscriber unfinished.calls moved
  have beside := step_prepend (.reserve call) subscriber moved
  refine ⟨?_, calls, unfinished.written, fun early => uid.trans (unfinished.uid early),
    timestamp.trans unfinished.timestamp⟩
  refine step_accounted _ _ _ unfinished.accounted ?_ beside
  rintro index clock spurious running same found ⟨now, rfl⟩
  cases action with
  | advance other otherClock otherSpurious =>
    obtain ⟨rfl, -, -⟩ := BlockProtocol.Action.advance.inj same
    have member := unfinished.calls _ (List.mem_of_getElem? (by simpa using found))
    simp [Call.bySubscriber] at member
  | reserve | settle | acquire | moveConstruct | moveAssign | destroy =>
    simp [BlockProtocol.Action.shift] at same

/-- What holds behind a failed attempt survives every action of a subscriber, who accounts for
each change of the count. -/
theorem Undone.subscriber (undone : Undone start state)
    {action : BlockProtocol.Action} (subscriber : action.bySubscriber = true)
    {block : BlockProtocol.State} (moved : BlockProtocol.step state.block action = some block) :
    Undone start { state with block := block } := by
  obtain ⟨uid, timestamp, calls⟩ := subscriber_words subscriber undone.calls moved
  refine ⟨?_, calls, undone.written, uid.trans undone.uid, timestamp.trans undone.timestamp⟩
  refine step_accounted _ _ _ undone.accounted ?_ moved
  rintro index clock spurious running - found ⟨now, rfl⟩
  have member := undone.calls _ (List.mem_of_getElem? found)
  simp [Call.bySubscriber] at member

/-- The invariant of a run: the attempt is unfinished and holds what it has claimed, or it has
failed and left nothing. -/
def Traced (start state : State) : Prop :=
  match state.attempt with
  | .running call => Unfinished start state call
  | .returned none => Undone start state
  | .returned (some _) => True

/-- What an operation does to the words: one which goes on writes the change of its
share and keeps the uid up to its store, a failing one changes nothing and comes
before the claim. -/
def WritesShare (call : ReserveCall) (metadata changed : BlockMetadata) :
    Outcome ReserveCall (Option Nat) → Prop
  | .running following =>
    (changed.refcount : Int) - metadata.refcount = following.share - call.share ∧
      changed.publishTimestampUs = metadata.publishTimestampUs ∧
      (∀ nextUid, call.pc ≠ .storeTimestamp nextUid) ∧
      ((∀ nextUid, following.pc ≠ .storeTimestamp nextUid) → changed.uid = metadata.uid)
  | .returned none =>
    changed = metadata ∧ call.share = 0 ∧ ∀ nextUid, call.pc ≠ .storeTimestamp nextUid
  | .returned (some _) => True

/-- Every operation other than the store of zero changes the count by what the attempt's share
changes. -/
theorem operation_writes {clock : Nat} {metadata changed : BlockMetadata}
    {outcome : Outcome ReserveCall (Option Nat)}
    (operation : call.Operation clock metadata changed outcome)
    (regular : call.pc ≠ .storeRefcount) : WritesShare call metadata changed outcome := by
  cases operation with
  | overflowed now => exact absurd rfl regular
  | _ => simp_all [WritesShare, ReserveCall.share]

/-- An operation of the attempt keeps the invariant, when a store of zero takes
back the attempt's own claim only. -/
theorem Unfinished.operate (unfinished : Unfinished start state call) (clock : Nat)
    (alone : call.pc = .storeRefcount → state.block.metadata.refcount = 1) :
    Traced start
      ⟨{ state.block with metadata := (call.step clock state.block.metadata).1 },
        (call.step clock state.block.metadata).2,
        state.written + ((call.step clock state.block.metadata).1.refcount -
          state.block.metadata.refcount)⟩ := by
  obtain ⟨accounted, calls, written, uid, timestamp⟩ := unfinished
  by_cases stores : call.pc = .storeRefcount
  · obtain ⟨now, pc⟩ := call
    obtain rfl : pc = .storeRefcount := stores
    have one := alone rfl
    obtain ⟨count, exclusive, bounded, room, current, sound, settled⟩ := accounted
    simp only [total_cons, Call.share, Call.publisherShare, ReserveCall.share] at count exclusive
    change Undone start _
    refine ⟨⟨?_, ?_, Nat.zero_le _, room, current, ?_, settled⟩, calls, ?_,
      uid (by simp), timestamp⟩
    · change 0 = _
      simp only
      omega
    · simp only
      omega
    · exact fun other running => sound other (List.mem_cons_of_mem _ running)
    · simp [written, ReserveCall.share, ReserveCall.step, one]
  · have regular : ¬ (Call.reserve call).Overflows := by
      rintro ⟨now, same⟩
      obtain rfl := Call.reserve.inj same
      exact stores rfl
    have first : (Call.reserve call :: state.block.calls)[0]? = some (.reserve call) := rfl
    have advanced := accounted.advance first regular clock false
    have words := operation_writes (call.step_operation clock state.block.metadata) stores
    simp only [Call.step, State.deliver, List.take_zero, List.nil_append, Nat.zero_add,
      List.drop_succ_cons, List.drop_zero] at advanced
    generalize call.step clock state.block.metadata = after at advanced words ⊢
    obtain ⟨changed, outcome⟩ := after
    cases outcome with
    | running following =>
      obtain ⟨counted, sameTimestamp, early, sameUid⟩ := words
      refine ⟨?_, calls, ?_, fun later => (sameUid later).trans (uid early),
        sameTimestamp.trans timestamp⟩
      · simpa [reserveProgress, Progress.calls, Progress.reservations, Progress.refs,
          Progress.settlements] using advanced
      · simp only [written, counted]
        omega
    | returned result =>
      cases result with
      | some reserved => trivial
      | none =>
        obtain ⟨rfl, unshared, early⟩ := words
        refine ⟨?_, calls, ?_, uid early, timestamp⟩
        · simpa [reserveProgress, Progress.calls, Progress.reservations, Progress.refs,
            Progress.settlements] using advanced
        · simp [written, unshared]

/-- One action keeps the invariant, when a store of zero takes back the attempt's
own claim only. -/
theorem traced_step {action : Action} (traced : Traced start state)
    (alone : StoresAlone state action) (moved : step state action = some next) :
    Traced start next := by
  obtain ⟨block, attempt, written⟩ := state
  cases action with
  | attempt clock =>
    cases attempt with
    | returned result => simp [step] at moved
    | running call =>
      obtain rfl := Option.some.inj moved
      have unfinished : Unfinished start _ call := traced
      exact unfinished.operate clock (alone call rfl)
  | subscriber action =>
    simp only [step] at moved
    split at moved
    · next subscriber =>
      obtain ⟨changed, stepped, rfl⟩ := Option.map_eq_some_iff.mp moved
      cases attempt with
      | running call =>
        have unfinished : Unfinished start _ call := traced
        exact unfinished.subscriber subscriber stepped
      | returned result =>
        cases result with
        | none =>
          have undone : Undone start _ := traced
          exact undone.subscriber subscriber stepped
        | some reserved => trivial
    · simp at moved

/-- A returned attempt stays returned. Only subscribers act from there on. -/
theorem returned_stays {block : BlockProtocol.State} {result : Option Nat} {written : Int}
    {action : Action} (moved : step ⟨block, .returned result, written⟩ action = some next) :
    next.attempt = .returned result := by
  cases action with
  | attempt clock => simp [step] at moved
  | subscriber action =>
    simp only [step] at moved
    split at moved
    · obtain ⟨changed, -, rfl⟩ := Option.map_eq_some_iff.mp moved
      rfl
    · simp at moved

/-- The store of zero ends the attempt without a uid, whatever the count was before. -/
theorem store_returns {clock : Nat} (running : state.attempt = .running call)
    (stores : call.pc = .storeRefcount) (moved : step state (.attempt clock) = some next) :
    next.attempt = .returned none := by
  simp only [step, running, Option.some.injEq] at moved
  subst moved
  simp [ReserveCall.step, stores]

/-- The invariant at the start: the attempt has performed no operation yet. -/
theorem Started.traced (started : Started start) : Traced start start := by
  unfold Traced
  rw [started.attempt]
  exact started.unfinished

/-- In every run whose stores of zero take back the attempt's own claim only. -/
theorem reachable_traced (started : Started start)
    (reached : Reachable step StoresAlone (fun origin => origin = start) state) :
    Traced start state := by
  refine Reachable.invariant ?_ ?_ reached
  · rintro origin rfl
    exact started.traced
  · intro earlier later action _ traced alone moved
    exact traced_step traced alone moved

/-- While the attempt runs, the invariant needs no condition: a store of zero is its last
operation.

Proof: a step of the attempt which goes on is not a store of zero, as behind one the attempt has
returned. -/
theorem reachable_unfinished (started : Started start)
    (reached : Reachable step (fun _ _ => True) (fun origin => origin = start) state)
    (running : state.attempt = .running call) : Unfinished start state call := by
  have invariant : ∀ call, state.attempt = .running call → Unfinished start state call := by
    refine Reachable.invariant (?_ : ∀ origin, origin = start →
      ∀ call, origin.attempt = .running call → Unfinished start origin call) ?_ reached
    · rintro origin rfl call running
      obtain rfl : ReserveCall.start = call :=
        Outcome.running.inj (started.attempt.symm.trans running)
      exact started.unfinished
    · intro earlier later action _ unfinished _ moved call running
      by_cases alone : StoresAlone earlier action
      · have traced : Traced start earlier := by
          obtain ⟨block, attempt, written⟩ := earlier
          cases attempt with
          | running call => exact unfinished call rfl
          | returned result =>
            have still := returned_stays moved
            rw [still] at running
            simp at running
        have kept := traced_step traced alone moved
        unfold Traced at kept
        rw [running] at kept
        exact kept
      · cases action with
        | subscriber action => exact absurd trivial alone
        | attempt clock =>
          simp only [StoresAlone, not_forall] at alone
          obtain ⟨storing, position, stores, -⟩ := alone
          have ended := store_returns position stores moved
          rw [ended] at running
          simp at running
  exact invariant call running

/-- A failed attempt leaves no trace exactly when its store of zero, if it comes to
one, finds its own claim alone in the count. -/
theorem failed_reserve_exact (started : Started start) :
    (∀ state, Reachable step StoresAlone (fun origin => origin = start) state →
      state.attempt = .returned none → NoTrace start state) ∧
    ∀ state next clock call,
      Reachable step (fun _ _ => True) (fun origin => origin = start) state →
        state.attempt = .running call → call.pc = .storeRefcount →
          step state (.attempt clock) = some next →
            next.attempt = .returned none ∧
              (NoTrace start next ↔ state.block.metadata.refcount = 1) := by
  constructor
  · intro state reached failed
    have traced := reachable_traced started reached
    unfold Traced at traced
    rw [failed] at traced
    exact traced.noTrace
  · intro state next clock call reached running stores moved
    have unfinished := reachable_unfinished started reached running
    have ended := store_returns running stores moved
    refine ⟨ended, fun trace => ?_, fun alone => ?_⟩
    · obtain ⟨block, attempt, written⟩ := state
      obtain ⟨now, pc⟩ := call
      obtain rfl : pc = .storeRefcount := stores
      obtain rfl : attempt = .running ⟨now, .storeRefcount⟩ := running
      obtain rfl := Option.some.inj moved
      have cancels : written + (((0 : Nat) : Int) - (block.metadata.refcount : Int)) = 0 :=
        trace.refcount
      have share : written = ((1 : Nat) : Int) := unfinished.written
      change block.metadata.refcount = 1
      omega
    · have kept : Traced start next := by
        refine traced_step ?_ (?_ : StoresAlone state (.attempt clock)) moved
        · unfold Traced
          rw [running]
          exact unfinished
        · intro other same _
          exact alone
      unfold Traced at kept
      rw [ended] at kept
      exact kept.noTrace

/-- An unreferenced block which has used up its uids, and an attempt about to begin on it. -/
def exhaustedStart : State :=
  ⟨⟨⟨uint64Max, 0, 0⟩, [], [], [], []⟩, .running ReserveCall.start, 0⟩

/-- The exhausted block is a start: its count is right, as nobody refers to it. -/
theorem exhaustedStart_started : Started exhaustedStart := by
  refine ⟨?_, by simp [exhaustedStart], rfl, rfl⟩
  constructor <;> simp [exhaustedStart]

/-- A reader of the last uid acquires between the claim and the store of zero. -/
def overwrittenReader : List Action :=
  List.replicate 5 (.attempt 1) ++ [.subscriber (.acquire uint64Max)] ++
    List.replicate 4 (.subscriber (.advance 0 1 false)) ++ [.attempt 1]

/-- An acquire in the window of the store loses its share: its valid BufferRef is no longer
counted. -/
theorem overwritten_reader : ∃ state,
    Reachable step (fun _ _ => True) (fun origin => origin = exhaustedStart) state ∧
      state.attempt = .returned none ∧ state.block.refs = [⟨true, uint64Max⟩] ∧
      state.block.metadata.refcount = 0 ∧ ¬ NoTrace exhaustedStart state := by
  have executed : run (guarded step (fun _ _ => True)) exhaustedStart overwrittenReader =
      some ⟨⟨⟨uint64Max, 0, 0⟩, [], [], [⟨true, uint64Max⟩], []⟩, .returned none, -1⟩ := by
    decide
  exact ⟨_, reachable_run _ _ _ (.start _ rfl) executed, rfl, rfl, rfl, by decide⟩

/-- Without a reader in between the same attempt leaves no trace; with one, the
store finds two references. -/
theorem failed_reserve_exhausted : (∃ state,
      run (guarded step StoresAlone) exhaustedStart (List.replicate 6 (.attempt 1)) = some state ∧
        NoTrace exhaustedStart state) ∧
    ∃ before after, run (guarded step (fun _ _ => True)) exhaustedStart
        (overwrittenReader.take 10) = some before ∧ step before (.attempt 1) = some after ∧
      ¬ NoTrace exhaustedStart after := by
  have exact_ := failed_reserve_exact exhaustedStart_started
  have undisturbed : run (guarded step StoresAlone) exhaustedStart (List.replicate 6 (.attempt 1)) =
      some ⟨⟨⟨uint64Max, 0, 0⟩, [], [], [], []⟩, .returned none, 0⟩ := by decide
  have raced : run (guarded step (fun _ _ => True)) exhaustedStart (overwrittenReader.take 10) =
      some ⟨⟨⟨uint64Max, 2, 0⟩, [], [], [⟨true, uint64Max⟩], []⟩,
        .running ⟨1, .storeRefcount⟩, 1⟩ := by decide
  refine ⟨⟨_, undisturbed, exact_.1 _ (reachable_run _ _ _ (.start _ rfl) undisturbed) rfl⟩,
    _, _, raced, rfl, fun trace => ?_⟩
  have one := ((exact_.2 _ _ 1 _ (reachable_run _ _ _ (.start _ rfl) raced) rfl rfl rfl).2.mp trace)
  exact absurd one (by decide)

end Ros2CudaIpc.FailedReserve
