import Ros2CudaIpc.ReferenceAccounting

/-!
# Exclusion between a reservation and older readers

The publisher claims the count and renews the uid in two operations. A reader
of the previous publication which makes its second uid check between them still
sees its own uid: its BufferRef becomes valid although the claim has already
succeeded, and the reservation is returned while that BufferRef is alive.

That interleaving is the only way. In every run where no acquire passes its
second check inside that window, a held reservation excludes every valid
BufferRef of another uid. Conversely, an acquire which passes inside the window
leaves a state from which the publisher's own remaining operations break the
exclusion.
-/

namespace Ros2CudaIpc.BlockProtocol

open Reachability WeightedLists

/-- Uids of the reservations committed so far, those whose count was given back by a commit. -/
def State.committed (state : State) : List Nat :=
  (state.settlements.filter (fun settlement => settlement.published && settlement.released)).map
    Settlement.uid

/-- A call of the publisher's reservation attempt, at whichever position. -/
def Call.reserves : Call → Bool
  | .reserve _ => true
  | _ => false

/-- One publisher, which runs one reservation attempt at a time, and subscribers
which acquire with uids of committed reservations. -/
def SinglePublisher (state : State) : Action → Prop
  | .reserve => ∀ call ∈ state.calls, call.reserves = false
  | .acquire uid => uid ∈ state.committed
  | _ => True

instance (state : State) (action : Action) : Decidable (SinglePublisher state action) :=
  match action with
  | .reserve => inferInstanceAs (Decidable (∀ call ∈ state.calls, call.reserves = false))
  | .acquire uid => inferInstanceAs (Decidable (uid ∈ state.committed))
  | .settle _ _ | .advance _ _ _ | .moveConstruct _ | .moveAssign _ _ | .destroy _ =>
    inferInstanceAs (Decidable True)

/-- The uid of a commit or cancel which has not given its reservation back. -/
def Call.heldUid : Call → Option Nat
  | .settle call => if call.pc = .storeRefcount then none else some call.uid
  | _ => none

/-- Uids of the reservations which are returned and neither committed nor cancelled, those with a
running commit or cancel included. -/
def State.heldUids (state : State) : List Nat :=
  state.reservations ++ state.calls.filterMap Call.heldUid

/-- A held reservation excludes valid BufferRefs of another uid. Those of its own are not
excluded, as an acquire which guesses the uid is let through. -/
def Exclusion (state : State) : Prop :=
  ∀ held ∈ state.heldUids, ∀ reference ∈ state.refs, reference.valid = true →
    reference.uid = held

instance (state : State) : Decidable (Exclusion state) :=
  inferInstanceAs (Decidable (∀ _ ∈ _, _))

/-- The publisher's window: its claim has succeeded, its uid store is to come. -/
def Call.inWindow (uid : Nat) : Call → Prop
  | .reserve call => call.pc = .loadUid ∧ uid ≠ uint64Max ∨ ∃ nextUid, call.pc = .storeUid nextUid
  | _ => False

/-- No acquire passes its second uid check while a publisher is in its window. -/
def RecheckOutsideWindow (state : State) : Action → Prop
  | .advance index _ _ => ∀ call, state.calls[index]? = some (.acquire call) →
      call.pc = .recheckUid → state.metadata.uid = call.uid →
      ∀ other ∈ state.calls, ¬ other.inWindow state.metadata.uid
  | _ => True

/-- A created block with uid one, which nobody refers to. -/
def fresh : State := ⟨BlockMetadata.create 1, [], [], [], []⟩

/-- A first publication; 100 ms later a reader of it makes its four steps while
the second reservation stands between its claim and its uid store. -/
def racedRead : List Action :=
  [.reserve] ++ List.replicate 7 (.advance 0 1 false) ++
    [.settle 0 true] ++ List.replicate 4 (.advance 0 1 false) ++
    [.reserve] ++ List.replicate 4 (.advance 0 100001 false) ++
    [.acquire 2] ++ List.replicate 4 (.advance 1 100001 false) ++
    List.replicate 3 (.advance 0 100001 false)

/-- One publisher and one subscriber of its committed uid do not exclude each
other: uid 3 is reserved while the BufferRef of uid 2 is alive. -/
theorem exclusion_violated :
    ¬ ∀ state, Reachable step SinglePublisher Initial state → Exclusion state := by
  intro claimed
  have executed : run (guarded step SinglePublisher) fresh racedRead =
      some ⟨⟨3, 2, 0⟩, [], [3], [⟨true, 2⟩], [⟨2, true, true⟩]⟩ := by decide
  have excluded := claimed _ (reachable_run racedRead fresh _ (.start fresh ⟨1, rfl⟩) executed)
  revert excluded
  decide

/-- The publisher behind its window: it has renewed the uid, and has not given
the reservation back. -/
def Call.behindWindow : Call → Prop
  | .reserve call => ∃ uid, call.pc = .storeTimestamp uid
  | .settle call => call.pc ≠ .storeRefcount
  | _ => False

/-- What excludes older readers while a publisher is at work: nobody reads in its
window, and behind the window every reader has the renewed uid. -/
structure Separated (state : State) : Prop where
  window : (∃ call ∈ state.calls, call.inWindow state.metadata.uid) →
    ∀ reference ∈ state.refs, reference.valid = false
  behind : (state.reservations ≠ [] ∨ ∃ call ∈ state.calls, call.behindWindow) →
    ∀ reference ∈ state.refs, reference.valid = true → reference.uid = state.metadata.uid

/-- Held uids are the current uid, as the uid is renewed by a new reservation alone. -/
theorem Accounted.heldUids_current {state : State} (accounted : Accounted state) :
    ∀ held ∈ state.heldUids, held = state.metadata.uid := by
  intro held member
  rcases List.mem_append.mp member with returned | settling
  · exact accounted.current held returned
  · obtain ⟨call, running, same⟩ := List.mem_filterMap.mp settling
    have sound := accounted.sound call running
    cases call with
    | settle call =>
      have regular : call.pc ≠ .storeRefcount := sound.1
      simp only [Call.heldUid, regular, if_false, Option.some.injEq] at same
      exact same ▸ sound.2
    | reserve _ | acquire _ | underflowedRelease => simp [Call.heldUid] at same

/-- Separation gives exclusion in the regular regime: a held uid is the current one, and so is
every valid BufferRef's. -/
theorem Separated.exclusion {state : State} (separated : Separated state)
    (accounted : Accounted state) : Exclusion state := by
  intro held member reference alive valid
  rw [accounted.heldUids_current held member]
  refine separated.behind ?_ reference alive valid
  rcases List.mem_append.mp member with returned | settling
  · exact .inl (List.ne_nil_of_mem returned)
  · obtain ⟨call, running, same⟩ := List.mem_filterMap.mp settling
    refine .inr ⟨call, running, ?_⟩
    cases call with
    | settle call =>
      intro zeroing
      simp [Call.heldUid, zeroing] at same
    | reserve _ | acquire _ | underflowedRelease => simp [Call.heldUid] at same

/-- Nobody holds a reservation on an exhausted block, so there is nothing to exclude. -/
theorem Exhausted.exclusion {state : State} (exhausted : Exhausted state) : Exclusion state := by
  intro held member
  rcases List.mem_append.mp member with returned | settling
  · simp [exhausted.unreserved] at returned
  · obtain ⟨call, running, same⟩ := List.mem_filterMap.mp settling
    have barren := exhausted.barren call running
    cases call with
    | settle call => exact barren.elim
    | reserve _ | acquire _ | underflowedRelease => simp [Call.heldUid] at same

/-- Without a valid BufferRef there is nobody to separate from the publisher. -/
theorem separated_of_unread {state : State}
    (unread : ∀ reference ∈ state.refs, reference.valid = false) : Separated state := by
  refine ⟨fun _ => unread, fun _ reference alive valid => ?_⟩
  simp [unread reference alive] at valid

/-- A step which keeps the uid, brings no publisher into or behind the window and
creates no valid BufferRef keeps the separation. -/
theorem Separated.quiet {state next : State} (separated : Separated state)
    (uid : next.metadata.uid = state.metadata.uid)
    (window : (∃ call ∈ next.calls, call.inWindow state.metadata.uid) →
      ∃ call ∈ state.calls, call.inWindow state.metadata.uid)
    (behind : (next.reservations ≠ [] ∨ ∃ call ∈ next.calls, call.behindWindow) →
      state.reservations ≠ [] ∨ ∃ call ∈ state.calls, call.behindWindow)
    (refs : ∀ reference ∈ next.refs, reference.valid = true → reference ∈ state.refs) :
    Separated next := by
  constructor
  · intro inside reference alive
    rw [uid] at inside
    by_cases valid : reference.valid = true
    · exact separated.window (window inside) reference (refs reference alive valid)
    · exact Bool.eq_false_iff.mpr valid
  · intro holder reference alive valid
    rw [uid]
    exact separated.behind (behind holder) reference (refs reference alive valid) valid

/-- An operation with no bearing on the separation: it keeps the uid, moves no
publisher into or behind the window, and returns no valid BufferRef. -/
structure Call.Quiet (metadata changed : BlockMetadata) (call : Call) (progress : Progress) :
    Prop where
  uid : changed.uid = metadata.uid
  window : ∀ next ∈ progress.calls, next.inWindow metadata.uid → call.inWindow metadata.uid
  reservations : progress.reservations ≠ [] → call.behindWindow
  behind : ∀ next ∈ progress.calls, next.behindWindow → call.behindWindow
  refs : ∀ reference ∈ progress.refs, reference.valid = false

/-- Every operation is without bearing on the separation, or it is a claim of an
unreferenced block, a uid store in the window, or a passed second uid check. -/
theorem Call.step_separates (call : Call) (clock : Nat) (spurious : Bool)
    (metadata : BlockMetadata) (sound : call.Sound metadata.uid) :
    let after := call.step clock spurious metadata
    call.Quiet metadata after.1 after.2 ∨
      (metadata.refcount = 0 ∨ call.inWindow metadata.uid) ∧ after.2.refs = [] ∨
      call = .acquire ⟨metadata.uid, .recheckUid⟩ ∧
        after = (metadata, .acquired ⟨true, metadata.uid⟩) := by
  cases call with
  | reserve call =>
    have operation := call.step_operation clock metadata
    simp only [Call.step]
    generalize (call.step clock metadata).1 = changed at *
    generalize (call.step clock metadata).2 = outcome at *
    cases operation with
    | claimed now unreferenced => exact .inr (.inl ⟨.inl unreferenced, rfl⟩)
    | renewed now nextUid => exact .inr (.inl ⟨.inr (.inr ⟨nextUid, rfl⟩), rfl⟩)
    | _ =>
      refine .inl ⟨rfl, ?_, ?_, ?_, ?_⟩ <;>
        simp_all [reserveProgress, Progress.calls, Progress.reservations, Progress.refs,
          Call.inWindow, Call.behindWindow]
  | settle call =>
    have operation := call.step_operation clock metadata
    simp only [Call.step]
    generalize (call.step clock metadata).1 = changed at *
    generalize (call.step clock metadata).2 = outcome at *
    cases operation <;> refine .inl ⟨rfl, ?_, ?_, ?_, ?_⟩ <;>
      simp_all [settleProgress, Progress.calls, Progress.reservations, Progress.refs,
        Call.inWindow, Call.behindWindow]
  | acquire call =>
    have operation := call.step_operation spurious metadata
    simp only [Call.step]
    generalize (call.step spurious metadata).1 = changed at *
    generalize (call.step spurious metadata).2 = outcome at *
    cases operation with
    | confirmed uid same =>
      subst same
      exact .inr (.inr ⟨rfl, rfl⟩)
    | observed | refused =>
      unfold AcquireCall.retry
      split <;> refine .inl ⟨rfl, ?_, ?_, ?_, ?_⟩ <;>
        simp [acquireProgress, acquiredRef, BufferRef.valid, BufferRef.empty, Progress.calls,
          Progress.reservations, Progress.refs, Call.inWindow, Call.behindWindow]
    | _ =>
      refine .inl ⟨rfl, ?_, ?_, ?_, ?_⟩ <;>
        simp [acquireProgress, acquiredRef, BufferRef.valid, BufferRef.empty, Progress.calls,
          Progress.reservations, Progress.refs, Call.inWindow, Call.behindWindow]
  | underflowedRelease => exact sound.elim

/-- No BufferRef is valid on an unreferenced block, as each valid one is counted. -/
theorem Accounted.unread {state : State} (accounted : Accounted state)
    (unreferenced : state.metadata.refcount = 0) :
    ∀ reference ∈ state.refs, reference.valid = false := by
  intro reference alive
  have light := weight_le_total BufferRef.share state.refs reference alive
  have counted := accounted.count
  have shareless : reference.share = 0 := by omega
  simpa [BufferRef.share] using shareless

/-- A member of the lists around a position, or of what replaced the call there. -/
theorem mem_replaced {calls replacement : List Call} {index : Nat} {other : Call}
    (member : other ∈ calls.take index ++ replacement ++ calls.drop (index + 1)) :
    other ∈ calls ∨ other ∈ replacement := by
  simp only [List.append_assoc, List.mem_append] at member
  rcases member with earlier | own | later
  · exact .inl (List.mem_of_mem_take earlier)
  · exact .inr own
  · exact .inl (List.mem_of_mem_drop later)

/-- One operation outside the race keeps the separation. Only a second uid check adds a valid
BufferRef, and only a uid store renews the uid.

Proof: a claim finds no reader, and the uid store follows a window without readers. -/
theorem Separated.advance {state : State} (separated : Separated state)
    (accounted : Accounted state) {index : Nat} {call : Call}
    (running : state.calls[index]? = some call) (clock : Nat) (spurious : Bool)
    (outside : RecheckOutsideWindow state (.advance index clock spurious)) :
    Separated ({ state with metadata := (call.step clock spurious state.metadata).1 }.deliver index
      (call.step clock spurious state.metadata).2) := by
  have member : call ∈ state.calls := List.mem_of_getElem? running
  rcases call.step_separates clock spurious state.metadata (accounted.sound call member) with
    quiet | ⟨publisher, noRefs⟩ | ⟨rfl, confirmed⟩
  · refine separated.quiet quiet.uid ?_ ?_ ?_
    · rintro ⟨other, inside, window⟩
      rcases mem_replaced inside with older | own
      · exact ⟨other, older, window⟩
      · exact ⟨call, member, quiet.window other own window⟩
    · rintro (returned | ⟨other, inside, holder⟩)
      · by_cases fresh : (call.step clock spurious state.metadata).2.reservations = []
        · exact .inl (by simpa [State.deliver, fresh] using returned)
        · exact .inr ⟨call, member, quiet.reservations fresh⟩
      · rcases mem_replaced inside with older | own
        · exact .inr ⟨other, older, holder⟩
        · exact .inr ⟨call, member, quiet.behind other own holder⟩
    · intro reference alive valid
      rcases List.mem_append.mp alive with older | own
      · exact older
      · simp [quiet.refs reference own] at valid
  · refine separated_of_unread ?_
    have unread : ∀ reference ∈ state.refs, reference.valid = false := by
      rcases publisher with unreferenced | inside
      · exact accounted.unread unreferenced
      · exact separated.window ⟨call, member, inside⟩
    intro reference alive
    rw [State.deliver, noRefs, List.append_nil] at alive
    exact unread reference alive
  · have noWindow := outside _ running rfl rfl
    rw [confirmed]
    constructor
    · rintro ⟨other, inside, window⟩
      rcases mem_replaced inside with older | own
      · exact absurd window (noWindow other older)
      · simp [Progress.calls] at own
    · intro holder reference alive valid
      rcases List.mem_append.mp alive with older | own
      · refine separated.behind ?_ reference older valid
        rcases holder with returned | ⟨other, inside, behind⟩
        · exact .inl returned
        · rcases mem_replaced inside with earlier | own
          · exact .inr ⟨other, earlier, behind⟩
          · simp [Progress.calls] at own
      · rw [List.mem_singleton.mp own]
        rfl

/-- Detaching one BufferRef and rearranging the others keeps the separation. -/
theorem Separated.release {state : State} (separated : Separated state)
    (accounted : Accounted state) {index : Nat} {old : BufferRef}
    (found : state.refs[index]? = some old) {refs : List BufferRef}
    (kept : ∀ reference ∈ refs, reference.valid = true → reference ∈ state.refs) :
    Separated { state.release old with refs := refs } := by
  obtain ⟨metadata, released, uid, _⟩ := accounted.release found
  rw [released]
  exact separated.quiet uid id id kept

/-- A placed BufferRef is the new one, or it was there before. -/
theorem mem_placed {refs : List BufferRef} {index : Nat} {placed reference : BufferRef}
    (alive : reference ∈ refs.set index placed) : reference = placed ∨ reference ∈ refs :=
  (List.mem_or_eq_of_mem_set alive).symm

/-- An emptied object is not valid, so a valid one was not moved from. -/
theorem valid_not_empty {reference : BufferRef} (valid : reference.valid = true) :
    reference ≠ BufferRef.empty := by
  rintro rfl
  cases valid

/-- Every action outside the race keeps the separation: an operation of a call, or a move or
release of a BufferRef. -/
theorem step_separated (state next : State) (action : Action) (separated : Separated state)
    (accounted : Accounted state) (outside : RecheckOutsideWindow state action)
    (moved : step state action = some next) : Separated next := by
  have begun (call : Call) (notYet : ∀ uid, ¬ call.inWindow uid) (notBehind : ¬ call.behindWindow) :
      Separated { state with calls := state.calls ++ [call] } := by
    refine separated.quiet rfl ?_ ?_ (fun reference alive _ => alive)
    · rintro ⟨other, inside, window⟩
      rcases List.mem_append.mp inside with older | own
      · exact ⟨other, older, window⟩
      · exact absurd ((List.mem_singleton.mp own) ▸ window) (notYet _)
    · rintro (returned | ⟨other, inside, holder⟩)
      · exact .inl returned
      · rcases List.mem_append.mp inside with older | own
        · exact .inr ⟨other, older, holder⟩
        · exact absurd ((List.mem_singleton.mp own) ▸ holder) notBehind
  cases action with
  | reserve =>
    obtain rfl := Option.some.inj moved
    refine begun _ ?_ ?_ <;> simp [Call.inWindow, Call.behindWindow, ReserveCall.start]
  | settle index published =>
    simp only [step] at moved
    cases found : state.reservations[index]? with
    | none => simp [found] at moved
    | some uid =>
      simp only [found, Option.some.injEq] at moved
      subst moved
      have held : state.reservations ≠ [] := List.ne_nil_of_mem (List.mem_of_getElem? found)
      refine separated.quiet rfl ?_ (fun _ => .inl held) (fun reference alive _ => alive)
      rintro ⟨other, inside, window⟩
      rcases List.mem_append.mp inside with older | own
      · exact ⟨other, older, window⟩
      · rw [List.mem_singleton.mp own] at window
        exact window.elim
  | acquire uid =>
    obtain rfl := Option.some.inj moved
    refine begun _ ?_ ?_ <;> simp [Call.inWindow, Call.behindWindow]
  | advance index clock spurious =>
    simp only [step] at moved
    cases running : state.calls[index]? with
    | none => simp [running] at moved
    | some call =>
      simp only [running, Option.some.injEq] at moved
      exact moved ▸ separated.advance accounted running clock spurious outside
  | moveConstruct source =>
    simp only [step] at moved
    cases found : state.refs[source]? with
    | none => simp [found] at moved
    | some reference =>
      simp only [found, Option.some.injEq] at moved
      subst moved
      refine separated.quiet rfl id id ?_
      intro other alive valid
      rcases List.mem_append.mp alive with placed | own
      · exact (mem_placed placed).resolve_left (valid_not_empty valid)
      · exact (List.mem_singleton.mp own) ▸ List.mem_of_getElem? found
  | moveAssign target source =>
    simp only [step] at moved
    cases foundTarget : state.refs[target]? with
    | none => simp [foundTarget] at moved
    | some old =>
      cases foundSource : state.refs[source]? with
      | none => simp [foundTarget, foundSource] at moved
      | some reference =>
        simp only [foundTarget, foundSource] at moved
        split at moved
        · exact (Option.some.inj moved) ▸ separated
        · rw [← Option.some.inj moved]
          refine separated.release accounted foundTarget ?_
          intro other alive valid
          have placed := (mem_placed alive).resolve_left (valid_not_empty valid)
          rcases mem_placed placed with own | older
          · exact own ▸ List.mem_of_getElem? foundSource
          · exact older
  | destroy index =>
    simp only [step] at moved
    cases found : state.refs[index]? with
    | none => simp [found] at moved
    | some old =>
      simp only [found, Option.some.injEq] at moved
      rw [← moved]
      exact separated.release accounted found
        (fun other alive _ => List.mem_of_mem_eraseIdx alive)

/-- Outside the race a reachable block is separated or exhausted. By induction on the run, with
the accounting beside it. -/
theorem reachable_separated {state : State}
    (reached : Reachable step RecheckOutsideWindow Initial state) :
    Accounted state ∧ Separated state ∨ Exhausted state := by
  have initially : ∀ created, Initial created →
      Accounted created ∧ Separated created ∨ Exhausted created := by
    intro created initial
    refine .inl ⟨initial_accounted created initial, separated_of_unread ?_⟩
    obtain ⟨value, rfl⟩ := initial
    simp
  refine Reachable.invariant initially ?_ reached
  intro earlier later action _ regime outside moved
  rcases regime with ⟨accounted, separated⟩ | exhausted
  · rcases accounted.step moved with still | ⟨_, ended⟩
    · exact .inl ⟨still, step_separated earlier later action separated accounted outside moved⟩
    · exact .inr ended
  · exact .inr (step_exhausted earlier later action exhausted moved)

/-- A call which keeps running keeps its place among the calls. -/
theorem deliver_running (state : State) {index : Nat} {call : Call} (next : Call)
    (running : state.calls[index]? = some call) :
    (state.deliver index (.running next)).calls[index]? = some next := by
  have inside : index < state.calls.length := (List.getElem?_eq_some_iff.mp running).1
  have width : (state.calls.take index).length = index :=
    List.length_take_of_le (Nat.le_of_lt inside)
  simp only [State.deliver, Progress.calls, List.append_assoc]
  rw [List.getElem?_append_right (by omega), width, Nat.sub_self]
  rfl

/-- The publisher's remaining operations from a call inside its window return
the reservation of a new uid, and touch no BufferRef. -/
theorem window_returns {state : State} {index now nextUid : Nat}
    (running : state.calls[index]? = some (.reserve ⟨now, .storeUid nextUid⟩)) :
    ∃ final, Reachable step SinglePublisher (fun origin => origin = state) final ∧
      nextUid ∈ final.reservations ∧ final.refs = state.refs := by
  have renewed : step state (.advance index 0 false) =
      some ({ state with metadata := { state.metadata with uid := nextUid } }.deliver index
        (.running (.reserve ⟨now, .storeTimestamp nextUid⟩))) := by
    simp [step, running, Call.step, ReserveCall.step, reserveProgress]
  have moved := deliver_running { state with metadata := { state.metadata with uid := nextUid } }
    (.reserve ⟨now, .storeTimestamp nextUid⟩) running
  refine ⟨_, .step _ _ (.advance index 0 false) (.step _ _ (.advance index 0 false)
    (.start state rfl) trivial renewed) trivial (by simp only [step, moved]; rfl), ?_, ?_⟩
  · simp [State.deliver, Call.step, ReserveCall.step, reserveProgress, Progress.reservations]
  · simp [State.deliver, Call.step, ReserveCall.step, reserveProgress, Progress.refs]

/-- A publisher in its window can return the reservation of a new uid, by its own operations and
with every BufferRef as it is. -/
theorem inWindow_returns {state : State} {call : Call} (member : call ∈ state.calls)
    (window : call.inWindow state.metadata.uid) (sound : call.Sound state.metadata.uid) :
    ∃ final, Reachable step SinglePublisher (fun origin => origin = state) final ∧
      state.metadata.uid + 1 ∈ final.reservations ∧ final.refs = state.refs := by
  obtain ⟨index, running⟩ := List.mem_iff_getElem?.mp member
  cases call with
  | reserve call =>
    obtain ⟨now, pc⟩ := call
    rcases window with ⟨rfl, room⟩ | ⟨nextUid, rfl⟩
    · have loaded : step state (.advance index 0 false) =
          some (state.deliver index
            (.running (.reserve ⟨now, .storeUid (state.metadata.uid + 1)⟩))) := by
        simp [step, running, Call.step, ReserveCall.step, reserveProgress, room]
      have moved := deliver_running state
        (.reserve ⟨now, .storeUid (state.metadata.uid + 1)⟩) running
      obtain ⟨final, continued, returned, refs⟩ := window_returns moved
      refine ⟨final, Reachable.trans ?_ continued, returned, ?_⟩
      · exact .step _ _ (.advance index 0 false) (.start state rfl) trivial loaded
      · simpa [State.deliver, Progress.refs] using refs
    · have renewed : nextUid = state.metadata.uid + 1 := sound.1
      exact renewed ▸ window_returns running
  | settle _ | acquire _ | underflowedRelease => exact window.elim

/-- An acquire which passes its second check inside the window is not harmless:
the publisher's own next operations reach a state without exclusion. -/
theorem race_breaks_exclusion {state next : State} {action : Action}
    (reached : Reachable step SinglePublisher Initial state)
    (raced : ¬ RecheckOutsideWindow state action) (moved : step state action = some next) :
    ∃ final, Reachable step SinglePublisher (fun origin => origin = next) final ∧
      ¬ Exclusion final := by
  cases action with
  | advance index clock spurious =>
    simp only [RecheckOutsideWindow, not_forall, not_not] at raced
    obtain ⟨call, running, position, current, other, member, window⟩ := raced
    obtain ⟨uid, pc⟩ := call
    subst position current
    have accounted : Accounted state := by
      rcases reachable_regime reached with accounted | exhausted
      · exact accounted
      · have barren := exhausted.barren other member
        cases other with
        | reserve other =>
          rcases window with ⟨_, room⟩ | ⟨nextUid, storing⟩
          · exact absurd exhausted.last room
          · exact absurd storing (barren nextUid).1
        | settle _ | acquire _ | underflowedRelease => exact window.elim
    have confirmed : next = state.deliver index (.acquired ⟨true, state.metadata.uid⟩) := by
      simpa [step, running, Call.step, AcquireCall.step, acquireProgress, acquiredRef] using
        moved.symm
    have stays : other ∈ next.calls := by
      rw [split_found state.calls index _ running] at member
      have distinct : other ≠ .acquire ⟨state.metadata.uid, .recheckUid⟩ := by
        rintro rfl
        exact window.elim
      rw [confirmed]
      simpa [State.deliver, Progress.calls, distinct] using member
    have sameUid : next.metadata.uid = state.metadata.uid := by rw [confirmed]; rfl
    have sound : other.Sound state.metadata.uid := accounted.sound other member
    rw [← sameUid] at window sound
    obtain ⟨final, continued, returned, refs⟩ := inWindow_returns stays window sound
    refine ⟨final, continued, fun excluded => ?_⟩
    have alive : (⟨true, state.metadata.uid⟩ : BufferRef) ∈ final.refs := by
      rw [refs, confirmed]
      simp [State.deliver, Progress.refs]
    have same := excluded _ (List.mem_append_left _ returned) _ alive rfl
    simp only [sameUid] at same
    omega
  | reserve | settle | acquire | moveConstruct | moveAssign | destroy =>
    exact absurd trivial raced

/-- Exclusion holds exactly outside the race: every state of a run in which no
acquire passes its second uid check inside the publisher's window has it, and a
single acquire passing there leads the publisher into a state without it. -/
theorem exclusion_outside_window (state : State) :
    (Reachable step RecheckOutsideWindow Initial state → Exclusion state) ∧
    ∀ next action, Reachable step SinglePublisher Initial state →
      ¬ RecheckOutsideWindow state action → step state action = some next →
      ∃ final, Reachable step SinglePublisher (fun origin => origin = next) final ∧
        ¬ Exclusion final := by
  constructor
  · intro reached
    rcases reachable_separated reached with ⟨accounted, separated⟩ | exhausted
    · exact separated.exclusion accounted
    · exact exhausted.exclusion
  · intro next action reached raced moved
    exact race_breaks_exclusion reached raced moved

/-- The same schedule with the reader's second check after the uid store, where it fails. -/
def lateRead : List Action :=
  [.reserve] ++ List.replicate 7 (.advance 0 1 false) ++
    [.settle 0 true] ++ List.replicate 4 (.advance 0 1 false) ++
    [.reserve] ++ List.replicate 4 (.advance 0 100001 false) ++
    [.acquire 2] ++ List.replicate 3 (.advance 1 100001 false) ++
    List.replicate 2 (.advance 0 100001 false)

instance (uid : Nat) (call : Call) : Decidable (call.inWindow uid) :=
  match call with
  | .reserve ⟨_, .loadUid⟩ => decidable_of_iff (uid ≠ uint64Max) (by simp [Call.inWindow])
  | .reserve ⟨_, .storeUid nextUid⟩ => isTrue (.inr ⟨nextUid, rfl⟩)
  | .reserve ⟨_, .sampleClock⟩ | .reserve ⟨_, .loadRefcount⟩ | .reserve ⟨_, .loadTimestamp⟩
  | .reserve ⟨_, .claim⟩ | .reserve ⟨_, .storeRefcount⟩ | .reserve ⟨_, .storeTimestamp _⟩ =>
    isFalse (by simp [Call.inWindow])
  | .settle _ | .acquire _ | .underflowedRelease => isFalse id

instance (state : State) (action : Action) : Decidable (RecheckOutsideWindow state action) :=
  match action with
  | .advance index _ _ =>
    match found : state.calls[index]? with
    | some (.acquire call) =>
      decidable_of_iff (call.pc = .recheckUid → state.metadata.uid = call.uid →
        ∀ other ∈ state.calls, ¬ other.inWindow state.metadata.uid)
        (by simp [RecheckOutsideWindow, found])
    | none | some (.reserve _) | some (.settle _) | some .underflowedRelease =>
      isTrue (by simp [RecheckOutsideWindow, found])
  | .reserve | .settle _ _ | .acquire _ | .moveConstruct _ | .moveAssign _ _ | .destroy _ =>
    isTrue trivial

/-- A reader inside the publisher's window whose second check comes after the uid
store is excluded; one whose second check comes before it is not. -/
theorem exclusion_outside_window_schedules :
    (∃ state, run (guarded step RecheckOutsideWindow) fresh lateRead = some state ∧
      Exclusion state) ∧
    ∃ raced final, run (guarded step SinglePublisher) fresh (racedRead.take 23) = some raced ∧
      Reachable step SinglePublisher (fun origin => origin = raced) final ∧
        ¬ Exclusion final := by
  have late : run (guarded step RecheckOutsideWindow) fresh lateRead =
      some ⟨⟨3, 2, 1⟩, [.reserve ⟨100001, .storeTimestamp 3⟩, .acquire ⟨2, .recheckUid⟩], [], [],
        [⟨2, true, true⟩]⟩ := by decide
  have early : run (guarded step SinglePublisher) fresh (racedRead.take 22) =
      some ⟨⟨2, 2, 1⟩, [.reserve ⟨100001, .loadUid⟩, .acquire ⟨2, .recheckUid⟩], [], [],
        [⟨2, true, true⟩]⟩ := by decide
  have checked : run (guarded step SinglePublisher) fresh (racedRead.take 23) =
      some ⟨⟨2, 2, 1⟩, [.reserve ⟨100001, .loadUid⟩], [], [⟨true, 2⟩], [⟨2, true, true⟩]⟩ := by
    decide
  have excluded := (exclusion_outside_window _).1 (reachable_run lateRead fresh _
    (.start fresh ⟨1, rfl⟩) late)
  obtain ⟨final, continued, broken⟩ := (exclusion_outside_window _).2 _ (.advance 1 100001 false)
    (reachable_run _ fresh _ (.start fresh ⟨1, rfl⟩) early) (by decide) rfl
  exact ⟨⟨_, late, excluded⟩, _, final, checked, continued, broken⟩

end Ros2CudaIpc.BlockProtocol
