import Ros2CudaIpc.DeferredRelease
import Ros2CudaIpc.WeightedLists

/-!
# A dropped handle is released after its completion event, or never

Each place which can hold a handle's state gives that handle one standing, and
each standing admits certain histories only. A release is logged at the end of
one history alone: bound, dropped, recorded on the bound stream, synchronized. A
failure leads to the standing of a retained item, from which no step releases.

The ledger of all standings is consistent in every reachable state. Its count of
numbers is the conservation of items; its histories are the order of events.
-/

namespace Ros2CudaIpc.DeferredRelease

open Reachability WeightedLists

/-- How far a handle has come. A broken one lacks the completion event or the
BufferRef with which it was bound. -/
inductive Stage where
  | held (event : Nat) (stream : CUstream)
  | dropped (event : Nat) (stream : CUstream)
  | recorded (event : Nat)
  | synchronized
  | resourceReleased
  | released
  | retained
  | broken
deriving DecidableEq, Repr

/-- The stage of the handle of a number. A handle has one standing, wherever its state is. -/
structure Standing where
  number : Nat
  stage : Stage
deriving DecidableEq, Repr

/-- Events up to the drop of a handle, newest first: it was bound and dropped. -/
def droppedTrace (handle event : Nat) (stream : CUstream) : List Event :=
  [.dropped handle, .bound handle event stream]

/-- Events up to a successful wait for the recorded completion event, newest first. -/
def completedTrace (handle event : Nat) (stream : CUstream) : List Event :=
  [.synchronized handle event, .recorded handle event stream] ++ droppedTrace handle event stream

/-- The histories a standing admits. A broken standing, without its event, admits none. -/
def Fits (standing : Standing) (history : List Event) : Prop :=
  match standing with
  | ⟨handle, .held event stream⟩ => history = [.bound handle event stream]
  | ⟨handle, .dropped event stream⟩ => history = droppedTrace handle event stream
  | ⟨handle, .recorded event⟩ => ∃ stream,
      history = .recorded handle event stream :: droppedTrace handle event stream
  | ⟨handle, .synchronized⟩ => ∃ event stream, history = completedTrace handle event stream
  | ⟨handle, .resourceReleased⟩ => ∃ event stream,
      history = .resourceReleased handle :: completedTrace handle event stream
  | ⟨handle, .released⟩ => ∃ event stream, history =
      .bufferRefReleased handle :: .resourceReleased handle :: completedTrace handle event stream
  | ⟨handle, .retained⟩ => (∃ failure, .failed handle failure ∈ history) ∧
      .resourceReleased handle ∉ history ∧ .bufferRefReleased handle ∉ history
  | ⟨_, .broken⟩ => False

/-- The standing of a bound state, which must still have what it was bound with. -/
def Bound.standing (bound : Bound) (stage : Nat → CUstream → Stage) : Standing :=
  match bound.impl.completion, bound.impl.bufferRef with
  | some completion, some _ => ⟨bound.number, stage completion.event bound.impl.consumerStream⟩
  | _, _ => ⟨bound.number, .broken⟩

/-- The standing of an item whose completion event has been recorded on the consumer stream. -/
def DeferredItem.recorded (item : DeferredItem) : Standing :=
  match item.completion with
  | some completion => ⟨item.number, .recorded completion.event⟩
  | none => ⟨item.number, .broken⟩

/-- The standing of an item nobody will release, on the failed list or in no container. -/
def DeferredItem.retained (item : DeferredItem) : Standing := ⟨item.number, .retained⟩

/-- The standing of the handle a release works on, which a failure on the way makes a retained
one. -/
def Release.standing : Release → Standing
  | .activating bound | .recording bound => bound.standing .dropped
  | .submitting true item | .inserting true item => item.retained
  | .submitting false item | .inserting false item => item.recorded

/-- The standing of the handle the worker works on, by how far its members have been reset. -/
def Worker.standings : Worker → List Standing
  | .waiting => []
  | .activating item | .synchronizing item => [item.recorded]
  | .retaining item => [item.retained]
  | .resettingCompletion item | .resettingResource item => [⟨item.number, .synchronized⟩]
  | .resettingBufferRef item => [⟨item.number, .resourceReleased⟩]

/-- The standings of the handle objects; an empty handle has none. -/
def heldStandings (handles : List (Option Bound)) : List Standing :=
  handles.filterMap (Option.map (Bound.standing · .held))

/-- Every standing of a state, place by place, in the order of the places. -/
def State.standings (state : State) : List Standing :=
  heldStandings state.handles ++ state.releases.map Release.standing ++
    state.items.map DeferredItem.recorded ++ state.failed.map DeferredItem.retained ++
    state.leaked.map DeferredItem.retained ++ state.worker.standings ++
    state.released.map (⟨·, .released⟩)

/-- The ledger of a state: each number bound so far has one standing, which fits what was logged
about it. -/
def State.Consistent (state : State) : Prop :=
  Ledger.Consistent Standing.number Event.handle Fits state.standings state.log state.created

/-- The standings of two lists of handle objects are those of the one behind those of the other. -/
@[simp] theorem heldStandings_append (left right : List (Option Bound)) :
    heldStandings (left ++ right) = heldStandings left ++ heldStandings right :=
  List.filterMap_append

/-- The standing of the first handle object comes first. -/
@[simp] theorem heldStandings_cons (bound : Option Bound) (rest : List (Option Bound)) :
    heldStandings (bound :: rest) =
      (bound.map (Bound.standing · .held)).toList ++ heldStandings rest := by
  cases bound <;> rfl

/-- Without handle objects there are no standings of them. -/
@[simp] theorem heldStandings_nil : heldStandings [] = [] := rfl

/-- The number of a bound state is its standing's, at whatever stage. -/
theorem Bound.standing_number (bound : Bound) (stage : Nat → CUstream → Stage) :
    (bound.standing stage).number = bound.number := by
  unfold Bound.standing
  split <;> rfl

/-- A recorded item's number is its standing's. -/
theorem DeferredItem.recorded_number (item : DeferredItem) :
    item.recorded.number = item.number := by
  unfold DeferredItem.recorded
  split <;> rfl

/-- A consistent ledger has no broken standing, because no history fits one. -/
theorem State.Consistent.intact {state : State} (consistent : state.Consistent)
    {standing : Standing} (member : standing ∈ state.standings) : standing.stage ≠ .broken := by
  intro broken
  have fitting := consistent.fitting standing member
  obtain ⟨number, stage⟩ := standing
  subst broken
  exact fitting

/-- A bound state with an intact standing has its event and its reference, at this and every other
stage. -/
theorem Bound.intact {bound : Bound} {stage : Nat → CUstream → Stage}
    (intact : (bound.standing stage).stage ≠ .broken) :
    ∃ completion reference, bound.impl.completion = some completion ∧
      bound.impl.bufferRef = some reference ∧
      ∀ other, bound.standing other =
        ⟨bound.number, other completion.event bound.impl.consumerStream⟩ := by
  unfold Bound.standing at intact ⊢
  split at intact
  · next completion reference event held => exact ⟨completion, reference, event, held, by simp [*]⟩
  · exact absurd rfl intact

/-- An item with an intact standing has its completion event. -/
theorem DeferredItem.intact {item : DeferredItem} (intact : item.recorded.stage ≠ .broken) :
    ∃ completion, item.completion = some completion ∧
      item.recorded = ⟨item.number, .recorded completion.event⟩ := by
  unfold DeferredItem.recorded at intact ⊢
  split at intact
  · next completion held => exact ⟨completion, held, by simp⟩
  · exact absurd rfl intact

/-- A failure of an unreleased handle retains it: its history so far fits, with the failure in
front. -/
theorem fits_failed {standing : Standing} {history : List Event} (fitting : Fits standing history)
    (unreleased : standing.stage ≠ .resourceReleased ∧ standing.stage ≠ .released)
    (failure : FallibleStep) :
    Fits ⟨standing.number, .retained⟩ (.failed standing.number failure :: history) := by
  obtain ⟨handle, stage⟩ := standing
  refine ⟨⟨failure, List.mem_cons_self ..⟩, ?_⟩
  cases stage with
  | held | dropped => simp_all [Fits, droppedTrace]
  | recorded =>
    obtain ⟨stream, rfl⟩ := fitting
    simp [droppedTrace]
  | synchronized =>
    obtain ⟨event, stream, rfl⟩ := fitting
    simp [completedTrace, droppedTrace]
  | resourceReleased | released => simp at unreleased
  | retained =>
    obtain ⟨_, noResource, noReference⟩ := fitting
    simp [noResource, noReference]
  | broken => exact fitting.elim

/-- A binding over a context holds its completion event, its reference and the
stream it was given. -/
theorem makeBound_standing {outcomes : BindOutcomes} {publication after : MappedPublication}
    {stream : CUstream} {impl : ReadHandle.Impl} (number : Nat)
    (context : ∀ resource, publication.resource = some resource → resource.context.isSome)
    (bound : ReadHandleFactory.makeBound outcomes publication stream =
      (after, .ok (some ⟨some impl⟩))) :
    Bound.standing ⟨number, impl⟩ .held =
      ⟨number, .held (impl.completion.elim 0 CompletionEvent.event) stream⟩ := by
  unfold ReadHandleFactory.makeBound at bound
  cases held : publication.resource with
  | none => simp [held] at bound
  | some resource =>
    have owned := context resource held
    simp only [held, owned, true_and] at bound
    split at bound
    · simp at bound
    next usable =>
    split at bound
    · simp at bound
    split at bound
    · simp at bound
    split at bound
    · simp at bound
    next completion created =>
    split at bound
    · simp at bound
    next present =>
    split at bound
    · simp at bound
    simp only [Prod.mk.injEq, Except.ok.injEq, Option.some.injEq, ReadHandle.mk.injEq] at bound
    obtain ⟨-, rfl⟩ := bound
    have reference : publication.bufferRef.isSome := by
      simp only [MappedPublication.valid, held, Bool.not_eq_false, Bool.and_eq_true] at usable
      exact usable.2
    obtain ⟨ref, hasRef⟩ := Option.isSome_iff_exists.mp reference
    obtain ⟨event, hasEvent⟩ := Option.ne_none_iff_exists'.mp present
    simp [Bound.standing, hasRef, hasEvent]

/-- A step which logs nothing only moves standings from place to place. -/
theorem State.Consistent.move {state next : State} (consistent : state.Consistent)
    (moved : next.standings.Perm state.standings) (log : next.log = state.log)
    (created : next.created = state.created) : next.Consistent := by
  unfold State.Consistent
  rw [log, created]
  exact Ledger.Consistent.permute consistent moved

/-- Dropping the state of one handle object advances its standing, or leaves the
ledger alone when the object is empty. -/
theorem State.Consistent.drop {state : State} (consistent : state.Consistent)
    {old : Option Bound} {handles : List (Option Bound)}
    (moved : (heldStandings state.handles).Perm
      ((old.map (Bound.standing · .held)).toList ++ heldStandings handles)) :
    State.Consistent { state.drop old with handles := handles } := by
  cases old with
  | none =>
    refine consistent.move (List.perm_iff_count.mpr fun standing => ?_) rfl rfl
    have counted := moved.count_eq standing
    simp [State.standings, State.drop] at counted ⊢
    omega
  | some bound =>
    have member : bound.standing .held ∈ state.standings := by
      simp [State.standings, moved.mem_iff]
    obtain ⟨completion, reference, event, held, standing⟩ :=
      Bound.intact (consistent.intact member)
    have begun : state.drop (some bound) = { state with
        releases := state.releases ++ [.activating bound]
        log := .dropped bound.number :: state.log } := by
      simp [State.drop, event, held]
    rw [begun]
    have before : state.standings.Perm
        (bound.standing .held :: { state with handles := handles }.standings) := by
      refine List.perm_iff_count.mpr fun other => ?_
      have counted := moved.count_eq other
      simp [State.standings, List.count_cons] at counted ⊢
      omega
    refine Ledger.Consistent.advance consistent _ (bound.standing .dropped) before ?_ ?_ ?_ ?_
    · refine List.perm_iff_count.mpr fun other => ?_
      simp [State.standings, List.count_cons, Release.standing]
      omega
    · simp only [standing]
    · simp only [standing, Event.handle]
    · intro history fitting
      rw [standing] at fitting ⊢
      exact congrArg (List.cons _) fitting

/-- A failed step retains the handle it is about, if that is not released yet. -/
theorem State.Consistent.fail {state next : State} (consistent : state.Consistent)
    {old : Standing} {rest : List Standing} (failure : FallibleStep)
    (before : state.standings.Perm (old :: rest))
    (unreleased : old.stage ≠ .resourceReleased ∧ old.stage ≠ .released)
    (after : next.standings.Perm (⟨old.number, .retained⟩ :: rest))
    (log : next.log = .failed old.number failure :: state.log)
    (created : next.created = state.created) : next.Consistent := by
  unfold State.Consistent
  rw [log, created]
  apply Ledger.Consistent.advance consistent old _ before after rfl rfl
  intro history fitting
  exact fits_failed fitting unreleased failure

/-- The standings outside the running releases and the containers they feed, which a release
leaves alone. -/
def State.elsewhere (state : State) : List Standing :=
  heldStandings state.handles ++ state.items.map DeferredItem.recorded ++
    state.failed.map DeferredItem.retained ++ state.leaked.map DeferredItem.retained ++
    state.worker.standings ++ state.released.map (⟨·, .released⟩)

/-- The standing of a bound state is at the stage it is asked for, or broken. -/
theorem Bound.standing_stage (bound : Bound) (stage : Nat → CUstream → Stage) :
    (bound.standing stage).stage = .broken ∨
      ∃ event stream, (bound.standing stage).stage = stage event stream := by
  unfold Bound.standing
  split
  · exact .inr ⟨_, _, rfl⟩
  · exact .inl rfl

/-- A recorded item's standing is not released. -/
theorem DeferredItem.recorded_unreleased (item : DeferredItem) :
    item.recorded.stage ≠ .resourceReleased ∧ item.recorded.stage ≠ .released := by
  unfold DeferredItem.recorded
  split <;> simp

/-- No running release is about a released handle, so a failure may still retain it. -/
theorem Release.unreleased (release : Release) :
    release.standing.stage ≠ .resourceReleased ∧ release.standing.stage ≠ .released := by
  cases release with
  | activating bound | recording bound =>
    rcases bound.standing_stage .dropped with broken | ⟨event, stream, dropped⟩
    · simp [Release.standing, broken]
    · simp [Release.standing, dropped]
  | submitting failed item | inserting failed item =>
    cases failed with
    | true => simp [Release.standing, DeferredItem.retained]
    | false => exact item.recorded_unreleased

/-- The number of the handle a release works on is its standing's. -/
theorem Release.standing_number (release : Release) :
    release.standing.number = release.number := by
  cases release with
  | activating bound | recording bound => exact bound.standing_number _
  | submitting failed item | inserting failed item =>
    cases failed with
    | true => rfl
    | false => exact item.recorded_number

/-- One step of a running release advances its handle's standing, or moves its item on.

Proof: the standings around the release, whatever container it feeds. -/
theorem State.Consistent.release {state : State} (consistent : state.Consistent) {index : Nat}
    {release : Release} (found : state.releases[index]? = some release) (succeeds : Bool) :
    State.Consistent { (state.advance succeeds release).1 with
      releases := state.releases.take index ++ (state.advance succeeds release).2.toList ++
        state.releases.drop (index + 1) } := by
  have member : release.standing ∈ state.standings := by
    have inside := List.mem_map_of_mem (f := Release.standing) (List.mem_of_getElem? found)
    simp [State.standings, inside]
  have intact := consistent.intact member
  have unreleased := release.unreleased
  have numbered := release.standing_number
  unfold Release.number at numbered
  have split := split_found state.releases index release found
  generalize state.releases.take index = before at split ⊢
  generalize state.releases.drop (index + 1) = after at split ⊢
  obtain ⟨rest, same⟩ : ∃ rest, rest =
      before.map Release.standing ++ after.map Release.standing ++ state.elsewhere := ⟨_, rfl⟩
  have around : state.standings.Perm (release.standing :: rest) := by
    refine List.perm_iff_count.mpr fun other => ?_
    simp [State.standings, State.elsewhere, same, split, List.count_cons]
    omega
  cases release with
  | activating bound =>
    cases succeeds with
    | true =>
      refine consistent.move (List.perm_iff_count.mpr fun other => ?_) rfl rfl
      simp [State.standings, State.advance, split, List.count_cons, Release.standing]
    | false =>
      refine consistent.fail .pushCurrent around unreleased ?_ ?_ rfl
      · refine List.perm_iff_count.mpr fun other => ?_
        simp [State.standings, State.elsewhere, State.advance, same, List.count_cons,
          Release.standing, Bound.item, DeferredItem.retained, Bound.standing_number]
        omega
      · simp [State.advance, numbered]
  | recording bound =>
    cases succeeds with
    | true =>
      obtain ⟨completion, reference, event, held, standing⟩ := Bound.intact intact
      refine Ledger.Consistent.advance consistent _
        ⟨bound.number, .recorded completion.event⟩ around ?_ ?_ ?_ ?_
      · refine List.perm_iff_count.mpr fun other => ?_
        simp [State.standings, State.elsewhere, State.advance, same, List.count_cons,
          Release.standing, Bound.item, DeferredItem.recorded, event]
        omega
      · exact numbered.symm
      · exact numbered.symm
      · intro history fitting
        rw [Release.standing, standing] at fitting
        refine ⟨bound.impl.consumerStream, ?_⟩
        simp only [event, Option.elim_some]
        exact congrArg (List.cons _) fitting
    | false =>
      refine consistent.fail .eventRecord around unreleased ?_ ?_ rfl
      · refine List.perm_iff_count.mpr fun other => ?_
        simp [State.standings, State.elsewhere, State.advance, same, List.count_cons,
          Release.standing, Bound.item, DeferredItem.retained, Bound.standing_number]
        omega
      · simp [State.advance, numbered]
  | submitting failed item =>
    by_cases ready : state.constructed = true ∨ succeeds = true
    · refine consistent.move (List.perm_iff_count.mpr fun other => ?_) ?_ ?_
      · cases failed <;>
          simp [State.standings, State.advance, split, ready, List.count_cons, Release.standing]
      · simp [State.advance, ready]
      · simp [State.advance, ready]
    · refine consistent.fail .queueConstruction around unreleased ?_ ?_ ?_
      · refine List.perm_iff_count.mpr fun other => ?_
        simp [State.standings, State.elsewhere, State.advance, same, ready, List.count_cons,
          DeferredItem.retained, numbered]
        omega
      · simp [State.advance, ready, numbered]
      · simp [State.advance, ready]
  | inserting failed item =>
    cases succeeds with
    | true =>
      cases failed with
      | true | false =>
        refine consistent.move (List.perm_iff_count.mpr fun other => ?_) rfl rfl
        simp [State.standings, State.advance, split, List.count_cons, Release.standing]
        omega
    | false =>
      refine consistent.fail .queueInsertion around unreleased ?_ ?_ rfl
      · refine List.perm_iff_count.mpr fun other => ?_
        simp [State.standings, State.elsewhere, State.advance, same, List.count_cons,
          DeferredItem.retained, numbered]
        omega
      · simp [State.advance, numbered]

/-- The standings outside the worker and the queue's containers, which the worker leaves alone. -/
def State.outsideWorker (state : State) : List Standing :=
  heldStandings state.handles ++ state.releases.map Release.standing ++
    state.items.map DeferredItem.recorded ++ state.failed.map DeferredItem.retained ++
    state.leaked.map DeferredItem.retained ++ state.released.map (⟨·, .released⟩)

/-- The standing in the worker's hands is one of the state's, and the others are beside it. -/
theorem standings_around {state : State} {standing : Standing}
    (only : state.worker.standings = [standing]) :
    state.standings.Perm (standing :: state.outsideWorker) := by
  refine List.perm_iff_count.mpr fun other => ?_
  simp [State.standings, State.outsideWorker, only, List.count_cons]
  omega

/-- The context is activated and the item goes on to its synchronization, or it fails and is to be
retained. -/
theorem State.Consistent.activate {state next : State} (consistent : state.Consistent)
    {item : DeferredItem} {succeeds : Bool} (position : state.worker = .activating item)
    (moved : state.work succeeds = some next) : next.Consistent := by
  unfold State.work at moved
  have mine := standings_around (by rw [position, Worker.standings])
  have member : item.recorded ∈ state.standings := mine.mem_iff.mpr (List.mem_cons_self ..)
  obtain ⟨completion, event, standing⟩ := DeferredItem.intact (consistent.intact member)
  simp only [position, event, reduceCtorEq, if_false] at moved
  cases succeeds with
  | true =>
    obtain rfl := Option.some.inj moved
    refine consistent.move (List.perm_iff_count.mpr fun other => ?_) rfl rfl
    simp [State.standings, position, Worker.standings]
  | false =>
    obtain rfl := Option.some.inj moved
    refine consistent.fail .workerPushCurrent mine item.recorded_unreleased ?_ ?_ rfl
    · refine List.perm_iff_count.mpr fun other => ?_
      simp [State.standings, State.outsideWorker, Worker.standings, List.count_cons,
        DeferredItem.retained, item.recorded_number]
      omega
    · simp [item.recorded_number]

/-- The completion event is synchronized, which the item's handle has on record from then on, or
the item fails and is to be retained. -/
theorem State.Consistent.synchronize {state next : State} (consistent : state.Consistent)
    {item : DeferredItem} {succeeds : Bool} (position : state.worker = .synchronizing item)
    (moved : state.work succeeds = some next) : next.Consistent := by
  unfold State.work at moved
  have mine := standings_around (by rw [position, Worker.standings])
  have member : item.recorded ∈ state.standings := mine.mem_iff.mpr (List.mem_cons_self ..)
  obtain ⟨completion, event, standing⟩ := DeferredItem.intact (consistent.intact member)
  simp only [position] at moved
  cases succeeds with
  | true =>
    obtain rfl := Option.some.inj moved
    refine Ledger.Consistent.advance consistent _ ⟨item.number, .synchronized⟩ mine
      ?_ ?_ ?_ ?_
    · refine List.perm_iff_count.mpr fun other => ?_
      simp [State.standings, State.outsideWorker, Worker.standings, List.count_cons]
      omega
    · exact item.recorded_number.symm
    · exact item.recorded_number.symm
    · intro history fitting
      rw [standing] at fitting
      obtain ⟨stream, rfl⟩ := fitting
      exact ⟨completion.event, stream, by rw [event]; rfl⟩
  | false =>
    obtain rfl := Option.some.inj moved
    refine consistent.fail .eventSynchronize mine item.recorded_unreleased ?_ ?_ rfl
    · refine List.perm_iff_count.mpr fun other => ?_
      simp [State.standings, State.outsideWorker, Worker.standings, List.count_cons,
        DeferredItem.retained, item.recorded_number]
      omega
    · simp [item.recorded_number]

/-- A failed item is retained, or leaked when it cannot be inserted. -/
theorem State.Consistent.retain {state next : State} (consistent : state.Consistent)
    {item : DeferredItem} {succeeds : Bool} (position : state.worker = .retaining item)
    (moved : state.work succeeds = some next) : next.Consistent := by
  unfold State.work at moved
  have mine := standings_around (by rw [position, Worker.standings])
  simp only [position] at moved
  cases succeeds with
  | true =>
    obtain rfl := Option.some.inj moved
    refine consistent.move (List.perm_iff_count.mpr fun other => ?_) rfl rfl
    simp [State.standings, position, Worker.standings, List.count_cons]
    omega
  | false =>
    obtain rfl := Option.some.inj moved
    refine consistent.fail .queueInsertion mine ?_ ?_ rfl rfl
    · simp [DeferredItem.retained]
    · refine List.perm_iff_count.mpr fun other => ?_
      simp [State.standings, State.outsideWorker, Worker.standings, List.count_cons,
        DeferredItem.retained]
      omega

/-- One step of the worker advances the standing of the handle in its hands, or
moves its item on. -/
theorem State.Consistent.work {state next : State} (consistent : state.Consistent)
    {succeeds : Bool} (moved : state.work succeeds = some next) : next.Consistent := by
  have whole := moved
  unfold State.work at moved
  cases position : state.worker with
  | waiting =>
    rw [position] at moved
    cases pending : state.items with
    | nil => simp [pending] at moved
    | cons item rest =>
      simp only [pending, Option.some.injEq] at moved
      subst moved
      refine consistent.move (List.perm_iff_count.mpr fun other => ?_) rfl rfl
      simp [State.standings, position, pending, Worker.standings, List.count_cons]
      omega
  | activating item => exact consistent.activate position whole
  | synchronizing item => exact consistent.synchronize position whole
  | retaining item => exact consistent.retain position whole
  | resettingCompletion item =>
    simp only [position, Option.some.injEq] at moved
    subst moved
    refine consistent.move (List.perm_iff_count.mpr fun other => ?_) rfl rfl
    simp [State.standings, position, Worker.standings]
  | resettingResource item =>
    have mine := standings_around (by rw [position, Worker.standings])
    simp only [position, Option.some.injEq] at moved
    subst moved
    refine Ledger.Consistent.advance consistent _ ⟨item.number, .resourceReleased⟩ mine
      ?_ rfl rfl ?_
    · refine List.perm_iff_count.mpr fun other => ?_
      simp [State.standings, State.outsideWorker, Worker.standings, List.count_cons]
      omega
    · rintro history ⟨event, stream, rfl⟩
      exact ⟨event, stream, rfl⟩
  | resettingBufferRef item =>
    have mine := standings_around (by rw [position, Worker.standings])
    simp only [position, Option.some.injEq] at moved
    subst moved
    refine Ledger.Consistent.advance consistent _ ⟨item.number, .released⟩ mine
      ?_ rfl rfl ?_
    · refine List.perm_iff_count.mpr fun other => ?_
      simp [State.standings, State.outsideWorker, Worker.standings, List.count_cons]
      omega
    · rintro history ⟨event, stream, rfl⟩
      exact ⟨event, stream, rfl⟩

/-- Every action on handles with a context keeps the ledger consistent.

Proof: the target's old standing goes, the source's moves to the target. -/
theorem step_consistent (state next : State) (action : Action) (consistent : state.Consistent)
    (allowed : WithContext state action) (moved : step state action = some next) :
    next.Consistent := by
  cases action with
  | makeBound outcomes publication stream =>
    simp only [step] at moved
    split at moved
    · next impl result =>
      obtain rfl := Option.some.inj moved
      have standing := makeBound_standing state.created allowed
        (Prod.ext_iff.mpr ⟨rfl, result⟩)
      refine Ledger.Consistent.create consistent
        (Bound.standing ⟨state.created, impl⟩ .held) ?_ rfl ?_ ?_
      · exact Bound.standing_number _ _
      · rw [standing]
        rfl
      · refine List.perm_iff_count.mpr fun other => ?_
        simp [State.standings, List.count_cons]
        omega
    · exact (Option.some.inj moved) ▸ consistent
  | moveConstruct source =>
    simp only [step] at moved
    cases found : state.handles[source]? with
    | none => simp [found] at moved
    | some bound =>
      simp only [found, Option.some.injEq] at moved
      subst moved
      obtain ⟨before, after, split, -, replaced⟩ := focus state.handles source bound found
      refine consistent.move (List.perm_iff_count.mpr fun other => ?_) rfl rfl
      rw [replaced]
      simp [State.standings, split]
      omega
  | moveAssign target source =>
    simp only [step] at moved
    cases foundTarget : state.handles[target]? with
    | none => simp [foundTarget] at moved
    | some old =>
      cases foundSource : state.handles[source]? with
      | none => simp [foundTarget, foundSource] at moved
      | some bound =>
        simp only [foundTarget, foundSource] at moved
        split at moved
        · exact (Option.some.inj moved) ▸ consistent
        next different =>
          obtain rfl := Option.some.inj moved
          refine consistent.drop (List.perm_iff_count.mpr fun other => ?_)
          obtain ⟨before, after, split, -, replaced⟩ := focus state.handles target old foundTarget
          have stays : (state.handles.set target bound)[source]? = some bound := by
            rw [List.getElem?_set_ne different, foundSource]
          obtain ⟨earlier, later, split', -, emptied⟩ := focus _ source bound stays
          have counted := congrArg (fun handles => (heldStandings handles).count other) split'
          rw [emptied]
          simp only [replaced] at counted
          simp [split] at counted ⊢
          omega
  | destroy index =>
    simp only [step] at moved
    cases found : state.handles[index]? with
    | none => simp [found] at moved
    | some old =>
      simp only [found, Option.some.injEq] at moved
      subst moved
      obtain ⟨before, after, split, removed, -⟩ := focus state.handles index old found
      refine consistent.drop (List.perm_iff_count.mpr fun other => ?_)
      rw [removed]
      simp [split]
      omega
  | release index succeeds =>
    simp only [step] at moved
    cases found : state.releases[index]? with
    | none => simp [found] at moved
    | some release =>
      simp only [found, Option.some.injEq] at moved
      subst moved
      exact consistent.release found succeeds
  | work succeeds => exact consistent.work moved

/-- The ledger is consistent in every reachable state, for handles whose resource has a context.
By induction on the run. -/
theorem reachable_consistent {state : State}
    (reached : Reachable step WithContext (· = initial) state) : state.Consistent := by
  refine Reachable.invariant ?_ ?_ reached
  · rintro start rfl
    exact Ledger.Consistent.empty
  · intro earlier later action _ consistent allowed moved
    exact step_consistent earlier later action consistent allowed moved

end Ros2CudaIpc.DeferredRelease
