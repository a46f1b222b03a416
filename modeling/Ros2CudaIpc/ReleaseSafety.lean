import Ros2CudaIpc.ReleaseLedger

/-!
# Deferred release is safe

The consistent ledger read from outside: what the log of any run shows about
each handle, and where each bound handle is.
-/

namespace Ros2CudaIpc.DeferredRelease

open Reachability

/-- What every run of handles with a context shows. The log is newest first, so
a sublist of it lists events in the reverse of the order in which they happened. -/
structure ReleaseSafe (state : State) : Prop where
  atMostOnce : ∀ handle, state.log.count (.bufferRefReleased handle) ≤ 1 ∧
    state.log.count (.resourceReleased handle) ≤ 1
  bufferRefAfterCompletion : ∀ handle, .bufferRefReleased handle ∈ state.log →
    ∃ event stream, List.Sublist
      [.bufferRefReleased handle, .synchronized handle event, .recorded handle event stream,
        .dropped handle, .bound handle event stream] state.log
  resourceAfterCompletion : ∀ handle, .resourceReleased handle ∈ state.log →
    ∃ event stream, List.Sublist
      [.resourceReleased handle, .synchronized handle event, .recorded handle event stream,
        .dropped handle, .bound handle event stream] state.log
  failureRetains : ∀ handle failure, .failed handle failure ∈ state.log →
    .bufferRefReleased handle ∉ state.log ∧ .resourceReleased handle ∉ state.log
  conserved : state.places.Perm (List.range state.created)
  releasedLogged : ∀ handle, handle ∈ state.released → .bufferRefReleased handle ∈ state.log

/-- A history with a release is the one history of its kind: bound, dropped, recorded,
synchronised and released in turn. -/
theorem fits_releases {standing : Standing} {history : List Event}
    (fitting : Fits standing history) :
    (history.count (.bufferRefReleased standing.number) ≤ 1 ∧
      history.count (.resourceReleased standing.number) ≤ 1) ∧
    (.bufferRefReleased standing.number ∈ history → ∃ event stream, history =
      .bufferRefReleased standing.number :: .resourceReleased standing.number ::
        completedTrace standing.number event stream) ∧
    (.resourceReleased standing.number ∈ history → ∃ event stream, List.Sublist
      (.resourceReleased standing.number :: completedTrace standing.number event stream)
        history) := by
  obtain ⟨handle, stage⟩ := standing
  cases stage with
  | held event stream | dropped event stream =>
    obtain rfl := fitting
    simp [droppedTrace]
  | recorded event =>
    obtain ⟨stream, rfl⟩ := fitting
    simp [droppedTrace]
  | synchronized =>
    obtain ⟨event, stream, rfl⟩ := fitting
    simp [completedTrace, droppedTrace]
  | resourceReleased =>
    obtain ⟨event, stream, rfl⟩ := fitting
    refine ⟨by simp [completedTrace, droppedTrace], by simp [completedTrace, droppedTrace], ?_⟩
    exact fun _ => ⟨event, stream, List.Sublist.refl _⟩
  | released =>
    obtain ⟨event, stream, rfl⟩ := fitting
    refine ⟨by simp [completedTrace, droppedTrace], fun _ => ⟨event, stream, rfl⟩, ?_⟩
    exact fun _ => ⟨event, stream, List.sublist_cons_self _ _⟩
  | retained =>
    obtain ⟨_, noResource, noReference⟩ := fitting
    simp only at noResource noReference ⊢
    simp [List.count_eq_zero_of_not_mem, noResource, noReference]
  | broken => exact fitting.elim

/-- A history with a failure has no release, neither of the resource nor of the reference. -/
theorem fits_failure {standing : Standing} {history : List Event} {failure : FallibleStep}
    (fitting : Fits standing history)
    (failed : .failed standing.number failure ∈ history) :
    .bufferRefReleased standing.number ∉ history ∧
      .resourceReleased standing.number ∉ history := by
  obtain ⟨handle, stage⟩ := standing
  cases stage with
  | held event stream | dropped event stream =>
    obtain rfl := fitting
    simp [droppedTrace] at failed
  | recorded event =>
    obtain ⟨stream, rfl⟩ := fitting
    simp [droppedTrace] at failed
  | synchronized | resourceReleased | released =>
    obtain ⟨event, stream, rfl⟩ := fitting
    simp [completedTrace, droppedTrace] at failed
  | retained => exact ⟨fitting.2.2, fitting.2.1⟩
  | broken => exact fitting.elim

/-- Membership of an event in the log is membership in its handle's history. -/
theorem mem_trace_iff (event : Event) (log : List Event) :
    event ∈ Ledger.trace Event.handle event.handle log ↔ event ∈ log := by
  simp [Ledger.trace]

/-- The standings list the same handles as the places, in the same order. -/
theorem standings_number (state : State) :
    state.standings.map Standing.number = state.places := by
  have held : (heldStandings state.handles).map Standing.number =
      state.handles.filterMap (Option.map Bound.number) := by
    rw [heldStandings, List.map_filterMap]
    refine List.filterMap_congr fun bound _ => ?_
    cases bound with
    | none => rfl
    | some bound => exact congrArg some (bound.standing_number _)
  have worked : state.worker.standings.map Standing.number = state.worker.numbers := by
    cases state.worker <;> simp [Worker.standings, Worker.numbers, DeferredItem.retained,
      DeferredItem.recorded_number]
  simp [State.standings, State.places, held, worked, Function.comp_def, Release.standing_number,
    DeferredItem.recorded_number, DeferredItem.retained]

/-- The histories of a consistent ledger are those of safe releases.

Proof: each logged event is in the history of its handle's standing. -/
theorem State.Consistent.safe {state : State} (consistent : state.Consistent) :
    ReleaseSafe state := by
  have read (event : Event) (logged : event ∈ state.log) : ∃ standing,
      standing.number = event.handle ∧ event ∈ Ledger.trace Event.handle event.handle state.log ∧
        Fits standing (Ledger.trace Event.handle event.handle state.log) := by
    obtain ⟨standing, -, same, inside, fitting⟩ := Ledger.Consistent.history consistent logged
    rw [same] at inside fitting
    exact ⟨standing, same, inside, fitting⟩
  constructor
  · intro handle
    constructor
    · by_cases logged : Event.bufferRefReleased handle ∈ state.log
      · obtain ⟨standing, same, _, fitting⟩ := read _ logged
        obtain rfl : standing.number = handle := same
        rw [← Ledger.count_trace Event.handle]
        exact (fits_releases fitting).1.1
      · rw [List.count_eq_zero_of_not_mem logged]
        exact Nat.zero_le 1
    · by_cases logged : Event.resourceReleased handle ∈ state.log
      · obtain ⟨standing, same, _, fitting⟩ := read _ logged
        obtain rfl : standing.number = handle := same
        rw [← Ledger.count_trace Event.handle]
        exact (fits_releases fitting).1.2
      · rw [List.count_eq_zero_of_not_mem logged]
        exact Nat.zero_le 1
  · intro handle logged
    obtain ⟨standing, same, inside, fitting⟩ := read _ logged
    obtain rfl : standing.number = handle := same
    obtain ⟨event, stream, history⟩ := (fits_releases fitting).2.1 inside
    have ordered : List.Sublist
        (.bufferRefReleased standing.number :: completedTrace standing.number event stream)
        (Ledger.trace Event.handle standing.number state.log) := by
      rw [show Ledger.trace Event.handle standing.number state.log = _ from history]
      exact (List.sublist_cons_self _ _).cons_cons _
    exact ⟨event, stream, ordered.trans (Ledger.trace_sublist _ _ state.log)⟩
  · intro handle logged
    obtain ⟨standing, same, inside, fitting⟩ := read _ logged
    obtain rfl : standing.number = handle := same
    obtain ⟨event, stream, ordered⟩ := (fits_releases fitting).2.2 inside
    exact ⟨event, stream, ordered.trans (Ledger.trace_sublist _ _ state.log)⟩
  · intro handle failure logged
    obtain ⟨standing, same, inside, fitting⟩ := read _ logged
    obtain rfl : standing.number = handle := same
    have unreleased := fits_failure fitting inside
    exact ⟨fun released => unreleased.1 ((mem_trace_iff _ state.log).mpr released),
      fun released => unreleased.2 ((mem_trace_iff _ state.log).mpr released)⟩
  · rw [← standings_number]
    exact consistent.numbered
  · intro handle released
    have member : (⟨handle, .released⟩ : Standing) ∈ state.standings := by
      simp [State.standings, released]
    obtain ⟨event, stream, history⟩ := consistent.fitting _ member
    apply (Ledger.trace_sublist Event.handle handle state.log).subset
    rw [history]
    exact List.mem_cons_self ..

/-- Deferred release is safe and happens at most once. For handles bound over a
CUDA context, whatever is moved, overwritten and destroyed, whichever steps fail
and however the releasing threads and the worker interleave: each BufferRef and
resource reference is released at most once, after the wait on an event recorded
on the handle's own stream after its drop; a failed step retains both for ever;
and every handle is in exactly one place. -/
theorem deferred_release_safe (state : State)
    (reached : Reachable step WithContext (· = initial) state) : ReleaseSafe state :=
  (reachable_consistent reached).safe

instance (state : State) (action : Action) : Decidable (WithContext state action) :=
  match action with
  | .makeBound _ publication _ =>
    match held : publication.resource with
    | none => isTrue (by simp [WithContext, held])
    | some resource => decidable_of_iff (resource.context.isSome = true)
        (by simp [WithContext, held])
  | .moveConstruct _ | .moveAssign _ _ | .destroy _ | .release _ _ | .work _ => isTrue trivial

/-- Two handles on one mapping: one is overwritten and released, the record of
the other fails. -/
def overwriteAndFail : List Action :=
  let outcomes : BindOutcomes := ⟨true, true, true, some 6, true, true⟩
  let publication : MappedPublication :=
    ⟨some ⟨4096, 5, some ⟨0⟩, 4096, 9, 4096⟩, some ⟨true, 2⟩, 16, 0⟩
  [.makeBound outcomes publication 8, .makeBound outcomes publication 9, .moveAssign 0 1] ++
    List.replicate 4 (.release 0 true) ++ [.destroy 0] ++ List.replicate 4 (.work true) ++
    [.release 0 true, .release 0 false, .release 0 true, .release 0 true] ++
    List.replicate 2 (.work true)

/-- The first handle's BufferRef is released and the second's is on the failed
list. -/
theorem deferred_release_safe_overwritten : ∃ state,
    run (guarded step WithContext) initial overwriteAndFail = some state ∧
      state.released = [0] ∧ state.failed.map DeferredItem.number = [1] ∧ ReleaseSafe state := by
  refine ⟨_, rfl, by decide, by decide, deferred_release_safe _ ?_⟩
  exact reachable_run overwriteAndFail initial _ (.start initial rfl) rfl

end Ros2CudaIpc.DeferredRelease
