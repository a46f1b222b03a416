import Ros2CudaIpc.ReleaseSafety

/-!
# What a step of a process's read handles does outside of it

Beside the ledger three events of a step matter to the rest of the system: a
completion record reaches the device, a successful wait tells that it has
completed, and a BufferRef is given back. A step logs at most one of these, and
then the history of its handle is the one history which leads there. A living
handle has no history but its binding.
-/

namespace Ros2CudaIpc.DeferredRelease

open Reachability

/-- The events nobody outside takes part in: a drop, the release of a resource, and a failure. -/
def Event.silent : Event → Bool
  | .dropped _ | .resourceReleased _ | .failed _ _ => true
  | _ => false

/-- What is logged about a handle, the latest event first. -/
def State.history (state : State) (handle : Nat) : List Event :=
  Ledger.trace Event.handle handle state.log

/-- The events of a step, with the histories they belong to. At most one of them matters outside. -/
inductive Effect (state : State) : List Event → Prop where
  | quiet (events : List Event) (silent : ∀ event ∈ events, event.silent = true) :
      Effect state events
  | recorded (handle event : Nat) (stream : CUstream)
      (history : state.history handle = droppedTrace handle event stream) :
      Effect state [.recorded handle event stream]
  | synchronized (handle event : Nat) (stream : CUstream)
      (history : state.history handle =
        .recorded handle event stream :: droppedTrace handle event stream) :
      Effect state [.synchronized handle event]
  | released (handle event : Nat) (stream : CUstream)
      (history : state.history handle =
        .resourceReleased handle :: completedTrace handle event stream) :
      Effect state [.bufferRefReleased handle]

variable {state next : State}

/-- The events behind a step, which come in front of the log. -/
def Logs (state next : State) : Prop :=
  ∃ events, next.log = events ++ state.log ∧ Effect state events

/-- A step which logs nothing has no effect outside. -/
theorem logs_nothing (log : next.log = state.log) : Logs state next :=
  ⟨[], log, .quiet [] (by simp)⟩

/-- A step which logs one silent event has no effect outside. -/
theorem logs_silent {event : Event} (silent : event.silent = true)
    (log : next.log = event :: state.log) : Logs state next :=
  ⟨[event], log, .quiet _ (by simpa using silent)⟩

/-- The handle in an object has its binding for a history, and still has its event and its
reference. -/
theorem State.Consistent.alive (consistent : state.Consistent) {bound : Bound}
    (held : some bound ∈ state.handles) : ∃ event,
      state.history bound.number = [.bound bound.number event bound.impl.consumerStream] ∧
        bound.impl.completion ≠ none ∧ bound.impl.bufferRef ≠ none := by
  have member : bound.standing .held ∈ state.standings := by
    have inside : bound.standing .held ∈ heldStandings state.handles :=
      List.mem_filterMap.mpr ⟨some bound, held, rfl⟩
    simp [State.standings, inside]
  obtain ⟨completion, reference, event, owned, standing⟩ :=
    Bound.intact (consistent.intact member)
  have fitting := consistent.fitting _ member
  rw [standing] at fitting
  exact ⟨completion.event, fitting, by simp [event], by simp [owned]⟩

/-- Dropping a handle's state is silent, whether a release begins or the handle held nothing. -/
theorem drop_logs (consistent : state.Consistent) {old : Option Bound}
    (held : old ∈ state.handles) :
    Logs state (state.drop old) := by
  cases old with
  | none => exact logs_nothing rfl
  | some bound =>
    obtain ⟨-, -, event, owned⟩ := consistent.alive held
    have log : (state.drop (some bound)).log = .dropped bound.number :: state.log := by
      simp [State.drop, event, owned]
    exact logs_silent rfl log

/-- A dropped handle's history, while its release runs, is its binding and its drop. -/
theorem State.Consistent.releasing (consistent : state.Consistent) {bound : Bound}
    (member : bound.standing .dropped ∈ state.standings) :
    state.history bound.number = droppedTrace bound.number
      (bound.impl.completion.elim 0 CompletionEvent.event) bound.impl.consumerStream := by
  obtain ⟨completion, reference, event, -, standing⟩ := Bound.intact (consistent.intact member)
  have fitting := consistent.fitting _ member
  rw [standing] at fitting
  rw [event]
  exact fitting

/-- A step of a running release records the completion event, or is silent. -/
theorem advance_logs (consistent : state.Consistent) {release : Release}
    (running : release ∈ state.releases) (succeeds : Bool) :
    Logs state (state.advance succeeds release).1 := by
  have member : release.standing ∈ state.standings := by
    have inside : release.standing ∈ state.releases.map Release.standing :=
      List.mem_map_of_mem running
    simp only [State.standings, List.mem_append]
    exact .inl (.inl (.inl (.inl (.inl (.inr inside)))))
  cases release with
  | activating bound =>
    cases succeeds with
    | true => exact logs_nothing rfl
    | false => exact logs_silent rfl rfl
  | recording bound =>
    cases succeeds with
    | true => exact ⟨_, rfl, .recorded _ _ _ (consistent.releasing member)⟩
    | false => exact logs_silent rfl rfl
  | submitting failed item =>
    simp only [State.advance]
    split
    · exact logs_nothing rfl
    · exact logs_silent rfl rfl
  | inserting failed item =>
    simp only [State.advance]
    split
    · exact logs_silent rfl rfl
    · split <;> exact logs_nothing rfl

/-- A step of the worker learns of a completion, gives a BufferRef back, or is
silent. -/
theorem work_logs (consistent : state.Consistent) {succeeds : Bool}
    (moved : state.work succeeds = some next) : Logs state next := by
  have worked (standing : Standing) (only : state.worker.standings = [standing]) :
      Fits standing (state.history standing.number) ∧ standing.stage ≠ .broken := by
    have member : standing ∈ state.standings := by simp [State.standings, only]
    exact ⟨consistent.fitting _ member, consistent.intact member⟩
  unfold State.work at moved
  cases position : state.worker with
  | waiting =>
    simp only [position] at moved
    split at moved
    · simp at moved
    · exact (Option.some.inj moved) ▸ logs_nothing rfl
  | activating item =>
    obtain ⟨completion, event, -⟩ := DeferredItem.intact
      (worked item.recorded (by rw [position]; rfl)).2
    simp only [position, event, reduceCtorEq, if_false] at moved
    split at moved
    · exact (Option.some.inj moved) ▸ logs_nothing rfl
    · exact (Option.some.inj moved) ▸ logs_silent rfl rfl
  | synchronizing item =>
    obtain ⟨fitting, intact⟩ := worked item.recorded (by rw [position]; rfl)
    obtain ⟨completion, event, standing⟩ := DeferredItem.intact intact
    rw [standing] at fitting
    obtain ⟨stream, history⟩ := fitting
    simp only [position] at moved
    split at moved
    · obtain rfl := Option.some.inj moved
      refine ⟨_, rfl, .synchronized item.number _ stream ?_⟩
      rw [event]
      exact history
    · exact (Option.some.inj moved) ▸ logs_silent rfl rfl
  | retaining item =>
    simp only [position] at moved
    split at moved
    · exact (Option.some.inj moved) ▸ logs_nothing rfl
    · exact (Option.some.inj moved) ▸ logs_silent rfl rfl
  | resettingCompletion item =>
    simp only [position, Option.some.injEq] at moved
    exact moved ▸ logs_nothing rfl
  | resettingResource item =>
    simp only [position, Option.some.injEq] at moved
    exact moved ▸ logs_silent rfl rfl
  | resettingBufferRef item =>
    obtain ⟨fitting, -⟩ := worked ⟨item.number, .resourceReleased⟩ (by rw [position]; rfl)
    obtain ⟨event, stream, history⟩ := fitting
    simp only [position, Option.some.injEq] at moved
    subst moved
    exact ⟨_, rfl, .released item.number event stream history⟩

/-- Every step but a binding binds no handle, leaves no handle alive which was not, and
logs one of the listed effects. -/
theorem step_effect {action : Action} (consistent : state.Consistent)
    (unbinding : ∀ outcomes publication stream, action ≠ .makeBound outcomes publication stream)
    (moved : step state action = some next) :
    next.created = state.created ∧
      (∀ bound, some bound ∈ next.handles → some bound ∈ state.handles) ∧ Logs state next := by
  have dropped (old : Option Bound) : (state.drop old).created = state.created := by
    unfold State.drop
    split
    · rfl
    · split
      · rfl
      · split <;> rfl
  cases action with
  | makeBound outcomes publication stream =>
    exact absurd rfl (unbinding outcomes publication stream)
  | moveConstruct source =>
    simp only [step] at moved
    split at moved
    · simp at moved
    · next old found =>
      obtain rfl := Option.some.inj moved
      refine ⟨rfl, fun bound held => ?_, logs_nothing rfl⟩
      rcases List.mem_append.mp held with before | new
      · rcases List.mem_or_eq_of_mem_set before with earlier | empty
        · exact earlier
        · simp at empty
      · rw [List.mem_singleton.mp new]
        exact List.mem_of_getElem? found
  | moveAssign target source =>
    simp only [step] at moved
    split at moved
    · next old other found given =>
      split at moved
      · obtain rfl := Option.some.inj moved
        exact ⟨rfl, fun _ => id, logs_nothing rfl⟩
      · obtain rfl := Option.some.inj moved
        refine ⟨dropped old, fun bound held => ?_,
          drop_logs consistent (List.mem_of_getElem? found)⟩
        rcases List.mem_or_eq_of_mem_set held with before | empty
        · rcases List.mem_or_eq_of_mem_set before with earlier | rfl
          · exact earlier
          · exact List.mem_of_getElem? given
        · simp at empty
    · simp at moved
  | destroy index =>
    simp only [step] at moved
    split at moved
    · simp at moved
    · next old found =>
      obtain rfl := Option.some.inj moved
      refine ⟨dropped old, fun bound held => ?_, drop_logs consistent (List.mem_of_getElem? found)⟩
      exact List.mem_of_mem_eraseIdx held
  | release index succeeds =>
    simp only [step] at moved
    split at moved
    · simp at moved
    · next release running =>
      obtain rfl := Option.some.inj moved
      obtain ⟨events, log, effect⟩ :=
        advance_logs consistent (List.mem_of_getElem? running) succeeds
      have kept : (state.advance succeeds release).1.created = state.created ∧
          (state.advance succeeds release).1.handles = state.handles := by
        cases release <;> simp only [State.advance] <;> grind
      exact ⟨kept.1, fun bound held => kept.2 ▸ held, events, log, effect⟩
  | work succeeds =>
    have worked : state.work succeeds = some next := moved
    have kept : next.created = state.created ∧ next.handles = state.handles := by
      unfold State.work at worked
      grind
    exact ⟨kept.1, fun bound held => kept.2 ▸ held, work_logs consistent moved⟩

/-- A binding adds a handle of its resource on its stream, or does nothing. -/
theorem makeBound_effect {outcomes : BindOutcomes} {publication : MappedPublication}
    {stream : CUstream} (moved : step state (.makeBound outcomes publication stream) = some next) :
    next = state ∨ ∃ resource impl event, publication.resource = some resource ∧
      impl.consumerStream = stream ∧
      next = { state with
        handles := state.handles ++ [some ⟨state.created, impl⟩]
        created := state.created + 1
        log := .bound state.created event stream :: state.log } := by
  simp only [step] at moved
  split at moved
  · next impl bound =>
    obtain rfl := Option.some.inj moved
    obtain ⟨failure, failed, result⟩ | ⟨resource, completion, -, held, result⟩ :=
      ReadHandleFactory.makeBound_cases outcomes publication stream
    · rw [result] at bound
      rcases failed with rfl | rfl <;> simp at bound
    · rw [result] at bound
      simp only [Except.ok.injEq, Option.some.injEq, ReadHandle.mk.injEq] at bound
      exact .inr ⟨resource, impl, _, held, by rw [← bound], rfl⟩
  · exact .inl (Option.some.inj moved).symm

end Ros2CudaIpc.DeferredRelease
