import Ros2CudaIpc.ReadSafety

/-!
# A dropped handle gives its BufferRef back

Nothing in the system waits in a circle. The device can always come to the end of what
is enqueued: a stream waits for commands enqueued earlier alone. Then the completion
events of the dropped handles have completed, and where no further step fails, the
releasing threads and the workers of all processes come to their ends, with the
BufferRef of every handle given back which no earlier failure retains.
-/

namespace Ros2CudaIpc.DeferredRelease

open Reachability WeightedLists

/-- The steps a running release and what it submits have before them, at most. -/
def Release.steps : Release → Nat
  | .activating _ => 10
  | .recording _ => 9
  | .submitting _ _ => 8
  | .inserting _ _ => 7

/-- The steps the worker has before it, at most, with the item it holds. -/
def Worker.steps : Worker → Nat
  | .waiting => 0
  | .activating _ => 5
  | .synchronizing _ => 4
  | .resettingCompletion _ => 3
  | .resettingResource _ => 2
  | .retaining _ | .resettingBufferRef _ => 1

/-- The steps before a process has released everything it dropped: its releases, its pending
items, and its worker. -/
def State.pending (state : State) : Nat :=
  total Release.steps state.releases + 6 * state.items.length + state.worker.steps

/-- The releasing threads go on, and the worker behind them, each step with a good answer. -/
def State.forward (state : State) : Action :=
  if state.releases = [] then .work true else .release 0 true

/-- The next step of a process's releases binds no handle. -/
theorem forward_unbinding (state : State) (outcomes : BindOutcomes)
    (publication : MappedPublication) (stream : CUstream) :
    state.forward ≠ .makeBound outcomes publication stream := by
  unfold State.forward
  split <;> simp

variable {state next : State}

/-- What a successful step leaves: the handles, the failures there were, and fewer steps to take. -/
structure Forwards (state next : State) : Prop where
  closer : next.pending < state.pending
  handles : next.handles = state.handles
  failures : ∀ handle failure, .failed handle failure ∈ next.log →
    .failed handle failure ∈ state.log

/-- A successful step of a releasing thread is a step closer, and logs no failure. -/
theorem advance_forwards {release : Release} {rest : List Release}
    (running : state.releases = release :: rest) :
    Forwards state { (state.advance true release).1 with
      releases := (state.advance true release).2.toList ++ rest } := by
  cases release with
  | activating bound | recording bound | submitting failed item =>
    constructor <;> simp [State.advance, State.pending, running, Release.steps]
  | inserting failed item =>
    cases failed with
    | true => constructor <;> simp [State.advance, State.pending, running, Release.steps]
    | false =>
      refine ⟨?_, by simp [State.advance], by simp [State.advance]⟩
      simp only [State.advance, State.pending, running, Release.steps, Bool.true_eq_false, if_false,
        Bool.false_eq_true, Option.toList_none, List.nil_append, total_cons, List.length_append,
        List.length_singleton]
      omega

/-- So is one of the worker, when no release is running and something is left to do. -/
theorem work_forwards (idle : state.releases = []) (left : 0 < state.pending) :
    ∃ next, state.work true = some next ∧ Forwards state next := by
  unfold State.work
  cases position : state.worker with
  | waiting =>
    cases queued : state.items with
    | nil => simp [State.pending, idle, queued, position, Worker.steps] at left
    | cons item rest =>
      refine ⟨_, rfl, ?_, rfl, fun _ _ => id⟩
      simp only [State.pending, idle, queued, position, Worker.steps, List.length_cons]
      omega
  | activating item =>
    simp only
    split
    · exact ⟨_, rfl, by simp [State.pending, position, Worker.steps], rfl, by simp⟩
    · exact ⟨_, rfl, by simp [State.pending, position, Worker.steps], rfl, fun _ _ => id⟩
  | synchronizing item | retaining item | resettingCompletion item | resettingResource item
  | resettingBufferRef item =>
    exact ⟨_, rfl, by simp [State.pending, position, Worker.steps], rfl, by simp⟩

/-- As long as something is pending, a process has a successful step before it. -/
theorem forward_step (left : 0 < state.pending) :
    ∃ next, step state state.forward = some next ∧ Forwards state next := by
  unfold State.forward
  split
  · next idle => exact work_forwards idle left
  · next busy =>
    obtain ⟨release, rest, running⟩ := List.exists_cons_of_ne_nil busy
    refine ⟨_, ?_, advance_forwards running⟩
    simp [step, running]

/-- Where nothing is pending, every dropped handle was released or has failed, as no other
standing is left for it. -/
theorem released_of_settled (consistent : state.Consistent) (settled : state.pending = 0)
    {handle : Nat} (dropped : .dropped handle ∈ state.log)
    (unfailed : ∀ failure, .failed handle failure ∉ state.log) :
    .bufferRefReleased handle ∈ state.log := by
  obtain ⟨noReleases, noItems, waiting⟩ :
      state.releases = [] ∧ state.items = [] ∧ state.worker = .waiting := by
    unfold State.pending at settled
    refine ⟨?_, List.eq_nil_of_length_eq_zero (by omega), ?_⟩
    · cases running : state.releases with
      | nil => rfl
      | cons release rest => cases release <;> simp [running, Release.steps] at settled
    · cases position : state.worker with
      | waiting => rfl
      | _ => simp [position, Worker.steps] at settled
  obtain ⟨standing, member, same, inside, fitting⟩ := Ledger.Consistent.history consistent dropped
  rw [same] at inside fitting
  have only : (∃ bound, some bound ∈ state.handles ∧ bound.number = handle) ∨
      standing.stage = .retained ∨ standing.stage = .released := by
    simp only [State.standings, noReleases, noItems, waiting, Worker.standings, List.map_nil,
      List.append_nil, List.mem_append, List.mem_map] at member
    rcases member with ((held | ⟨item, -, rfl⟩) | ⟨item, -, rfl⟩) | ⟨number, -, rfl⟩
    · obtain ⟨old, stored, stands⟩ := List.mem_filterMap.mp held
      obtain ⟨bound, rfl, rfl⟩ := Option.map_eq_some_iff.mp stands
      exact .inl ⟨bound, stored, (bound.standing_number _).symm.trans same⟩
    · exact .inr (.inl rfl)
    · exact .inr (.inl rfl)
    · exact .inr (.inr rfl)
  obtain ⟨number, stage⟩ := standing
  obtain rfl : number = handle := same
  rcases only with ⟨bound, held, rfl⟩ | rfl | rfl
  · obtain ⟨event, history, -⟩ := consistent.alive held
    have ended : .dropped bound.number ∈ state.history bound.number := inside
    simp [history] at ended
  · obtain ⟨⟨failure, failed⟩, -⟩ := fitting
    exact absurd ((Ledger.trace_sublist _ _ state.log).subset failed) (unfailed failure)
  · obtain ⟨event, stream, history⟩ := fitting
    have last : .bufferRefReleased number ∈ Ledger.trace Event.handle number state.log := by
      rw [show Ledger.trace Event.handle number state.log = _ from history]
      exact List.mem_cons_self ..
    exact (Ledger.trace_sublist _ _ state.log).subset last

end Ros2CudaIpc.DeferredRelease

namespace Ros2CudaIpc.ZeroCopy

open Reachability StreamOrder WeightedLists
open DeferredRelease (Event Forwards)
open GpuBufferManager (Acquisition)

universe u
variable {δ : Type u} {producer : Nat → Nat} {world next : World δ}

/-- The device goes on, or a step of a release succeeds. No publisher and no reader has to act. -/
def Action.succeeds : Action δ → Bool
  | .execute _ | .handle _ (.release _ true) | .handle _ (.work true) => true
  | _ => false

/-- Such an action meets the contract, which asks nothing of it. -/
theorem Action.admitted {action : Action δ} (succeeds : action.succeeds = true) :
    Contract producer world action := by
  cases action with
  | execute | handle => trivial
  | _ => simp [Action.succeeds] at succeeds

/-- A logged completion record is enqueued, so the device can come to it. -/
def Recorded (world : World δ) : Prop :=
  ∀ (reader : Nat) process, world.readers[reader]? = some process → ∀ handle event stream,
    .recorded handle event stream ∈ process.process.log →
      ∃ command ∈ world.device.commands, command.task.completes reader handle = true

/-- A given back BufferRef is none any more: its acquire is released, or about to be. -/
def Returned (world : World δ) : Prop :=
  ∀ (reader : Nat) process, world.readers[reader]? = some process → ∀ handle number : Nat,
    process.bindings[handle]? = some number → .bufferRefReleased handle ∈ process.process.log →
      ∃ mapping uid phase, world.manager.acquisitions[number]? = some ⟨mapping, uid, phase⟩ ∧
        (phase = .underflowed ∨ phase = .released)

/-- A process and its bindings, before an action or changed by it. -/
theorem set_cases {readers : List Reader} {reader index : Nat} {old changed other : Reader}
    (found : readers[reader]? = some old)
    (stored : (readers.set reader changed)[index]? = some other) :
    readers[index]? = some other ∨ index = reader ∧ other = changed := by
  by_cases same : reader = index
  · subst same
    rw [List.getElem?_set_self (List.getElem?_eq_some_iff.mp found).1] at stored
    exact .inr ⟨rfl, (Option.some.inj stored).symm⟩
  · rw [List.getElem?_set_ne same] at stored
    exact .inl stored

/-- An action keeps completion records enqueued, as no command leaves the queue. -/
theorem recorded_step {action : Action δ} (sound : Sound world) (recorded : Recorded world)
    (moved : step world action = some next) : Recorded next := by
  obtain ⟨more, commands⟩ := (step_onward sound moved).commands
  have onward {reader handle : Nat}
      (enqueued : ∃ command ∈ world.device.commands, command.task.completes reader handle = true) :
      ∃ command ∈ next.device.commands, command.task.completes reader handle = true := by
    obtain ⟨command, member, completes⟩ := enqueued
    exact ⟨command, by rw [commands]; exact List.mem_append_left _ member, completes⟩
  have kept (same : next.readers = world.readers) : Recorded next := by
    intro reader process found handle event stream logged
    exact onward (recorded reader process (same ▸ found) handle event stream logged)
  cases action with
  | manage action =>
    obtain ⟨manager, stepped, ⟨-, -, rfl⟩ | ⟨index, locked, granted, stream, rfl,
      ⟨-, rfl⟩ | ⟨mapping, uid, -, rfl⟩⟩⟩ := manage_cases moved <;> exact kept rfl
  | write index stream data =>
    obtain ⟨reservation, mapping, -, -, rfl⟩ := write_cases moved
    exact kept rfl
  | bind reader number outcomes publication stream =>
    rcases bind_cases moved with rfl | ⟨process, bindings, following, mapping, uid, found, -, -,
      bound, fresh, rfl⟩
    · exact recorded
    · intro index other stored handle event on logged
      rcases set_cases found stored with before | ⟨rfl, rfl⟩
      · exact onward (recorded index other before handle event on logged)
      · rcases DeferredRelease.makeBound_effect bound with rfl | ⟨-, impl, made, -, -, rfl⟩
        · exact absurd rfl fresh
        · exact onward (recorded index _ found handle event on (by simpa using logged))
  | handle reader action =>
    obtain ⟨process, bindings, following, events, found, -, -, -, log, handled⟩ :=
      handle_cases sound moved
    have before {index : Nat} {other : Reader} {handle event : Nat} {on : CUstream}
        (stored : (world.readers.set reader ⟨following, bindings⟩)[index]? = some other)
        (logged : .recorded handle event on ∈ other.process.log) :
        (∃ command ∈ world.device.commands, command.task.completes index handle = true) ∨
          index = reader ∧ .recorded handle event on ∈ events := by
      rcases set_cases found stored with before | ⟨rfl, rfl⟩
      · exact .inl (recorded index other before handle event on logged)
      · rw [log] at logged
        rcases List.mem_append.mp logged with new | old
        · exact .inr ⟨rfl, new⟩
        · exact .inl (recorded index _ found handle event on old)
    intro index other stored handle event on logged
    cases handled with
    | quiet events silent =>
      rcases before stored logged with old | ⟨-, new⟩
      · exact onward old
      · simpa [Event.silent] using silent _ new
    | recorded owner named stream =>
      rcases before stored logged with old | ⟨rfl, new⟩
      · exact onward old
      · obtain ⟨rfl, rfl, rfl⟩ : handle = owner ∧ event = named ∧ on = stream := by simpa using new
        exact ⟨_, List.mem_append_right _ (List.mem_singleton_self _), by simp [Task.completes]⟩
    | synchronized | released =>
      rcases before stored logged with old | ⟨-, new⟩
      · exact onward old
      · simp at new
  | read reader index =>
    obtain ⟨process, bindings, bound, number, acquisition, -, -, -, -, rfl⟩ := read_cases moved
    exact kept rfl
  | execute index =>
    obtain ⟨device, executed, result⟩ := Option.map_eq_some_iff.mp moved
    split at result <;> exact kept (result ▸ rfl)

/-- A given back BufferRef stays so.

Proof: of the two phases only the underflowed one has an operation left. -/
theorem gone_step {before after : GpuBufferManager.State} {action : GpuBufferManager.Action}
    (moved : GpuBufferManager.step before action = some after) {number mapping uid : Nat}
    {phase : GpuBufferManager.Phase}
    (acquired : before.acquisitions[number]? = some ⟨mapping, uid, phase⟩)
    (gone : phase = .underflowed ∨ phase = .released) : ∃ following,
      after.acquisitions[number]? = some ⟨mapping, uid, following⟩ ∧
        (following = .underflowed ∨ following = .released) := by
  have subscribed := GpuBufferManager.step_subscribed moved
  have inside := (List.getElem?_eq_some_iff.mp acquired).1
  generalize reached : after.acquisitions = acquisitions at subscribed
  cases subscribed with
  | kept => exact ⟨phase, acquired, gone⟩
  | acquired other named => exact ⟨phase, (List.getElem?_append_left inside).trans acquired, gone⟩
  | advanced other spurious named mark old new found =>
    by_cases same : other = number
    · subst same
      obtain ⟨rfl, rfl, rfl⟩ := Acquisition.mk.inj (Option.some.inj (found.symm.trans acquired))
      simp only [GpuBufferManager.step, found, Option.bind_some] at moved
      rcases gone with rfl | rfl
      · obtain ⟨metadata, -, rfl⟩ := Option.map_eq_some_iff.mp moved
        refine ⟨.released, ?_, .inr rfl⟩
        rw [← reached]
        exact List.getElem?_set_self inside
      · simp [GpuBufferManager.State.advanceAcquisition] at moved
    · exact ⟨phase, (List.getElem?_set_ne same).trans acquired, gone⟩
  | released other named mark new found =>
    have apart : other ≠ number := by
      rintro rfl
      obtain ⟨-, -, rfl⟩ := Acquisition.mk.inj (Option.some.inj (found.symm.trans acquired))
      simp at gone
    exact ⟨phase, (List.getElem?_set_ne apart).trans acquired, gone⟩

/-- The release of a valid BufferRef ends it, at once or with one more operation. -/
theorem given_step {before after : GpuBufferManager.State} {number : Nat}
    (given : GpuBufferManager.step before (.release number) = some after) :
    ∃ mapping uid phase, after.acquisitions[number]? = some ⟨mapping, uid, phase⟩ ∧
      (phase = .underflowed ∨ phase = .released) := by
  obtain ⟨⟨mapping, uid, phase⟩, found, moved⟩ := Option.bind_eq_some_iff.mp given
  have inside := (List.getElem?_eq_some_iff.mp found).1
  cases phase with
  | holding =>
    obtain ⟨metadata, -, rfl⟩ := Option.map_eq_some_iff.mp moved
    refine ⟨mapping, uid, _, List.getElem?_set_self inside, ?_⟩
    split
    · exact .inl rfl
    · exact .inr rfl
  | _ => simp [GpuBufferManager.State.release] at moved

/-- An action keeps given back BufferRefs given back. -/
theorem returned_step {action : Action δ} (sound : Sound world) (returned : Returned world)
    (moved : step world action = some next) : Returned next := by
  have managed {manager : GpuBufferManager.State} {act : GpuBufferManager.Action} {number : Nat}
      (stepped : GpuBufferManager.step world.manager act = some manager)
      (before : ∃ mapping uid phase,
        world.manager.acquisitions[number]? = some ⟨mapping, uid, phase⟩ ∧
          (phase = .underflowed ∨ phase = .released)) :
      ∃ mapping uid phase, manager.acquisitions[number]? = some ⟨mapping, uid, phase⟩ ∧
        (phase = .underflowed ∨ phase = .released) := by
    obtain ⟨mapping, uid, phase, acquired, gone⟩ := before
    exact ⟨mapping, uid, gone_step stepped acquired gone⟩
  cases action with
  | manage action =>
    obtain ⟨manager, stepped, ⟨-, -, rfl⟩ | ⟨index, locked, granted, stream, rfl,
      ⟨-, rfl⟩ | ⟨mapping, uid, -, rfl⟩⟩⟩ := manage_cases moved <;>
    exact fun reader process found handle number bound logged =>
      managed stepped (returned reader process found handle number bound logged)
  | write index stream data =>
    obtain ⟨reservation, mapping, -, -, rfl⟩ := write_cases moved
    exact returned
  | bind reader number outcomes publication stream =>
    rcases bind_cases moved with rfl | ⟨process, bindings, following, mapping, uid, found, -, -,
      bound, fresh, rfl⟩
    · exact returned
    · intro index other stored handle named binding logged
      rcases set_cases found stored with before | ⟨rfl, rfl⟩
      · exact returned index other before handle named binding logged
      · have old : .bufferRefReleased handle ∈ process.log := by
          rcases DeferredRelease.makeBound_effect bound with rfl | ⟨-, impl, made, -, -, rfl⟩
          · exact logged
          · simpa using logged
        have below : handle < bindings.length := by
          rw [sound.numbered _ (List.mem_of_getElem? found)]
          exact (DeferredRelease.reachable_consistent
            (sound.processes _ (List.mem_of_getElem? found))).known _ old
        rw [List.getElem?_append_left below] at binding
        exact returned index _ found handle named binding old
  | handle reader action =>
    obtain ⟨process, bindings, following, events, found, -, -, -, log, handled⟩ :=
      handle_cases sound moved
    have before {index : Nat} {other : Reader} {handle number : Nat}
        (stored : (world.readers.set reader ⟨following, bindings⟩)[index]? = some other)
        (binding : other.bindings[handle]? = some number)
        (logged : .bufferRefReleased handle ∈ other.process.log) :
        (∃ mapping uid phase, world.manager.acquisitions[number]? = some ⟨mapping, uid, phase⟩ ∧
          (phase = .underflowed ∨ phase = .released)) ∨
          bindings[handle]? = some number ∧ .bufferRefReleased handle ∈ events := by
      rcases set_cases found stored with before | ⟨rfl, rfl⟩
      · exact .inl (returned index other before handle number binding logged)
      · rw [log] at logged
        rcases List.mem_append.mp logged with new | old
        · exact .inr ⟨binding, new⟩
        · exact .inl (returned index _ found handle number binding old)
    intro index other stored handle number binding logged
    cases handled with
    | quiet events silent =>
      rcases before stored binding logged with old | ⟨-, new⟩
      · exact old
      · simpa [Event.silent] using silent _ new
    | recorded | synchronized =>
      rcases before stored binding logged with old | ⟨-, new⟩
      · exact old
      · simp at new
    | released owner named manager own given =>
      rcases before stored binding logged with old | ⟨bound, new⟩
      · exact managed given old
      · obtain rfl : handle = owner := by simpa using new
        obtain rfl := Option.some.inj (own.symm.trans bound)
        exact given_step given
  | read reader index =>
    obtain ⟨process, bindings, bound, number, acquisition, -, -, -, -, rfl⟩ := read_cases moved
    exact returned
  | execute index =>
    obtain ⟨device, executed, result⟩ := Option.map_eq_some_iff.mp moved
    split at result <;> exact result ▸ returned

/-- The device comes to the end of what is enqueued, whatever else there is. -/
theorem drains (world : World δ) (ordered : world.device.Ordered) :
    ∃ (schedule : List (Action δ)) (final : World δ),
    (∀ action ∈ schedule, action.succeeds = true) ∧ run step world schedule = some final ∧
      (∀ index < final.device.commands.length, index ∈ final.device.executed) ∧
      final.device.commands = world.device.commands ∧ final.manager = world.manager ∧
      final.readers = world.readers := by
  generalize measure : world.device.commands.length - world.device.executed.length = left
  induction left using Nat.strong_induction_on generalizing world with
  | _ left inductionHypothesis =>
    by_cases done : ∀ index < world.device.commands.length, index ∈ world.device.executed
    · exact ⟨[], world, by simp, rfl, done, rfl, rfl, rfl⟩
    · push Not at done
      obtain ⟨index, executable⟩ := exists_executable done
      have executed : world.device.execute index =
          some { world.device with executed := index :: world.device.executed } := if_pos executable
      obtain ⟨following, moved, device, manager, readers⟩ : ∃ following,
          step world (.execute index) = some following ∧
          following.device = { world.device with executed := index :: world.device.executed } ∧
          following.manager = world.manager ∧ following.readers = world.readers := by
        simp only [step, World.execute, executed, Option.map_some]
        split <;> exact ⟨_, rfl, rfl, rfl, rfl⟩
      have after := ordered.execute executed
      have bounded : world.device.executed.length + 1 ≤ world.device.commands.length :=
        after.bounded
      have fewer : world.device.commands.length - (world.device.executed.length + 1) < left := by
        omega
      obtain ⟨schedule, final, succeeds, taken, complete, commands, managed, read⟩ :=
        inductionHypothesis _ fewer following (device ▸ after) (by rw [device]; rfl)
      rw [device] at commands
      rw [manager] at managed
      rw [readers] at read
      refine ⟨.execute index :: schedule, final, ?_, ?_, complete, commands, managed, read⟩
      · intro action member
        rcases List.mem_cons.mp member with rfl | rest
        · rfl
        · exact succeeds action rest
      · rw [run, moved, Option.bind_some, taken]

/-- With the device at its end a process has a successful step, which is one of the system. -/
theorem forward_enabled (sound : Sound world) (recorded : Recorded world)
    (done : ∀ index < world.device.commands.length, index ∈ world.device.executed) {reader : Nat}
    {process : DeferredRelease.State} {bindings : List Nat}
    (found : world.readers[reader]? = some ⟨process, bindings⟩) (left : 0 < process.pending) :
    ∃ next following, step world (.handle reader process.forward) = some next ∧
      Forwards process following ∧ (∀ event ∈ process.log, event ∈ following.log) ∧
      next.readers = world.readers.set reader ⟨following, bindings⟩ := by
  have consistent := DeferredRelease.reachable_consistent
    (sound.processes _ (List.mem_of_getElem? found))
  obtain ⟨following, stepped, forwards⟩ := DeferredRelease.forward_step left
  obtain ⟨-, -, events, logged, effect⟩ :=
    DeferredRelease.step_effect consistent (DeferredRelease.forward_unbinding process) stepped
  have performed : step world (.handle reader process.forward) =
      events.reverse.foldlM (World.perform reader bindings)
        { world with readers := world.readers.set reader ⟨following, bindings⟩ } := by
    have unbinding := DeferredRelease.forward_unbinding process
    generalize process.forward = action at stepped unbinding
    cases action with
    | makeBound outcomes publication stream => exact absurd rfl (unbinding _ _ _)
    | _ => simp [step, World.handle, found, stepped, logged]
  have onward : ∀ event ∈ process.log, event ∈ following.log := by
    intro event member
    rw [logged]
    exact List.mem_append_right _ member
  have inHistory {event : Event} {handle : Nat} (member : event ∈ process.history handle) :
      event ∈ process.log := (Ledger.trace_sublist _ _ process.log).subset member
  rw [performed]
  cases effect with
  | quiet events silent =>
    rw [perform_silent (by simpa using silent)]
    exact ⟨_, following, rfl, forwards, onward, rfl⟩
  | recorded handle event stream history =>
    exact ⟨_, following, rfl, forwards, onward, rfl⟩
  | synchronized handle event stream history =>
    have enqueued : .recorded handle event stream ∈ process.log :=
      inHistory (by rw [history]; exact List.mem_cons_self ..)
    obtain ⟨command, member, completes⟩ := recorded reader _ found handle event stream enqueued
    obtain ⟨index, stored⟩ := List.getElem?_of_mem member
    have executed := done index (List.getElem?_eq_some_iff.mp stored).1
    have completed : ({ world with
        readers := world.readers.set reader ⟨following, bindings⟩ } : World δ).completed
          reader handle = true :=
      List.any_eq_true.mpr ⟨index, executed, by rw [stored]; exact completes⟩
    refine ⟨{ world with readers := world.readers.set reader ⟨following, bindings⟩ }, following, ?_,
      forwards, onward, rfl⟩
    simp [World.perform, completed]
  | released handle event stream history =>
    have about : .resourceReleased handle ∈ process.log :=
      inHistory (by rw [history]; exact List.mem_cons_self ..)
    have below : handle < bindings.length := by
      rw [sound.numbered _ (List.mem_of_getElem? found)]
      exact consistent.known _ about
    obtain ⟨mapping, uid, phase, acquired, holds, -⟩ :=
      sound.served reader _ found handle _ (List.getElem?_eq_getElem below)
    have unreleased : .bufferRefReleased handle ∉ process.log := by
      intro given
      have inside := mem_history given
      rw [show process.history (Event.bufferRefReleased handle).handle = _ from history] at inside
      simp [DeferredRelease.completedTrace, DeferredRelease.droppedTrace] at inside
    obtain rfl := holds.resolve_right unreleased
    obtain ⟨metadata, read, -⟩ :=
      GpuBufferManager.holding_vacant sound.manager (List.mem_of_getElem? acquired)
    obtain ⟨manager, given⟩ : ∃ manager,
        GpuBufferManager.step world.manager (.release bindings[handle]) = some manager := by
      simp only [GpuBufferManager.step, acquired, Option.bind_some, GpuBufferManager.State.release,
        read]
      exact ⟨_, rfl⟩
    refine ⟨{ world with
        manager := manager
        readers := world.readers.set reader ⟨following, bindings⟩ }, following, ?_, forwards,
      onward, rfl⟩
    simp [World.perform, List.getElem?_eq_getElem below, given]

/-- What releases leave of the processes: their handles, everything logged, and the
failures there were. -/
def Kept (world next : World δ) : Prop :=
  ∀ (reader : Nat) process bindings, world.readers[reader]? = some ⟨process, bindings⟩ →
    ∃ following, next.readers[reader]? = some ⟨following, bindings⟩ ∧
      following.handles = process.handles ∧ (∀ event ∈ process.log, event ∈ following.log) ∧
      ∀ handle failure, .failed handle failure ∈ following.log →
        .failed handle failure ∈ process.log

/-- The steps all processes have before them, added up. -/
def World.pending (world : World δ) : Nat :=
  total (fun reader => reader.process.pending) world.readers

/-- An action which changes no process keeps each of them. -/
theorem kept_same (same : next.readers = world.readers) : Kept world next := by
  intro reader process bindings found
  exact ⟨process, same ▸ found, rfl, fun _ => id, fun _ _ => id⟩

/-- What is kept twice is kept over both. -/
theorem Kept.trans {final : World δ} (first : Kept world next) (second : Kept next final) :
    Kept world final := by
  intro reader process bindings found
  obtain ⟨middle, stored, handles, logged, failed⟩ := first reader process bindings found
  obtain ⟨last, storedToo, handlesToo, loggedToo, failedToo⟩ := second reader middle bindings stored
  exact ⟨last, storedToo, handlesToo.trans handles,
    fun event member => loggedToo event (logged event member),
    fun handle failure member => failed handle failure (failedToo handle failure member)⟩

/-- Successful actions lead to reachable worlds, since the contract asks nothing of them. -/
theorem succeeds_reached (reached : Reachable step (Contract producer) Initial world)
    {schedule : List (Action δ)} (succeeds : ∀ action ∈ schedule, action.succeeds = true)
    (taken : run step world schedule = some next) :
    Reachable step (Contract producer) Initial next := by
  refine reachable_executed schedule world next reached ?_ taken
  intro before action after middle split _
  exact Action.admitted (succeeds action (by simp [split]))

/-- Every run records and returns. By induction on the run. -/
theorem reachable_recorded (reached : Reachable step (Contract producer) Initial world) :
    Recorded world ∧ Returned world := by
  refine Reachable.invariant (?_ : ∀ start, Initial start → Recorded start ∧ Returned start) ?_
    reached
  · rintro start ⟨-, readers, -, -⟩
    refine ⟨fun reader process found handle event stream logged => ?_,
      fun reader process found handle number bound => ?_⟩
    · rw [readers process (List.mem_of_getElem? found)] at logged
      simp [DeferredRelease.initial] at logged
    · rw [readers process (List.mem_of_getElem? found)] at bound
      simp at bound
  · intro earlier later action before ⟨recorded, returned⟩ _ moved
    have sound := (reachable_faithful before).sound
    exact ⟨recorded_step sound recorded moved, returned_step sound returned moved⟩

/-- From every reachable world the processes can come to their ends. By induction on what they
have before them: first the device comes to its end, then some process has a step. -/
theorem settles (world : World δ) (reached : Reachable step (Contract producer) Initial world) :
    ∃ (schedule : List (Action δ)) (final : World δ),
      (∀ action ∈ schedule, action.succeeds = true) ∧ run step world schedule = some final ∧
        final.pending = 0 ∧ Kept world final := by
  generalize measure : world.pending = left
  induction left using Nat.strong_induction_on generalizing world with
  | _ left inductionHypothesis =>
    rcases Nat.eq_zero_or_pos left with rfl | positive
    · exact ⟨[], world, by simp, rfl, measure, kept_same rfl⟩
    · obtain ⟨drain, drained, drainSucceeds, drainTaken, done, -, -, readers⟩ :=
        drains world (reachable_faithful reached).sound.ordered
      have reachedDrained := succeeds_reached reached drainSucceeds drainTaken
      obtain ⟨reader, member, busy⟩ : ∃ reader ∈ drained.readers, 0 < reader.process.pending := by
        by_contra none
        push Not at none
        have idle := total_eq_zero (fun reader : Reader => reader.process.pending) drained.readers
          fun reader member => Nat.le_zero.mp (none reader member)
        rw [readers] at idle
        exact absurd (measure.symm.trans idle) (Nat.ne_of_gt positive)
      obtain ⟨index, found⟩ := List.getElem?_of_mem member
      obtain ⟨process, bindings⟩ := reader
      obtain ⟨following, after, moved, forwards, onward, changed⟩ :=
        forward_enabled (reachable_faithful reachedDrained).sound
          (reachable_recorded reachedDrained).1 done found busy
      have one : (Action.handle index process.forward : Action δ).succeeds = true := by
        unfold DeferredRelease.State.forward
        split <;> rfl
      have fewer : following.pending < left := by
        have counted := total_set (fun reader : Reader => reader.process.pending) drained.readers
          index ⟨process, bindings⟩ ⟨after, bindings⟩ found
        have closer := forwards.closer
        have same :
            total (fun reader : Reader => reader.process.pending) drained.readers = left := by
          rw [readers]
          exact measure
        unfold World.pending
        rw [changed]
        simp only at counted
        omega
      have reachedFollowing : Reachable step (Contract producer) Initial following :=
        .step drained following _ reachedDrained (Action.admitted one) moved
      obtain ⟨rest, final, succeeds, taken, settled, kept⟩ :=
        inductionHypothesis following.pending fewer following reachedFollowing rfl
      have steps : Kept drained following := by
        intro other before named stored
        rw [changed]
        by_cases same : index = other
        · subst same
          obtain ⟨rfl, rfl⟩ := Reader.mk.inj (Option.some.inj (found.symm.trans stored))
          exact ⟨after, List.getElem?_set_self (List.getElem?_eq_some_iff.mp found).1,
            forwards.handles, onward, forwards.failures⟩
        · exact ⟨before, (List.getElem?_set_ne same).trans stored, rfl, fun _ => id, fun _ _ => id⟩
      refine ⟨drain ++ .handle index process.forward :: rest, final, ?_, ?_, settled,
        ((kept_same readers).trans steps).trans kept⟩
      · intro action within
        rcases List.mem_append.mp within with early | late
        · exact drainSucceeds action early
        · rcases List.mem_cons.mp late with rfl | last
          · exact one
          · exact succeeds action last
      · rw [run_append, drainTaken, Option.bind_some, run, moved, Option.bind_some, taken]

/-- A dropped handle is never stuck. From every world which is reachable within the contract
there is a schedule in which the device executes what is enqueued and the releasing threads
and workers go on, every step of it possible and none of it failing, behind which every
handle dropped so far has given its BufferRef back, unless a step of its release had
failed before. The living handles stay as they are.

That schedules which go on otherwise come to the same end is not said: a device which
stops executing, or a thread which is never run again, holds a handle back. -/
theorem dropped_released (world : World δ)
    (reached : Reachable step (Contract producer) Initial world) :
    ∃ (schedule : List (Action δ)) (final : World δ),
      (∀ action ∈ schedule, action.succeeds = true) ∧ run step world schedule = some final ∧
      ∀ (reader : Nat) process bindings, world.readers[reader]? = some ⟨process, bindings⟩ →
        ∃ following, final.readers[reader]? = some ⟨following, bindings⟩ ∧
          following.handles = process.handles ∧
          ∀ handle, .dropped handle ∈ process.log →
            (∀ failure, .failed handle failure ∉ process.log) →
              .bufferRefReleased handle ∈ following.log ∧
              ∃ number ∈ bindings[handle]?, ∃ mapping uid phase,
                final.manager.acquisitions[number]? = some ⟨mapping, uid, phase⟩ ∧
                  (phase = .underflowed ∨ phase = .released) := by
  obtain ⟨schedule, final, succeeds, taken, settled, kept⟩ := settles world reached
  have finally_ := succeeds_reached reached succeeds taken
  have sound := (reachable_faithful finally_).sound
  refine ⟨schedule, final, succeeds, taken, fun reader process bindings found => ?_⟩
  obtain ⟨following, stored, handles, logged, failed⟩ := kept reader process bindings found
  have idle : following.pending = 0 := by
    have light := weight_le_total (fun reader : Reader => reader.process.pending) final.readers
      ⟨following, bindings⟩ (List.mem_of_getElem? stored)
    have ended : total (fun reader : Reader => reader.process.pending) final.readers = 0 := settled
    simp only at light
    omega
  have consistent := DeferredRelease.reachable_consistent
    (sound.processes _ (List.mem_of_getElem? stored))
  refine ⟨following, stored, handles, fun handle dropped unfailed => ?_⟩
  have released := DeferredRelease.released_of_settled consistent idle (logged _ dropped)
    fun failure member => unfailed failure (failed handle failure member)
  have below : handle < bindings.length := by
    rw [sound.numbered _ (List.mem_of_getElem? stored)]
    exact consistent.known _ released
  refine ⟨released, bindings[handle], List.getElem?_eq_getElem below, ?_⟩
  exact (reachable_recorded finally_).2 reader _ stored handle _ (List.getElem?_eq_getElem below)
    released

/-- A handle is dropped before the device has executed anything. -/
def droppedUnread : List (Action Nat) :=
  GpuBufferManager.initialiseOnce.map .manage ++ publishAndDrop 0 5 0 10

/-- It gives its BufferRef back nonetheless, once the device has come to its completion record. -/
theorem dropped_released_unread : ∃ world : World Nat,
    run (guarded step (Contract fun _ => 3)) oneReader droppedUnread = some world ∧
      world.device.executed = [] ∧
      ∃ (schedule : List (Action Nat)) (final : World Nat),
        (∀ action ∈ schedule, action.succeeds = true) ∧ run step world schedule = some final ∧
        ∀ (reader : Nat) process bindings, world.readers[reader]? = some ⟨process, bindings⟩ →
          ∃ following, final.readers[reader]? = some ⟨following, bindings⟩ ∧
            following.handles = process.handles ∧
            ∀ handle, .dropped handle ∈ process.log →
              (∀ failure, .failed handle failure ∉ process.log) →
                .bufferRefReleased handle ∈ following.log ∧
                ∃ number ∈ bindings[handle]?, ∃ mapping uid phase,
                  final.manager.acquisitions[number]? = some ⟨mapping, uid, phase⟩ ∧
                    (phase = .underflowed ∨ phase = .released) := by
  have executed : (run (guarded step (Contract fun _ => 3)) oneReader droppedUnread).map
      (fun world => world.device.executed) = some [] := by decide +kernel
  obtain ⟨world, taken, same⟩ := Option.map_eq_some_iff.mp executed
  have reached : Reachable step (Contract fun _ => 3) Initial world :=
    reachable_run droppedUnread oneReader world (.start oneReader oneReader_initial) taken
  exact ⟨world, taken, same, dropped_released world reached⟩

end Ros2CudaIpc.ZeroCopy
