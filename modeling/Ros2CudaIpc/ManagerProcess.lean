import Mathlib.Data.List.Nodup
import Ros2CudaIpc.ManagerTransitions
import Ros2CudaIpc.WeightedLists

/-!
# The managers of one process

Any number of managers are constructed while the process runs. They have their
own pools and threads, and share nothing but the counter of block ids, the clock
and the process id. An action of the process is an action of one of them, whose
counter the others then see; calls of several managers interleave freely, so an
`initialise` may lose the counter to another one between its load and its
exchange.

Every manager of a process behaves as the manager alone does among others which
take block ids at any time. What was proved of every run of one manager therefore
holds of each of them.
-/

namespace Ros2CudaIpc.GpuBufferManager

open Reachability WeightedLists

/-- The managers of a process, in the order of their construction, and what they
share. -/
structure Process where
  publisherPid : Nat
  nextProcessBlockId : Nat
  clock : Nat
  managers : List State

/-- What happens in a process: a manager is constructed, time goes on, or one of the managers
takes an action. -/
inductive ProcessAction where
  | construct (config : ManagerConfig) (blockCount : Nat)
  | tick (elapsed : Nat)
  | manager (index : Nat) (action : Action)

/-- An action of a manager's own threads and subscribers, as opposed to one of the process around
it. -/
def Action.own : Action → Bool
  | .tick _ | .allocateElsewhere => false
  | _ => true

/-- A manager which sees the counter of the process at its present value. -/
def State.sees (state : State) (nextProcessBlockId : Nat) : State :=
  { state with nextProcessBlockId := nextProcessBlockId }

namespace Process

/-- A `GpuBufferManager(config)` in the process, with the process id, the clock and the counter it
finds there. -/
def constructed (process : Process) (config : ManagerConfig) (blockCount : Nat) : State :=
  ⟨config, GpuBufferPool.construct blockCount process.publisherPid, none, none, [], [], [],
    process.nextProcessBlockId, process.clock, []⟩

/-- The process after an action of the manager at an index: the others see the counter it has
left. -/
def replace (process : Process) (index : Nat) (next : State) : Process :=
  { process with
    nextProcessBlockId := next.nextProcessBlockId
    managers := (process.managers.set index next).map (State.sees · next.nextProcessBlockId) }

/-- One action of the process. The clock is the same for all managers. -/
def step (process : Process) : ProcessAction → Option Process
  | .construct config blockCount =>
    some { process with managers := process.managers ++ [process.constructed config blockCount] }
  | .tick elapsed =>
    some { process with
      clock := process.clock + elapsed
      managers := process.managers.map fun manager =>
        { manager with clock := manager.clock + elapsed } }
  | .manager index action =>
    if action.own then
      process.managers[index]?.bind fun manager =>
        (GpuBufferManager.step manager action).map (process.replace index)
    else none

/-- A process without managers. The counter of block ids starts at zero, and the clock is
positive. -/
def Initial (process : Process) : Prop :=
  process.nextProcessBlockId = 0 ∧ 0 < process.clock ∧ process.managers = []

end Process

/-- The block id an event hands out, which only the winning exchange of an `initialise` does. -/
def Event.handedOut : Event → Option Nat
  | .allocated blockId => some blockId
  | _ => none

/-- The block ids a manager was handed out, the latest first, whether or not it could use them. -/
def State.handedOut (state : State) : List Nat := state.log.filterMap Event.handedOut

variable {state next : State}

/-- The events of a decrement hand out no block id. -/
theorem decrements_handedOut (mapping : Option Nat) (call : SettleCall) :
    (decrements mapping call).filterMap Event.handedOut = [] := by
  unfold decrements
  split <;> rfl

/-- The events which end an `initialise` hand out no block id. -/
theorem Outcomes.handedOut {events : List Event} (outcomes : Outcomes events) :
    events.filterMap Event.handedOut = [] := by
  refine List.filterMap_eq_nil_iff.mpr fun event member => ?_
  obtain ⟨succeeded, rfl⟩ := outcomes event member
  rfl

/-- An action hands out the counter's value and raises the counter, or hands out none. -/
theorem handedOut_transition (transition : Transition state next) :
    (next.handedOut = state.handedOut ∧ (next.nextProcessBlockId = state.nextProcessBlockId ∨
      next.nextProcessBlockId = state.nextProcessBlockId + 1 ∧
        state.nextProcessBlockId < uint32Max)) ∨
    (next.handedOut = state.nextProcessBlockId :: state.handedOut ∧
      next.nextProcessBlockId = state.nextProcessBlockId + 1 ∧
      state.nextProcessBlockId ≠ uint32Max) := by
  cases transition with
  | environment clock counter later more => exact .inl ⟨rfl, more⟩
  | reconfigured pool initialising events same pid unallocated outcomes =>
    exact .inl ⟨by simp [State.handedOut, outcomes.handedOut], .inl rfl⟩
  | retired pool initialising events free empty pid unallocated outcomes =>
    exact .inl ⟨by simp [State.handedOut, outcomes.handedOut, List.filterMap_cons, Event.handedOut],
      .inl rfl⟩
  | allocated index below running => exact .inr ⟨rfl, rfl, below⟩
  | quarantined index reservation stage next event found unsettled vacant failed =>
    refine .inl ⟨?_, .inl rfl⟩
    rcases failed with rfl | ⟨rfl, -⟩ <;> rfl
  | committing | cancelling =>
    exact .inl ⟨by simp [State.handedOut, State.settle, State.put, decrements_handedOut], .inl rfl⟩
  | committed index reservation descriptor call metadata changed released
  | cancelled index reservation after call metadata changed released =>
    refine .inl ⟨?_, .inl rfl⟩
    cases released <;>
      simp [State.handedOut, State.settle, State.put, State.note, decrements_handedOut,
        List.filterMap_cons, Event.handedOut]
  | _ => exact .inl ⟨rfl, .inl rfl⟩

/-- What holds of the managers of a process: they see one counter, each is in a state it can reach
alone, and no block id was handed out twice. -/
structure Process.Managed (process : Process) : Prop where
  bounded : process.nextProcessBlockId ≤ uint32Max
  ticking : 0 < process.clock
  managers : ∀ manager ∈ process.managers,
    manager.nextProcessBlockId = process.nextProcessBlockId ∧
      Reachable GpuBufferManager.step (fun _ _ => True) GpuBufferManager.Initial manager
  below : ∀ manager ∈ process.managers, ∀ blockId ∈ manager.handedOut,
    blockId < process.nextProcessBlockId
  distinct : (process.managers.flatMap State.handedOut).Nodup

variable {process after : Process}

/-- Seeing the present counter changes nothing; seeing it one larger is another manager's
allocation. -/
theorem sees_reachable {counter : Nat} (moved : counter = state.nextProcessBlockId ∨
      counter = state.nextProcessBlockId + 1 ∧ state.nextProcessBlockId < uint32Max) :
    Reachable step (fun _ _ => True) (fun origin => origin = state) (state.sees counter) := by
  rcases moved with rfl | ⟨rfl, below⟩
  · exact .start _ rfl
  · exact .step state _ .allocateElsewhere (.start state rfl) trivial (if_pos below)

/-- The counter stays or grows by one in an action of a manager, below its bound. -/
theorem counter_grows (managed : process.Managed) (member : state ∈ process.managers)
    {action : Action} (moved : step state action = some next) :
    next.nextProcessBlockId = process.nextProcessBlockId ∨
      next.nextProcessBlockId = process.nextProcessBlockId + 1 ∧
        process.nextProcessBlockId < uint32Max := by
  have own := (managed.managers state member).1
  have bounded := managed.bounded
  rcases handedOut_transition (step_transition moved) with
    ⟨-, same | ⟨more, below⟩⟩ | ⟨-, more, below⟩ <;> omega

/-- Behind an action of a manager each one is the same, or sees another counter. -/
theorem mem_replaced {index : Nat} {manager : State}
    (member : manager ∈ (process.replace index next).managers) :
    manager = next ∨ ∃ other ∈ process.managers,
      manager = other.sees next.nextProcessBlockId := by
  obtain ⟨other, present, rfl⟩ := List.mem_map.mp member
  rcases List.mem_or_eq_of_mem_set present with kept | rfl
  · exact .inr ⟨other, kept, rfl⟩
  · exact .inl rfl

/-- An action of one manager is no step of the others, or an allocation elsewhere. -/
theorem replaced_follows (managed : process.Managed) {index : Nat} {action : Action}
    (found : process.managers[index]? = some state) (moved : step state action = some next)
    {other : Nat} {manager : State} (stored : process.managers[other]? = some manager) :
    ∃ later, (process.replace index next).managers[other]? = some later ∧
      Reachable step (fun _ _ => True) (fun origin => origin = manager) later := by
  have grows := counter_grows managed (List.mem_of_getElem? found) moved
  by_cases same : index = other
  · subst same
    obtain rfl : state = manager := Option.some.inj (found.symm.trans stored)
    have inside := (List.getElem?_eq_some_iff.mp found).1
    refine ⟨next, ?_, .step state next action (.start state rfl) trivial moved⟩
    simp [Process.replace, inside, State.sees]
  · have counter := (managed.managers manager (List.mem_of_getElem? stored)).1
    refine ⟨manager.sees next.nextProcessBlockId, ?_, sees_reachable (counter ▸ grows)⟩
    simp [Process.replace, same, stored]

/-- An action of one manager keeps what holds of all of them: the others see a step of somebody
else. -/
theorem managed_replaced (managed : process.Managed) {index : Nat} {action : Action}
    (found : process.managers[index]? = some state) (moved : step state action = some next) :
    (process.replace index next).Managed := by
  have present := List.mem_of_getElem? found
  obtain ⟨own, reached⟩ := managed.managers state present
  have grows := counter_grows managed present moved
  have counted := handedOut_transition (step_transition moved)
  refine ⟨?_, managed.ticking, ?_, ?_, ?_⟩
  · have bounded := managed.bounded
    simp only [Process.replace]
    omega
  · intro manager member
    rcases mem_replaced member with rfl | ⟨other, kept, rfl⟩
    · exact ⟨rfl, .step state _ action reached trivial moved⟩
    · obtain ⟨counter, before⟩ := managed.managers other kept
      exact ⟨rfl, before.trans (sees_reachable (counter ▸ grows))⟩
  · intro manager member blockId held
    simp only [Process.replace]
    rcases mem_replaced member with rfl | ⟨other, kept, rfl⟩
    · rcases counted with ⟨same, -⟩ | ⟨more, counter, -⟩
      · have below := managed.below state present blockId (same ▸ held)
        omega
      · rw [more] at held
        rcases List.mem_cons.mp held with rfl | old
        · omega
        · have below := managed.below state present blockId old
          omega
    · have below := managed.below other kept blockId held
      omega
  · obtain ⟨before, behind, split, -, changed⟩ := focus process.managers index state found
    have replaced : (process.replace index next).managers.flatMap State.handedOut =
        before.flatMap State.handedOut ++ (next.handedOut ++ behind.flatMap State.handedOut) := by
      simp only [Process.replace, changed, List.flatMap_map, List.flatMap_append,
        List.flatMap_cons]
      rfl
    have distinct := managed.distinct
    have all : process.managers.flatMap State.handedOut =
        before.flatMap State.handedOut ++ (state.handedOut ++ behind.flatMap State.handedOut) := by
      rw [split, List.flatMap_append, List.flatMap_cons]
    rw [replaced]
    rcases counted with ⟨same, -⟩ | ⟨more, -, -⟩
    · rw [same, ← all]
      exact distinct
    · rw [more, List.cons_append, List.nodup_middle, ← all]
      refine List.nodup_cons.mpr ⟨fun member => ?_, distinct⟩
      obtain ⟨manager, kept, held⟩ := List.mem_flatMap.mp member
      have below := managed.below manager kept _ held
      omega

/-- Every action of the process keeps what holds of the managers, and each manager goes on to a
state it can reach alone. -/
theorem managed_step {action : ProcessAction} (managed : process.Managed)
    (moved : process.step action = some after) :
    after.Managed ∧ ∀ (index : Nat) (manager : State),
      process.managers[index]? = some manager → ∃ later, after.managers[index]? = some later ∧
        Reachable step (fun _ _ => True) (fun origin => origin = manager) later := by
  cases action with
  | construct config blockCount =>
    obtain rfl := Option.some.inj moved
    have initial : Initial (process.constructed config blockCount) :=
      ⟨config, blockCount, process.publisherPid, process.nextProcessBlockId, process.clock,
        managed.bounded, managed.ticking, rfl⟩
    refine ⟨⟨managed.bounded, managed.ticking, ?_, ?_, ?_⟩, fun index manager stored => ?_⟩
    · intro manager member
      rcases List.mem_append.mp member with old | own
      · exact managed.managers manager old
      · obtain rfl := List.mem_singleton.mp own
        exact ⟨rfl, .start _ initial⟩
    · intro manager member blockId held
      rcases List.mem_append.mp member with old | own
      · exact managed.below manager old blockId held
      · obtain rfl := List.mem_singleton.mp own
        exact absurd held (by simp [Process.constructed, State.handedOut])
    · have unused : (process.constructed config blockCount).handedOut = [] := rfl
      simpa [unused] using managed.distinct
    · have inside := (List.getElem?_eq_some_iff.mp stored).1
      exact ⟨manager, (List.getElem?_append_left inside).trans stored, .start manager rfl⟩
  | tick elapsed =>
    obtain rfl := Option.some.inj moved
    have later (manager : State) : Reachable step (fun _ _ => True) (fun origin => origin = manager)
        { manager with clock := manager.clock + elapsed } :=
      .step manager _ (.tick elapsed) (.start manager rfl) trivial rfl
    refine ⟨⟨managed.bounded, Nat.lt_of_lt_of_le managed.ticking (Nat.le_add_right ..), ?_, ?_, ?_⟩,
      fun index manager stored => ⟨_, by simp [stored], later manager⟩⟩
    · intro manager member
      obtain ⟨other, old, rfl⟩ := List.mem_map.mp member
      exact ⟨(managed.managers other old).1, (managed.managers other old).2.trans (later other)⟩
    · intro manager member
      obtain ⟨other, old, rfl⟩ := List.mem_map.mp member
      exact managed.below other old
    · rw [List.flatMap_map]
      exact managed.distinct
  | manager index action =>
    simp only [Process.step] at moved
    split at moved
    · obtain ⟨state, found, moved⟩ := Option.bind_eq_some_iff.mp moved
      obtain ⟨next, taken, rfl⟩ := Option.map_eq_some_iff.mp moved
      exact ⟨managed_replaced managed found taken, fun other manager stored =>
        replaced_follows managed found taken stored⟩
    · simp at moved

/-- In every run of a process its managers are managers in a run of their own. -/
theorem reachable_managed
    (reached : Reachable Process.step (fun _ _ => True) Process.Initial process) :
    process.Managed := by
  refine Reachable.invariant ?_ ?_ reached
  · rintro start ⟨zero, ticking, none⟩
    constructor <;> simp [zero, ticking, none]
  · intro earlier later action _ managed _ moved
    exact (managed_step managed moved).1

/-- And a further run of the process is a further run of each of its managers among others. -/
theorem managers_follow
    (reached : Reachable Process.step (fun _ _ => True) Process.Initial process)
    (further : Reachable Process.step (fun _ _ => True) (fun origin => origin = process) after)
    {index : Nat} (stored : process.managers[index]? = some state) :
    ∃ later, after.managers[index]? = some later ∧
      Reachable step (fun _ _ => True) (fun origin => origin = state) later := by
  induction further with
  | start origin same => exact ⟨state, same ▸ stored, .start state rfl⟩
  | step middle after action between _ moved inductionHypothesis =>
    obtain ⟨manager, found, first⟩ := inductionHypothesis
    have managed := reachable_managed (reached.trans between)
    obtain ⟨later, last, second⟩ := (managed_step managed moved).2 index manager found
    exact ⟨later, last, first.trans second⟩

end Ros2CudaIpc.GpuBufferManager
