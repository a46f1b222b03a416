import Ros2CudaIpc.ManagerRefinement
import Ros2CudaIpc.PoolGenerations
import Ros2CudaIpc.RoundRobin

/-!
# The manager's reservation is the pool's search

The manager takes a reservation apart into its operations, between which others may
act. Undisturbed, a call comes to where the search ends, with its pool, its objects and
its reservation. The clock stands still meanwhile, so every block is tried at one
reading.

In a run of the manager an initialised pool is a generation of blocks, so the search
is the one whose turns are fair.
-/

namespace Ros2CudaIpc.RoundRobin

open Reachability
open GpuBufferManager

/-- The operations of an attempt up to its return, one after another, at one reading of the clock.
-/
inductive Completes (clock : Nat) :
    ReserveCall → BlockMetadata → BlockMetadata → Option Nat → Prop where
  | returned {call : ReserveCall} {metadata changed : BlockMetadata} {result : Option Nat}
      (operation : call.step clock metadata = (changed, .returned result)) :
      Completes clock call metadata changed result
  | running {call next : ReserveCall} {metadata between changed : BlockMetadata}
      {result : Option Nat} (operation : call.step clock metadata = (between, .running next))
      (rest : Completes clock next between changed result) :
      Completes clock call metadata changed result

/-- An attempt performs its operations, so the call which computes its result at once is the call
step by step. -/
theorem attempt_completes (clock : Nat) (metadata : BlockMetadata) :
    Completes clock .start metadata (attempt clock metadata).1 (attempt clock metadata).2 := by
  refine .running rfl ?_
  unfold attempt
  split
  · next referenced => exact .returned (if_pos referenced)
  next unreferenced =>
  have idle : metadata.refcount = 0 := by simpa using unreferenced
  refine .running (if_neg unreferenced) ?_
  split
  · next recent => exact .returned (if_pos recent)
  next old =>
  refine .running (if_neg old) ?_
  refine .running (if_pos idle) ?_
  simp only
  split
  · next last => exact .running (if_pos last) (.returned rfl)
  · next room =>
    refine .running (if_neg room) ?_
    have stored : ReserveCall.step clock { metadata with refcount := 1 }
        ⟨clock, .storeUid (metadata.uid + 1)⟩ =
          ({ metadata with uid := metadata.uid + 1, refcount := 1 },
            .running ⟨clock, .storeTimestamp (metadata.uid + 1)⟩) := rfl
    exact .running stored (.returned rfl)

/-- The call inside the mutex goes on, and nobody else, for any number of steps. -/
inductive Performs : State → State → Prop where
  | done (state : State) : Performs state state
  | step {state middle next : State}
      (moved : GpuBufferManager.step state .advanceHolder = some middle)
      (rest : Performs middle next) : Performs state next

/-- What the manager has where a search ends or goes on: its pool, its objects, its
reservation and its place in the mutex. -/
structure Leaves (state : State) (scanned : Scanned) (mutex : Option Holder) (next : State) :
    Prop where
  mutex : next.mutex = mutex
  pool : next.pool = scanned.pool
  objects : next.objects = scanned.objects
  publishBlocks : next.publishBlocks = state.publishBlocks ++
    scanned.reservation.toList.map fun reservation => ⟨reservation, .idle true⟩
  clock : next.clock = state.clock

variable {state middle next : State} {offset index mapping : Nat}

/-- What the call inside the mutex performs in two parts it performs in one. -/
theorem Performs.trans (first : Performs state middle) (rest : Performs middle next) :
    Performs state next := by
  induction first with
  | done => exact rest
  | step moved _ inductionHypothesis => exact .step moved (inductionHypothesis rest)

/-- What comes behind a step without a reservation is what there is in the end. -/
theorem Leaves.trans {pool : GpuBufferPool} {objects : List MetadataObject} {scanned : Scanned}
    {mutex left : Option Holder} (first : Leaves state ⟨pool, objects, none⟩ mutex middle)
    (rest : Leaves middle scanned left next) : Leaves state scanned left next := by
  refine ⟨rest.mutex, rest.pool, rest.objects, ?_, rest.clock.trans first.clock⟩
  rw [rest.publishBlocks, first.publishBlocks]
  simp

/-- Such steps are a schedule of the manager's own step function. -/
theorem Performs.executed (performs : Performs state next) :
    ∃ steps, run GpuBufferManager.step state (List.replicate steps .advanceHolder) =
      some next := by
  induction performs with
  | done => exact ⟨0, rfl⟩
  | step moved _ inductionHypothesis =>
    obtain ⟨steps, executed⟩ := inductionHypothesis
    exact ⟨steps + 1, by rw [List.replicate_succ, run, moved, Option.bind_some, executed]⟩

/-- A second write to an object replaces the first. -/
theorem writeObject_writeObject (objects : List MetadataObject) (mapping : Nat)
    (between changed : BlockMetadata) :
    writeObject (writeObject objects (some mapping) between) (some mapping) changed =
      writeObject objects (some mapping) changed :=
  List.modify_modify_eq ..

/-- What the search has behind the attempt on a block: its reservation, or what the attempt has
written. -/
def afterAttempt (pool : GpuBufferPool) (written : List MetadataObject) (index mapping : Nat)
    (block : GpuBufferBlock) : Option Nat → Scanned
  | none => ⟨pool, written, none⟩
  | some uid =>
    { pool := { pool with nextBlock := (index + 1) % pool.blocks.length }
      objects := written
      reservation := some ⟨some mapping, block.blockId, uid, pool.publisherPid, index⟩ }

/-- Without a reservation the scan goes on behind the block; with one the call leaves the mutex. -/
def afterHolder (offset : Nat) : Option Nat → Option Holder
  | none => some (.scanning (offset + 1))
  | some _ => none

/-- The operations of an attempt on a block lead back to the scan, or out of the mutex
with a reservation. -/
theorem reserving_performs {call : ReserveCall} {metadata changed : BlockMetadata}
    {result : Option Nat} {block : GpuBufferBlock}
    (completes : Completes state.clock call metadata changed result)
    (inside : state.mutex = some (.reserving offset index mapping call))
    (found : state.read (some mapping) = some metadata)
    (stands : state.pool.resources index = some block) :
    ∃ next, Performs state next ∧
      Leaves state (afterAttempt state.pool (writeObject state.objects (some mapping) changed)
        index mapping block result) (afterHolder offset result) next := by
  generalize same : state.clock = clock at completes
  induction completes generalizing state with
  | @returned call metadata changed result operation =>
    subst same
    cases result with
    | none =>
      have moved : GpuBufferManager.step state .advanceHolder =
          some { state.write (some mapping) changed with
            mutex := some (.scanning (offset + 1)) } := by
        simp only [step, inside, Option.bind_some, State.advanceHolder, found, operation]
      exact ⟨_, .step moved (.done _), rfl, rfl, rfl, (List.append_nil _).symm, rfl⟩
    | some uid =>
      have granted : ∃ next, GpuBufferManager.step state .advanceHolder = some next ∧
          Leaves state (afterAttempt state.pool (writeObject state.objects (some mapping) changed)
            index mapping block (some uid)) none next := by
        simp only [step, inside, Option.bind_some, State.advanceHolder, found, operation,
          State.grant, State.write, stands, Option.map_some]
        exact ⟨_, rfl, rfl, rfl, rfl, rfl, rfl⟩
      obtain ⟨next, moved, leaves⟩ := granted
      exact ⟨next, .step moved (.done _), leaves⟩
  | @running call following metadata between changed result operation _ inductionHypothesis =>
    have here : ReserveCall.step state.clock metadata call = (between, .running following) := by
      rw [same]
      exact operation
    have going : ∃ middle, GpuBufferManager.step state .advanceHolder = some middle ∧
        middle = { state.write (some mapping) between with
          mutex := some (.reserving offset index mapping following) } := by
      refine ⟨_, ?_, rfl⟩
      simp only [step, inside, Option.bind_some, State.advanceHolder, found, here]
    obtain ⟨middle, moved, middle_⟩ := going
    have read : middle.read (some mapping) = some between := by
      rw [middle_]
      exact read_written found between
    obtain ⟨next, performs, leaves⟩ := inductionHypothesis (by rw [middle_]) read
      (by rw [middle_]; exact stands) (by rw [middle_]; exact same)
    refine ⟨next, .step moved performs, ?_⟩
    rw [middle_] at leaves
    simp only [State.write, writeObject_writeObject] at leaves
    exact ⟨leaves.mutex, leaves.pool, leaves.objects, leaves.publishBlocks, leaves.clock⟩

/-- Every object a block names exists, so an attempt on the block has words to read. -/
def Stored (pool : GpuBufferPool) (objects : List MetadataObject) : Prop :=
  ∀ mapping ∈ pool.mappings, mapping < objects.length

/-- A block's mapping is one of the pool's. -/
theorem mapping_mem {pool : GpuBufferPool} {block : GpuBufferBlock}
    (stands : pool.resources index = some block) (shared : block.sharedMetadata = some mapping) :
    mapping ∈ pool.mappings :=
  List.mem_filterMap.mpr ⟨block, List.mem_of_getElem? stands, shared⟩

/-- Where a step of the scan between two blocks leads: on to the next one, or to an attempt. -/
def visit (offset index : Nat) : Option Nat → Holder
  | none => .scanning (offset + 1)
  | some mapping => .reserving offset index mapping ReserveCall.start

/-- A step of the scan between two blocks changes nothing but the position inside the mutex. -/
theorem scanning_step {block : GpuBufferBlock} (inside : state.mutex = some (.scanning offset))
    (within : offset < state.pool.blocks.length)
    (stands : state.pool.resources (state.pool.scanIndex offset) = some block) :
    ∃ middle, GpuBufferManager.step state .advanceHolder = some middle ∧
      Leaves state ⟨state.pool, state.objects, none⟩
        (some (visit offset (state.pool.scanIndex offset) block.sharedMetadata)) middle := by
  simp only [step, inside, Option.bind_some, State.advanceHolder, within, if_true, stands]
  cases block.sharedMetadata with
  | none => exact ⟨_, rfl, rfl, rfl, rfl, (List.append_nil _).symm, rfl⟩
  | some mapping => exact ⟨_, rfl, rfl, rfl, rfl, (List.append_nil _).symm, rfl⟩

/-- Words written to an object leave every object where it is. -/
theorem Stored.written {pool : GpuBufferPool} {objects : List MetadataObject}
    (stored : Stored pool objects) (mapping : Nat) (changed : BlockMetadata) :
    Stored pool (writeObject objects (some mapping) changed) := by
  intro other member
  simpa [writeObject] using stored other member

/-- From between two blocks the call comes to where the search ends.

Proof: the rest of the scan, from a state which has the pool and stored objects. -/
theorem scanning_performs {remaining : Nat} (inside : state.mutex = some (.scanning offset))
    (rest : offset + remaining = state.pool.blocks.length)
    (stored : Stored state.pool state.objects) :
    ∃ next, Performs state next ∧
      Leaves state (scan (fun _ => state.clock) state.pool state.objects remaining offset) none
        next := by
  induction remaining generalizing state offset with
  | zero =>
    have beyond : ¬ offset < state.pool.blocks.length := by omega
    have moved : GpuBufferManager.step state .advanceHolder =
        some { state with mutex := none } := by
      simp only [step, inside, Option.bind_some, State.advanceHolder, beyond, if_false]
    exact ⟨_, .step moved (.done _), rfl, rfl, rfl, (List.append_nil _).symm, rfl⟩
  | succ remaining inductionHypothesis =>
    have within : offset < state.pool.blocks.length := by omega
    have standing : state.pool.scanIndex offset < state.pool.blocks.length :=
      Nat.mod_lt _ (by omega)
    obtain ⟨block, stands⟩ : ∃ block,
        state.pool.resources (state.pool.scanIndex offset) = some block :=
      ⟨_, List.getElem?_eq_getElem standing⟩
    obtain ⟨middle, moved, visits⟩ := scanning_step inside within stands
    have continues {tried : State} {objects : List MetadataObject}
        (performs : Performs middle tried)
        (passes : Leaves state ⟨state.pool, objects, none⟩ (some (.scanning (offset + 1))) tried)
        (still : Stored state.pool objects) :
        ∃ next, Performs state next ∧
          Leaves state (scan (fun _ => state.clock) state.pool objects remaining (offset + 1)) none
            next := by
      have same : tried.pool = state.pool := passes.pool
      have further : offset + 1 + remaining = tried.pool.blocks.length := by
        rw [same]
        omega
      have again : Stored tried.pool tried.objects := by
        rw [same, passes.objects]
        exact still
      obtain ⟨next, goes, ends⟩ := inductionHypothesis passes.mutex further again
      rw [same, passes.objects, passes.clock] at ends
      exact ⟨next, .step moved (performs.trans goes), passes.trans ends⟩
    cases shared : block.sharedMetadata with
    | none =>
      rw [shared] at visits
      simp only [scan, stands, shared]
      exact continues (.done _) visits stored
    | some mapping =>
      rw [shared] at visits
      obtain ⟨object, found⟩ : ∃ object, state.objects[mapping]? = some object :=
        ⟨_, List.getElem?_eq_getElem (stored mapping (mapping_mem stands shared))⟩
      have read : middle.read (some mapping) = some object.metadata := by
        simp [State.read, visits.objects, found]
      have remains : middle.pool.resources (state.pool.scanIndex offset) = some block := by
        rw [visits.pool]
        exact stands
      obtain ⟨tried, performs, leaves⟩ := reserving_performs
        (attempt_completes middle.clock object.metadata) visits.mutex read remains
      have tries := visits.trans leaves
      rw [visits.pool, visits.objects, visits.clock] at tries
      simp only [scan, stands, shared, found]
      cases result : (attempt state.clock object.metadata).2 with
      | some uid =>
        rw [result] at tries
        exact ⟨tried, .step moved performs, tries⟩
      | none =>
        rw [result] at tries
        exact continues performs tries (stored.written mapping _)

/-- A reservation which nobody disturbs is the pool's search at the present clock, with the same
pool, objects and result. -/
theorem acquireForPublish_performs (free : state.mutex = none)
    (ready : state.pool.initialised = true) (nonempty : state.pool.blocks ≠ [])
    (stored : Stored state.pool state.objects) :
    ∃ steps next, run GpuBufferManager.step state
        (.acquireForPublish true :: List.replicate steps .advanceHolder) = some next ∧
      Leaves state (reserveForPublish true (fun _ => state.clock) state.pool state.objects) none
        next := by
  have moved : GpuBufferManager.step state (.acquireForPublish true) =
      some { state with mutex := some (.scanning 0) } := by
    simp [step, free, ready, nonempty]
  have called : reserveForPublish true (fun _ => state.clock) state.pool state.objects =
      scan (fun _ => state.clock) state.pool state.objects state.pool.blocks.length 0 := by
    simp [reserveForPublish, ready, nonempty]
  have begun : Leaves state ⟨state.pool, state.objects, none⟩ (some (.scanning 0))
      { state with mutex := some (.scanning 0) } :=
    ⟨rfl, rfl, rfl, (List.append_nil _).symm, rfl⟩
  obtain ⟨next, performs, ends⟩ := scanning_performs begun.mutex (Nat.zero_add _) stored
  obtain ⟨steps, executed⟩ := performs.executed
  refine ⟨steps, next, ?_, ?_⟩
  · rw [run, moved, Option.bind_some, executed]
  · rw [called]
    exact begun.trans ends

/-- The generation of a reachable state, on which the search is fair. -/
def generation (ready : state.pool.initialised = true) (generated : state.Generated) :
    Generation :=
  ⟨state.pool, state.objects, ready, generated.nonempty, generated.cursor, generated.distinct⟩

/-- From every state of a run in which the pool is initialised and its mutex free, a
reservation which nobody disturbs serves the first block in cyclic order which can be
reserved, or there is none and everything stays. -/
theorem reachable_serves {admitted : State → Action → Prop}
    (reached : Reachable GpuBufferManager.step admitted Initial state)
    (ready : state.pool.initialised = true) (free : state.mutex = none) :
    ∃ (generated : state.Generated) (steps : Nat) (next : State),
      run GpuBufferManager.step state
        (.acquireForPublish true :: List.replicate steps .advanceHolder) = some next ∧
      ((∃ reservation,
          next.publishBlocks = state.publishBlocks ++ [⟨reservation, .idle true⟩] ∧
          (generation ready generated).Serves (fun _ => state.clock)
            ⟨next.pool, next.objects, some reservation⟩ reservation) ∨
        (∀ index, ¬ (generation ready generated).ReusableAt (fun _ => state.clock) index) ∧
          next.pool = state.pool ∧ next.objects = state.objects ∧
          next.publishBlocks = state.publishBlocks) := by
  have generated := reachable_generated reached ready
  obtain ⟨steps, next, executed, leaves⟩ :=
    acquireForPublish_performs free ready generated.nonempty generated.stored
  refine ⟨generated, steps, next, executed, ?_⟩
  have search := (generation ready generated).reserveForPublish_cases fun _ => state.clock
  have called : (generation ready generated).reserveForPublish true (fun _ => state.clock) =
      reserveForPublish true (fun _ => state.clock) state.pool state.objects := rfl
  rw [called] at search
  obtain ⟨-, pool, objects, publishBlocks, -⟩ := leaves
  rcases search with ⟨reservation, granted, serves⟩ | ⟨absent, same⟩
  · refine .inl ⟨reservation, ?_, ?_⟩
    · rw [publishBlocks, granted]
      rfl
    · rw [pool, objects, ← granted]
      exact serves
  · rw [same] at pool objects publishBlocks
    exact .inr ⟨absent, pool, objects, by simpa using publishBlocks⟩

end Ros2CudaIpc.RoundRobin
