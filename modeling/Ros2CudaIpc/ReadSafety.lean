import Mathlib.Data.List.TakeWhile
import Ros2CudaIpc.ReadObservation

/-!
# Every executed read saw one publication

Each action of the system keeps what the publishers enqueue ordered and every handle
served. An executed read therefore saw what was written under the reservation of its
publication and under the earlier ones, in the order of writing: nothing of a later
reservation, and no part of a publication without the rest.
-/

namespace Ros2CudaIpc.ZeroCopy

open Reachability StreamOrder
open DeferredRelease (Event WithContext)
open GpuBufferManager (Acquisition Disciplined)

universe u
variable {δ : Type u} {producer : Nat → Nat} {world next : World δ}

/-- A step of the manager, and the ready record it may enqueue. A bound reference is not released
by the manager's own step. -/
theorem manage_cases {action : GpuBufferManager.Action} (moved : world.manage action = some next) :
    ∃ manager, GpuBufferManager.step world.manager action = some manager ∧
      (((∀ index locked recorded stream,
            action ≠ .preparePublish index locked recorded stream) ∧
          (∀ number, action = .release number → ¬ world.Bound number) ∧
          next = { world with manager := manager }) ∨
        ∃ index locked recorded stream,
          action = .preparePublish index locked recorded stream ∧
          ((World.readyRecord world.manager manager index = none ∧
              next = { world with manager := manager }) ∨
            ∃ mapping uid, World.readyRecord world.manager manager index = some (mapping, uid) ∧
              next = { world with manager := manager }.enqueue (.publisher stream) none
                (.ready mapping uid))) := by
  cases action with
  | preparePublish index locked recorded stream =>
    obtain ⟨manager, stepped, result⟩ := Option.map_eq_some_iff.mp moved
    refine ⟨manager, stepped, .inr ⟨index, locked, recorded, stream, rfl, ?_⟩⟩
    split at result
    · next unrecorded => exact .inl ⟨unrecorded, result.symm⟩
    · next mapping uid recording => exact .inr ⟨mapping, uid, recording, result.symm⟩
  | release number =>
    simp only [World.manage] at moved
    split at moved
    · simp at moved
    · next unbound =>
      obtain ⟨manager, stepped, rfl⟩ := Option.map_eq_some_iff.mp moved
      refine ⟨manager, stepped, .inl ⟨by simp, ?_, rfl⟩⟩
      rintro other same
      obtain rfl := GpuBufferManager.Action.release.inj same
      exact unbound
  | _ =>
    simp only [World.manage] at moved
    obtain ⟨manager, stepped, rfl⟩ := Option.map_eq_some_iff.mp moved
    exact ⟨manager, stepped, .inl ⟨by simp, by simp, rfl⟩⟩

/-- A `prepare_publish` records the ready event of a block, or enqueues nothing and leaves its
PublishBlock refused or quarantined. -/
theorem prepare_cases {before after : GpuBufferManager.State} {index stream : Nat}
    {locked recorded : Bool}
    (moved : GpuBufferManager.step before (.preparePublish index locked recorded stream) =
      some after) :
    (World.readyRecord before after index = none ∧ (GpuBufferManager.Traced before after ∨
      ∃ reservation : BlockReservation, reservation.mapping = none ∧ after.log = before.log ∧
        after.publishBlocks = before.publishBlocks.set index ⟨reservation, .recorded⟩)) ∨
    ∃ reservation mapping, World.readyRecord before after index = some (mapping, reservation.uid) ∧
      reservation.mapping = some mapping ∧
      before.publishBlocks[index]? = some ⟨reservation, .idle true⟩ ∧ after.log = before.log ∧
      after.publishBlocks = before.publishBlocks.set index ⟨reservation, .recorded⟩ := by
  obtain ⟨block, found, prepared⟩ := Option.bind_eq_some_iff.mp moved
  have inside := (List.getElem?_eq_some_iff.mp found).1
  rcases GpuBufferManager.preparePublish_cases prepared with
    rfl | ⟨reservation, rfl, rfl | ⟨pool, rfl⟩⟩
  · refine .inl ⟨?_, .inl (GpuBufferManager.traced_same rfl)⟩
    unfold World.readyRecord
    grind
  · refine .inl ⟨?_, .inl (GpuBufferManager.traced_set rfl (by simp) ?_)⟩
    · simp [World.readyRecord, GpuBufferManager.State.quarantine, GpuBufferManager.State.put,
        GpuBufferManager.State.note, found, List.getElem?_set_self inside]
    · simp [GpuBufferManager.Stage.announcing]
  · have record : World.readyRecord before
        (({ before with pool := pool } : GpuBufferManager.State).put index ⟨reservation, .recorded⟩)
          index = reservation.mapping.map fun mapping => (mapping, reservation.uid) := by
      simp [World.readyRecord, GpuBufferManager.State.put, found, List.getElem?_set_self inside]
    cases mapped : reservation.mapping with
    | none =>
      rw [mapped] at record
      exact .inl ⟨record, .inr ⟨reservation, mapped, rfl, rfl⟩⟩
    | some mapping =>
      rw [mapped] at record
      exact .inr ⟨reservation, mapping, record, mapped, found, rfl, rfl⟩

/-- A write goes through a PublishBlock which can write: an idle one with an owner and a mapping. -/
theorem write_cases {index stream : Nat} {data : δ}
    (moved : world.write index stream data = some next) : ∃ reservation mapping,
      world.manager.publishBlocks[index]? = some ⟨reservation, .idle true⟩ ∧
        reservation.mapping = some mapping ∧
        next = world.enqueue (.publisher stream) none (.write mapping reservation.uid data) := by
  unfold World.write at moved
  split at moved
  · next reservation found =>
    split at moved
    · simp at moved
    · next mapping mapped =>
      split at moved
      · simp at moved
      · exact ⟨reservation, mapping, found, mapped, (Option.some.inj moved).symm⟩
  · simp at moved

/-- A binding takes a held BufferRef no handle has, and waits for its block, or it leaves
the system as it was. -/
theorem bind_cases {reader number : Nat} {outcomes : BindOutcomes}
    {publication : MappedPublication} {stream : CUstream}
    (moved : world.bind reader number outcomes publication stream = some next) :
    next = world ∨ ∃ process bindings following mapping uid,
      world.readers[reader]? = some ⟨process, bindings⟩ ∧
      world.manager.acquisitions[number]? = some ⟨mapping, uid, .holding⟩ ∧
      ¬ world.Bound number ∧
      DeferredRelease.step process (.makeBound outcomes publication stream) = some following ∧
      following.created ≠ process.created ∧
      next = { world.enqueue (.reader reader stream)
          (if publication.resource.elim 0 ImportedResources.event = 0 then none
            else world.device.latest (Task.recordsReady mapping)) .wait with
        readers := world.readers.set reader ⟨following, bindings ++ [number]⟩ } := by
  unfold World.bind at moved
  split at moved
  · next process bindings mapping uid found acquired =>
    split at moved
    · simp at moved
    · next free =>
      obtain ⟨following, stepped, result⟩ := Option.map_eq_some_iff.mp moved
      split at result
      · exact .inl result.symm
      · next fresh =>
        exact .inr ⟨process, bindings, following, mapping, uid, found, acquired,
          fun bound => free (.inl bound), stepped, fresh, result.symm⟩
  · simp at moved

/-- A read goes through a living handle, on its consumer stream, and is of the block its BufferRef
is on. -/
theorem read_cases {reader index : Nat} (moved : world.read reader index = some next) :
    ∃ process bindings bound number acquisition,
      world.readers[reader]? = some ⟨process, bindings⟩ ∧ some bound ∈ process.handles ∧
      bindings[bound.number]? = some number ∧
      world.manager.acquisitions[number]? = some acquisition ∧
      next = world.enqueue (.reader reader bound.impl.consumerStream) none
        (.read acquisition.mapping reader bound.number) := by
  obtain ⟨⟨process, bindings⟩, found, moved⟩ := Option.bind_eq_some_iff.mp moved
  cases held : process.handles[index]? with
  | none => simp [held] at moved
  | some handle =>
    cases handle with
    | none => simp [held] at moved
    | some bound =>
      simp only [held] at moved
      obtain ⟨acquisition, acquired, rfl⟩ := Option.map_eq_some_iff.mp moved
      obtain ⟨number, binding, same⟩ := Option.bind_eq_some_iff.mp acquired
      exact ⟨process, bindings, bound, number, acquisition, found, List.mem_of_getElem? held,
        binding, same, rfl⟩

/-- What a step of a process does: silently, or with the one event which reaches the
others. -/
inductive Handled (world : World δ) (reader : Nat) (bindings : List Nat)
    (process following : DeferredRelease.State) : List Event → World δ → Prop where
  | quiet (events : List Event) (silent : ∀ event ∈ events, event.silent = true) :
      Handled world reader bindings process following events
        { world with readers := world.readers.set reader ⟨following, bindings⟩ }
  | recorded (handle event : Nat) (stream : CUstream)
      (history : process.history handle = DeferredRelease.droppedTrace handle event stream) :
      Handled world reader bindings process following [.recorded handle event stream]
        ({ world with readers := world.readers.set reader ⟨following, bindings⟩ }.enqueue
          (.reader reader stream) none (.completion reader handle))
  | synchronized (handle event : Nat) (completed : world.completed reader handle = true) :
      Handled world reader bindings process following [.synchronized handle event]
        { world with readers := world.readers.set reader ⟨following, bindings⟩ }
  | released (handle number : Nat) (manager : GpuBufferManager.State)
      (binding : bindings[handle]? = some number)
      (given : GpuBufferManager.step world.manager (.release number) = some manager) :
      Handled world reader bindings process following [.bufferRefReleased handle]
        { world with
          manager := manager
          readers := world.readers.set reader ⟨following, bindings⟩ }

/-- Nobody outside takes part in silent events, so performing them changes nothing. -/
theorem perform_silent {reader : Nat} {bindings : List Nat} {events : List Event}
    (silent : ∀ event ∈ events, event.silent = true) (world : World δ) :
    events.foldlM (World.perform reader bindings) world = some world := by
  induction events with
  | nil => rfl
  | cons event rest inductionHypothesis =>
    have quiet := silent event (List.mem_cons_self ..)
    have same : World.perform reader bindings world event = some world := by
      cases event <;> first | rfl | simp [Event.silent] at quiet
    rw [List.foldlM_cons, same]
    exact inductionHypothesis fun other member => silent other (List.mem_cons_of_mem _ member)

/-- A step of a process which binds nothing, with the events it logs and what they do outside. -/
theorem handle_cases {reader : Nat} {action : DeferredRelease.Action} (sound : Sound world)
    (moved : world.handle reader action = some next) : ∃ process bindings following events,
      world.readers[reader]? = some ⟨process, bindings⟩ ∧
      DeferredRelease.step process action = some following ∧
      (∀ outcomes publication stream, action ≠ .makeBound outcomes publication stream) ∧
      following.created = process.created ∧ following.log = events ++ process.log ∧
      Handled world reader bindings process following events next := by
  unfold World.handle at moved
  split at moved
  · simp at moved
  · simp at moved
  · next action _ _ process bindings found unbinding =>
    obtain ⟨following, stepped, performed⟩ := Option.bind_eq_some_iff.mp moved
    have binds : ∀ outcomes publication stream, action ≠ .makeBound outcomes publication stream :=
      fun outcomes publication stream same => unbinding outcomes publication stream same
    have consistent := DeferredRelease.reachable_consistent
      (sound.processes _ (List.mem_of_getElem? found))
    obtain ⟨created, -, events, logged, effect⟩ :=
      DeferredRelease.step_effect consistent binds stepped
    refine ⟨process, bindings, following, events, found, stepped, binds, created, logged, ?_⟩
    rw [logged] at performed
    simp only [List.length_append, Nat.add_sub_cancel, List.take_left'] at performed
    cases effect with
    | quiet events silent =>
      rw [perform_silent (by simpa using silent)] at performed
      exact (Option.some.inj performed) ▸ .quiet events silent
    | recorded handle event stream history =>
      obtain rfl : _ = next := by simpa [World.perform] using performed
      exact .recorded handle event stream history
    | synchronized handle event stream history =>
      obtain ⟨completed, rfl⟩ : world.completed reader handle = true ∧ _ = next := by
        simpa [World.perform, World.completed] using performed
      exact .synchronized handle event completed
    | released handle event stream history =>
      obtain ⟨number, binding, manager, given, rfl⟩ : ∃ number, bindings[handle]? = some number ∧
          ∃ manager, GpuBufferManager.step world.manager (.release number) = some manager ∧
            _ = next := by
        simpa [World.perform, Option.bind_eq_some_iff] using performed
      exact .released handle number manager binding given

/-- What the publishers enqueue stays ordered under every action which keeps to the contract. -/
theorem enqueued_step {action : Action δ} (sound : Sound world)
    (enqueued : Enqueued producer world.manager world.device.commands)
    (allowed : Contract producer world action) (moved : step world action = some next) :
    Enqueued producer next.manager next.device.commands := by
  cases action with
  | manage action =>
    obtain ⟨manager, stepped,
      ⟨unready, -, rfl⟩ | ⟨index, locked, recorded, stream, rfl, prepared⟩⟩ :=
      manage_cases moved
    · have disciplined : Disciplined world.manager action := by
        cases action with
        | preparePublish index locked recorded stream =>
          exact absurd rfl (unready index locked recorded stream)
        | _ => exact allowed
      exact enqueued.manage sound.manager disciplined stepped
        (GpuBufferManager.step_traced unready stepped)
    · have disciplined : Disciplined world.manager (.preparePublish index locked recorded stream) :=
        trivial
      rcases prepare_cases stepped with ⟨none, quiet⟩ | ⟨reservation, mapping, record, mapped,
        found, logged, blocks⟩
      · obtain rfl : next = { world with manager := manager } := by
          rcases prepared with ⟨-, same⟩ | ⟨mapping, uid, record, -⟩
          · exact same
          · simp [none] at record
        rcases quiet with traced | ⟨reservation, unmapped, logged, blocks⟩
        · exact enqueued.manage sound.manager disciplined stepped traced
        · exact enqueued.unmapped unmapped logged blocks
      · rcases prepared with ⟨none, -⟩ | ⟨other, uid, same, rfl⟩
        · simp [none] at record
        · obtain ⟨rfl, rfl⟩ := Prod.mk.inj (Option.some.inj (same.symm.trans record))
          obtain rfl := allowed.2 _ found other mapped
          exact enqueued.ready sound.manager found mapped rfl rfl logged blocks
  | write index stream data =>
    obtain ⟨reservation, mapping, found, mapped, rfl⟩ := write_cases moved
    obtain rfl := allowed.2 _ found mapping mapped
    exact enqueued.write sound.manager found mapped rfl rfl rfl
  | bind reader number outcomes publication stream =>
    rcases bind_cases moved with rfl | ⟨process, bindings, following, mapping, uid, -, -, -, -, -,
      rfl⟩
    · exact enqueued
    · exact enqueued.append rfl
  | handle reader action =>
    obtain ⟨process, bindings, following, events, -, -, -, -, -, handled⟩ :=
      handle_cases sound moved
    cases handled with
    | quiet | synchronized => exact enqueued
    | recorded handle event stream => exact enqueued.append rfl
    | released handle number manager binding given =>
      have disciplined : Disciplined world.manager (.release number) := trivial
      exact enqueued.manage sound.manager disciplined given
        (GpuBufferManager.step_traced (by simp) given)
  | read reader index =>
    obtain ⟨process, bindings, bound, number, acquisition, -, -, -, -, rfl⟩ := read_cases moved
    exact enqueued.append rfl
  | execute index =>
    obtain ⟨device, executed, same⟩ := Option.map_eq_some_iff.mp moved
    obtain ⟨-, rfl⟩ := execute_eq_some executed
    split at same <;> exact same ▸ enqueued

/-- A bound handle is served, because the latest ready record on its block is the one of the held
publication. -/
theorem sound_bind {reader number : Nat} {outcomes : BindOutcomes}
    {publication : MappedPublication} {stream : CUstream} (sound : Sound world)
    (enqueued : Enqueued producer world.manager world.device.commands)
    (allowed : Contract producer world (.bind reader number outcomes publication stream))
    (moved : step world (.bind reader number outcomes publication stream) = some next) :
    Sound next := by
  rcases bind_cases moved with rfl | ⟨process, bindings, following, mapping, uid, found, acquired,
    unbound, bound, fresh, rfl⟩
  · exact sound
  · have holds : ⟨mapping, uid, .holding⟩ ∈ world.manager.acquisitions :=
      List.mem_of_getElem? acquired
    obtain ⟨metadata, read, rfl, announced, -⟩ :=
      GpuBufferManager.holding_vacant sound.manager holds
    obtain ⟨record, ready, latest, stored, announces, writes⟩ :
        ∃ record ready, world.device.latest (Task.recordsReady mapping) = some record ∧
          world.device.commands[record]? = some ready ∧
          ready.task.announces mapping metadata.uid = true ∧
          ∀ (index : Nat) command, world.device.commands[index]? = some command →
            (command.task.writesTo mapping).isSome → index < record :=
      enqueued.latest sound.manager read announced
    obtain ⟨resource, carried⟩ : ∃ resource, publication.resource = some resource := by
      rcases DeferredRelease.makeBound_effect bound with rfl | ⟨resource, -, -, carried, -⟩
      · exact absurd rfl fresh
      · exact ⟨resource, carried⟩
    have event : publication.resource.elim 0 ImportedResources.event ≠ 0 := by
      rw [carried]
      exact (allowed.2 resource carried).2
    have inside := (List.getElem?_eq_some_iff.mp stored).1
    rw [if_neg event, latest]
    refine (sound.mark (.reader reader stream) (some record) .wait
      (by simp [Task.readsThrough, Task.completes]) (by simp [Task.writesTo])).bind
      found acquired unbound ?_ bound fresh ?_ inside ⟨ready, ?_, announces⟩ ?_
    · exact fun resource carried => (allowed.2 resource carried).1
    · simp [World.enqueue]
    · simp only [World.enqueue, Device.enqueue_commands]
      rw [List.getElem?_append_left inside, stored]
    · intro index command enqueuedToo does
      rcases enqueued_cases enqueuedToo with before | ⟨-, rfl⟩
      · exact writes index command before does
      · simp [Task.writesTo] at does

/-- The steps of a process keep every handle served. A record is enqueued behind the reads through
its handle, a synchronization waits for that record, and a reference is given back last. -/
theorem sound_handle {reader : Nat} {action : DeferredRelease.Action} (sound : Sound world)
    (moved : step world (.handle reader action) = some next) : Sound next := by
  obtain ⟨process, bindings, following, events, found, stepped, unbinding, created, logged,
    handled⟩ := handle_cases sound moved
  have consistent := DeferredRelease.reachable_consistent
    (sound.processes _ (List.mem_of_getElem? found))
  have counted : bindings.length = process.created :=
    sound.numbered _ (List.mem_of_getElem? found)
  have inside := (List.getElem?_eq_some_iff.mp found).1
  have base := sound.handle found stepped unbinding created logged
  cases handled with
  | quiet events silent =>
    refine base fun handle event member => ?_
    have quiet := silent _ member
    simp [Event.silent] at quiet
  | recorded handle event stream history =>
    have dropped {other : Event} (member : other ∈ process.log) (about : other.handle = handle) :
        other = .dropped handle ∨ other = .bound handle event stream := by
      have held := mem_history member
      rw [about, history] at held
      simpa [DeferredRelease.droppedTrace] using held
    have made : .bound handle event stream ∈ process.log := by
      have held : .bound handle event stream ∈ process.history handle := by
        simp [history, DeferredRelease.droppedTrace]
      exact (DeferredRelease.mem_trace_iff _ process.log).mp held
    have recorded : .recorded handle event stream ∈ following.log := by simp [logged]
    refine (base (by simp)).complete (List.getElem?_set_self inside) recorded ?_ ?_
    · intro other on member
      rcases dropped (by simpa [logged] using member) rfl with same | same
      · simp at same
      · simpa using (Event.bound.inj same).2.2
    · rw [counted]
      exact consistent.known _ made
  | synchronized handle event completed =>
    refine base fun other named member => ?_
    obtain ⟨rfl, -⟩ : other = handle ∧ named = event := by simpa using member
    exact completed
  | released handle number manager binding given =>
    have disciplined : Disciplined world.manager (.release number) := trivial
    have processed := base (by simp)
    refine processed.manage disciplined given fun other same index owner stored also bound => ?_
    obtain rfl := GpuBufferManager.Action.release.inj same
    obtain ⟨rfl, rfl⟩ := processed.apart reader index ⟨following, bindings⟩ owner handle also
      number (List.getElem?_set_self inside) stored binding bound
    rw [List.getElem?_set_self inside] at stored
    rw [← Option.some.inj stored]
    simp [logged]

/-- Every handle stays served under every action which keeps to the contract. The proof takes the
kinds of action one by one. -/
theorem sound_step {action : Action δ} (sound : Sound world)
    (enqueued : Enqueued producer world.manager world.device.commands)
    (allowed : Contract producer world action) (moved : step world action = some next) :
    Sound next := by
  cases action with
  | manage action =>
    obtain ⟨manager, stepped, ⟨unready, unbound, rfl⟩ | ⟨index, locked, recorded, stream, rfl,
      prepared⟩⟩ := manage_cases moved
    · have disciplined : Disciplined world.manager action := by
        cases action with
        | preparePublish index locked recorded stream =>
          exact absurd rfl (unready index locked recorded stream)
        | _ => exact allowed
      refine sound.manage disciplined stepped fun number same index reader found handle bound => ?_
      exact absurd (World.bound_of found bound) (unbound number same)
    · have disciplined : Disciplined world.manager (.preparePublish index locked recorded stream) :=
        trivial
      have managed := sound.manage disciplined stepped (by simp)
      rcases prepared with ⟨-, rfl⟩ | ⟨mapping, uid, -, rfl⟩
      · exact managed
      · exact managed.mark _ _ _ (by simp [Task.readsThrough, Task.completes])
          (by simp [Task.writesTo])
  | write index stream data =>
    obtain ⟨reservation, mapping, found, mapped, rfl⟩ := write_cases moved
    exact sound.write (List.mem_of_getElem? found) mapped
  | bind reader number outcomes publication stream => exact sound_bind sound enqueued allowed moved
  | handle reader action => exact sound_handle sound moved
  | read reader index =>
    obtain ⟨process, bindings, bound, number, acquisition, found, alive, binding, acquired, rfl⟩ :=
      read_cases moved
    exact sound.read found alive binding acquired
  | execute index =>
    obtain ⟨device, executed, same⟩ := Option.map_eq_some_iff.mp moved
    split at same <;> exact same ▸ sound.execute executed _

/-- What was written to a block under the reservations up to a uid, in the order of enqueuing. -/
def written (commands : List (Command Stream (Task δ))) (mapping uid : Nat) : List δ :=
  commands.filterMap fun command => match command.task with
    | .write other number data => if other = mapping ∧ number ≤ uid then some data else none
    | _ => none

/-- What was written in front of a ready record is what was written under the
reservations up to the recorded one. -/
theorem Enqueued.published_written {manager : GpuBufferManager.State}
    {commands : List (Command Stream (Task δ))} (enqueued : Enqueued producer manager commands)
    {mapping uid record : Nat} {ready : Command Stream (Task δ)}
    (found : commands[record]? = some ready)
    (announces : ready.task.announces mapping uid = true) :
    published commands mapping uid = written commands mapping uid := by
  obtain ⟨underReady, isReady⟩ := (Task.announces_iff ..).mp announces
  rw [enqueued.published_take found announces]
  unfold written
  conv_rhs => rw [← List.take_append_drop record commands]
  rw [List.filterMap_append]
  have behind : ∀ command ∈ commands.drop record, (match command.task with
      | .write other number data => if other = mapping ∧ number ≤ uid then some data else none
      | _ => none) = none := by
    intro command member
    obtain ⟨offset, stored⟩ := List.getElem?_of_mem member
    rw [List.getElem?_drop] at stored
    cases does : command.task with
    | write other number data =>
      refine if_neg ?_
      rintro ⟨rfl, small⟩
      rcases Nat.eq_zero_or_pos offset with rfl | above
      · obtain rfl := Option.some.inj (found.symm.trans stored)
        simp [does, Task.isReady] at isReady
      · have under : command.task.publication = some (other, number) := by rw [does]; rfl
        rcases enqueued.uids (Nat.lt_add_of_pos_right above) found stored underReady under with
          larger | ⟨-, unready⟩
        · omega
        · simp [isReady] at unready
    | _ => rfl
  rw [List.filterMap_eq_nil_iff.mpr behind, List.append_nil]
  refine List.filterMap_congr fun command member => ?_
  obtain ⟨position, stored⟩ := List.getElem?_of_mem member
  rw [List.getElem?_take] at stored
  split at stored
  · next below =>
    cases does : command.task with
    | write other number data =>
      have under : command.task.publication = some (other, number) := by rw [does]; rfl
      by_cases same : other = mapping
      · subst same
        have small : number ≤ uid := by
          rcases enqueued.uids below stored found under underReady with smaller | ⟨equal, -⟩
          · exact Nat.le_of_lt smaller
          · exact Nat.le_of_eq equal
        simp [Task.writesTo, small]
      · simp [Task.writesTo, same]
    | _ => rfl
  · simp at stored

/-- A read saw the publication its handle was bound to: what it found is what was written up to
that publication. -/
def Seen (world : World δ) (index : Nat) (contents : List δ) : Prop :=
  ∃ mapping reader handle process number uid phase,
    world.device.commands[index]?.map Command.task = some (.read mapping reader handle) ∧
    world.readers[reader]? = some process ∧ process.bindings[handle]? = some number ∧
    world.manager.acquisitions[number]? = some ⟨mapping, uid, phase⟩ ∧
    contents = published world.device.commands mapping uid

/-- What every action keeps: the enqueued commands, the bindings and whose block an
acquire is of. -/
structure Onward (world next : World δ) : Prop where
  commands : ∃ more, next.device.commands = world.device.commands ++ more
  bindings : ∀ (reader : Nat) process, world.readers[reader]? = some process →
    ∃ other more, next.readers[reader]? = some other ∧ other.bindings = process.bindings ++ more
  acquisitions : ∀ (number mapping uid : Nat) (phase : GpuBufferManager.Phase),
    world.manager.acquisitions[number]? = some ⟨mapping, uid, phase⟩ →
      ∃ after, next.manager.acquisitions[number]? = some ⟨mapping, uid, after⟩

/-- An action of the manager keeps whose block an acquire is of, and changes its phase at most. -/
theorem acquisition_onward {before after : GpuBufferManager.State}
    {action : GpuBufferManager.Action} (moved : GpuBufferManager.step before action = some after)
    {number mapping uid : Nat} {phase : GpuBufferManager.Phase}
    (acquired : before.acquisitions[number]? = some ⟨mapping, uid, phase⟩) :
    ∃ following, after.acquisitions[number]? = some ⟨mapping, uid, following⟩ := by
  have subscribed := GpuBufferManager.step_subscribed moved
  have inside := (List.getElem?_eq_some_iff.mp acquired).1
  generalize after.acquisitions = acquisitions at subscribed
  have replaced {other named mark : Nat} {old new : GpuBufferManager.Phase}
      (found : before.acquisitions[other]? = some ⟨named, mark, old⟩) :
      ∃ following, (before.acquisitions.set other ⟨named, mark, new⟩)[number]? =
        some ⟨mapping, uid, following⟩ := by
    by_cases same : other = number
    · subst same
      obtain ⟨rfl, rfl, -⟩ := Acquisition.mk.inj (Option.some.inj (found.symm.trans acquired))
      exact ⟨new, List.getElem?_set_self inside⟩
    · exact ⟨phase, (List.getElem?_set_ne same).trans acquired⟩
  cases subscribed with
  | kept => exact ⟨phase, acquired⟩
  | acquired other named => exact ⟨phase, (List.getElem?_append_left inside).trans acquired⟩
  | advanced other spurious named mark old new found => exact replaced found
  | released other named mark new found => exact replaced found

/-- A process changes and may bind one more; the other processes and all earlier bindings stay. -/
theorem bindings_onward {readers : List Reader} {reader : Nat} {process : DeferredRelease.State}
    {bindings : List Nat} (found : readers[reader]? = some ⟨process, bindings⟩)
    (following : DeferredRelease.State) (more : List Nat) (index : Nat) (before : Reader)
    (stored : readers[index]? = some before) : ∃ other more',
      (readers.set reader ⟨following, bindings ++ more⟩)[index]? = some other ∧
        other.bindings = before.bindings ++ more' := by
  by_cases same : reader = index
  · subst same
    obtain rfl := Option.some.inj (found.symm.trans stored)
    exact ⟨_, more, List.getElem?_set_self (List.getElem?_eq_some_iff.mp found).1, rfl⟩
  · exact ⟨before, [], (List.getElem?_set_ne same).trans stored, (List.append_nil _).symm⟩

/-- Every action goes onward: it takes no command, no binding and no acquire away. -/
theorem step_onward {action : Action δ} (sound : Sound world)
    (moved : step world action = some next) :
    Onward world next := by
  have same (reader : Nat) (process : Reader) (found : world.readers[reader]? = some process) :
      ∃ other more,
        world.readers[reader]? = some other ∧ other.bindings = process.bindings ++ more :=
    ⟨process, [], found, (List.append_nil _).symm⟩
  cases action with
  | manage action =>
    obtain ⟨manager, stepped, ⟨-, -, rfl⟩ | ⟨index, locked, recorded, stream, rfl,
      ⟨-, rfl⟩ | ⟨mapping, uid, -, rfl⟩⟩⟩ := manage_cases moved
    · exact ⟨⟨[], (List.append_nil _).symm⟩, same, fun _ _ _ _ => acquisition_onward stepped⟩
    · exact ⟨⟨[], (List.append_nil _).symm⟩, same, fun _ _ _ _ => acquisition_onward stepped⟩
    · exact ⟨⟨_, rfl⟩, same, fun _ _ _ _ => acquisition_onward stepped⟩
  | write index stream data =>
    obtain ⟨reservation, mapping, -, -, rfl⟩ := write_cases moved
    exact ⟨⟨_, rfl⟩, same, fun _ _ _ phase acquired => ⟨phase, acquired⟩⟩
  | bind reader number outcomes publication stream =>
    rcases bind_cases moved with rfl | ⟨process, bindings, following, mapping, uid, found, -, -,
      -, -, rfl⟩
    · exact ⟨⟨[], (List.append_nil _).symm⟩, same, fun _ _ _ phase acquired => ⟨phase, acquired⟩⟩
    · exact ⟨⟨_, rfl⟩, bindings_onward found following [number],
        fun _ _ _ phase acquired => ⟨phase, acquired⟩⟩
  | handle reader action =>
    obtain ⟨process, bindings, following, events, found, -, -, -, -, handled⟩ :=
      handle_cases sound moved
    have kept := bindings_onward found following []
    rw [List.append_nil] at kept
    cases handled with
    | quiet | synchronized =>
      exact ⟨⟨[], (List.append_nil _).symm⟩, kept, fun _ _ _ phase acquired => ⟨phase, acquired⟩⟩
    | recorded handle event stream =>
      exact ⟨⟨_, rfl⟩, kept, fun _ _ _ phase acquired => ⟨phase, acquired⟩⟩
    | released handle number manager binding given =>
      exact ⟨⟨[], (List.append_nil _).symm⟩, kept, fun _ _ _ _ => acquisition_onward given⟩
  | read reader index =>
    obtain ⟨process, bindings, bound, number, acquisition, -, -, -, -, rfl⟩ := read_cases moved
    exact ⟨⟨_, rfl⟩, same, fun _ _ _ phase acquired => ⟨phase, acquired⟩⟩
  | execute index =>
    obtain ⟨device, executed, result⟩ := Option.map_eq_some_iff.mp moved
    obtain ⟨-, rfl⟩ := execute_eq_some executed
    split at result
    · obtain rfl := result
      exact ⟨⟨[], (List.append_nil _).symm⟩, same, fun _ _ _ phase acquired => ⟨phase, acquired⟩⟩
    · obtain rfl := result
      exact ⟨⟨[], (List.append_nil _).symm⟩, same, fun _ _ _ phase acquired => ⟨phase, acquired⟩⟩

/-- A publication with a ready record stays what it was, whatever is enqueued behind it. -/
theorem published_append {commands : List (Command Stream (Task δ))} {mapping uid : Nat}
    (announced : ∃ command ∈ commands, command.task.announces mapping uid = true)
    (more : List (Command Stream (Task δ))) :
    published (commands ++ more) mapping uid = published commands mapping uid := by
  obtain ⟨command, member, announces⟩ := announced
  unfold published
  rw [List.takeWhile_append, if_neg ?_]
  intro all
  have whole := (List.takeWhile_prefix _).eq_of_length all
  have before := List.takeWhile_eq_self_iff.mp whole command member
  simp [announces] at before

/-- Only executing a read adds to what was seen, and it adds the contents the block has then. -/
theorem observed_cases {action : Action δ} (sound : Sound world)
    (moved : step world action = some next) : next.observed = world.observed ∨
      ∃ index mapping reader handle device, world.device.execute index = some device ∧
        world.device.commands[index]?.map Command.task = some (.read mapping reader handle) ∧
        next.observed = (index, world.contents mapping) :: world.observed := by
  cases action with
  | manage action =>
    obtain ⟨manager, stepped, ⟨-, -, rfl⟩ | ⟨index, locked, recorded, stream, rfl,
      ⟨-, rfl⟩ | ⟨mapping, uid, -, rfl⟩⟩⟩ := manage_cases moved <;> exact .inl rfl
  | write index stream data =>
    obtain ⟨reservation, mapping, -, -, rfl⟩ := write_cases moved
    exact .inl rfl
  | bind reader number outcomes publication stream =>
    rcases bind_cases moved with rfl | ⟨process, bindings, following, mapping, uid, -, -, -, -, -,
      rfl⟩
      <;> exact .inl rfl
  | handle reader action =>
    obtain ⟨process, bindings, following, events, -, -, -, -, -, handled⟩ :=
      handle_cases sound moved
    cases handled <;> exact .inl rfl
  | read reader index =>
    obtain ⟨process, bindings, bound, number, acquisition, -, -, -, -, rfl⟩ := read_cases moved
    exact .inl rfl
  | execute index =>
    obtain ⟨device, executed, result⟩ := Option.map_eq_some_iff.mp moved
    split at result
    · next mapping reader handle read =>
      exact .inr ⟨index, mapping, reader, handle, device, executed, read, result ▸ rfl⟩
    · exact .inl (result ▸ rfl)

/-- What was seen stays seen: its publication is complete, and neither its binding nor its block
changes. -/
theorem Seen.onward (sound : Sound world) (further : Onward world next) {index : Nat}
    {contents : List δ} (seen : Seen world index contents) : Seen next index contents := by
  obtain ⟨mapping, reader, handle, process, number, uid, phase, read, found, bound, acquired,
    rfl⟩ := seen
  obtain ⟨_, _, _, held, -, on, wait, record, served⟩ := sound.served reader process found handle
    number bound
  obtain ⟨rfl, rfl, rfl⟩ := Acquisition.mk.inj (Option.some.inj (acquired.symm.trans held))
  obtain ⟨ready, stored, announces⟩ := served.announces
  obtain ⟨more, commands⟩ := further.commands
  obtain ⟨other, extra, foundToo, bindings⟩ := further.bindings reader process found
  obtain ⟨after, acquiredToo⟩ := further.acquisitions number _ _ _ acquired
  obtain ⟨command, enqueued, does⟩ := Option.map_eq_some_iff.mp read
  refine ⟨mapping, reader, handle, other, number, uid, after, ?_, foundToo, ?_, acquiredToo, ?_⟩
  · rw [commands, List.getElem?_append_left (List.getElem?_eq_some_iff.mp enqueued).1]
    exact read
  · rw [bindings, List.getElem?_append_left (List.getElem?_eq_some_iff.mp bound).1]
    exact bound
  · rw [commands]
    exact (published_append ⟨ready, List.mem_of_getElem? stored, announces⟩ more).symm

/-- The invariant of every run: the publishers' commands are ordered, every handle is served, and
every read saw its publication. -/
structure Faithful (producer : Nat → Nat) (world : World δ) : Prop where
  sound : Sound world
  enqueued : Enqueued producer world.manager world.device.commands
  seen : ∀ index contents, (index, contents) ∈ world.observed → Seen world index contents

/-- A read which is executed sees its publication, as it is served when the device comes to it. -/
theorem Faithful.reads (faithful : Faithful producer world) {index mapping reader handle : Nat}
    {device : Device Stream (Task δ)} (executed : world.device.execute index = some device)
    (read : world.device.commands[index]?.map Command.task = some (.read mapping reader handle)) :
    Seen world index (world.contents mapping) := by
  obtain ⟨executable, -⟩ := execute_eq_some executed
  obtain ⟨command, enqueued, does⟩ := Option.map_eq_some_iff.mp read
  have through : command.task.readsThrough reader handle = true := by
    simp [does, Task.readsThrough]
  obtain ⟨process, found, below⟩ :=
    faithful.sound.named command (List.mem_of_getElem? enqueued) reader handle (.inl through)
  obtain ⟨named, uid, phase, acquired, -, on, wait, record, served⟩ :=
    faithful.sound.served reader process found handle _ (List.getElem?_eq_getElem below)
  obtain ⟨same, -⟩ := served.reads index command enqueued through
  obtain ⟨rfl, -, -⟩ := Task.read.inj (does.symm.trans same)
  refine ⟨mapping, reader, handle, process, _, uid, phase, read, found,
    List.getElem?_eq_getElem below, acquired, ?_⟩
  exact served.contents faithful.sound.ordered faithful.enqueued
    (released_synchronized (faithful.sound.processes _ (List.mem_of_getElem? found))) executable
    enqueued through

/-- Every run which keeps to the contract is faithful. By induction on the run. -/
theorem reachable_faithful (reached : Reachable step (Contract producer) Initial world) :
    Faithful producer world := by
  refine Reachable.invariant (?_ : ∀ start, Initial start → Faithful producer start) ?_ reached
  · rintro start ⟨initial, readers, device, observed⟩
    refine ⟨⟨.start _ initial, ?_, ?_, ?_, ?_, ?_, ?_⟩, ?_, ?_⟩
    · intro reader member
      rw [readers reader member]
      exact .start _ rfl
    · rw [device]
      exact ordered_idle
    · intro reader member
      rw [readers reader member]
      rfl
    · intro first second reader other handle also number found foundToo bound boundToo
      rw [readers reader (List.mem_of_getElem? found)] at bound
      simp at bound
    · simp [device, Device.idle]
    · intro index reader found handle number bound
      rw [readers reader (List.mem_of_getElem? found)] at bound
      simp at bound
    · rw [device]
      exact enqueued_initial initial
    · simp [observed]
  · intro earlier later action _ faithful allowed moved
    have onward := step_onward faithful.sound moved
    refine ⟨sound_step faithful.sound faithful.enqueued allowed moved,
      enqueued_step faithful.sound faithful.enqueued allowed moved, ?_⟩
    intro index contents observed
    rcases observed_cases faithful.sound moved with same |
      ⟨new, mapping, reader, handle, device, executed, read, more⟩
    · rw [same] at observed
      exact (faithful.seen index contents observed).onward faithful.sound onward
    · rw [more] at observed
      rcases List.mem_cons.mp observed with now | before
      · obtain ⟨rfl, rfl⟩ := Prod.mk.inj now
        exact (faithful.reads executed read).onward faithful.sound onward
      · exact (faithful.seen index contents before).onward faithful.sound onward

/-- An executed read saw exactly one publication: the one its handle's BufferRef was
acquired for, which the manager announced. The contents were what was written in front of
its ready record, and that is what was written under its reservation and the earlier ones
of the block, in the order of writing. So it is in every run within the contract, whatever
the publisher writes, publishes, cancels and reuses, whatever the subscriber processes
bind, move, drop and fail to release, and in whatever order the device executes what its
streams allow. Nothing is said of a run in which an acquire makes its second uid check
inside a reservation's window, or in which a stream handle is a special one. -/
theorem observed_published (producer : Nat → Nat) (world : World δ)
    (reached : Reachable step (Contract producer) Initial world) (index : Nat) (contents : List δ)
    (observed : (index, contents) ∈ world.observed) :
    ∃ mapping reader handle process number uid phase,
      world.device.commands[index]?.map Command.task = some (.read mapping reader handle) ∧
      world.readers[reader]? = some process ∧ process.bindings[handle]? = some number ∧
      world.manager.acquisitions[number]? = some ⟨mapping, uid, phase⟩ ∧
      world.manager.Announced mapping uid ∧
      contents = published world.device.commands mapping uid ∧
      contents = written world.device.commands mapping uid := by
  have faithful := reachable_faithful reached
  obtain ⟨mapping, reader, handle, process, number, uid, phase, read, found, bound, acquired,
    same⟩ :=
    faithful.seen index contents observed
  obtain ⟨_, _, _, held, -, on, wait, record, served⟩ :=
    faithful.sound.served reader process found handle number bound
  obtain ⟨rfl, rfl, rfl⟩ := Acquisition.mk.inj (Option.some.inj (acquired.symm.trans held))
  obtain ⟨ready, stored, announces⟩ := served.announces
  refine ⟨mapping, reader, handle, process, number, uid, phase, read, found, bound, acquired, ?_,
    same, same.trans (faithful.enqueued.published_written stored announces)⟩
  exact (GpuBufferManager.reachable_separated faithful.sound.manager).2 _
    (List.mem_of_getElem? acquired)

/-- One manager and one subscriber process, with an idle device. -/
def oneReader : World Nat :=
  ⟨GpuBufferManager.oneBlock, [⟨DeferredRelease.initial, []⟩], Device.idle, []⟩

/-- Nothing has happened in it: the manager is constructed, and the process has no handle. -/
theorem oneReader_initial : Initial oneReader := by
  refine ⟨⟨⟨64, 0⟩, 1, 7, 0, 1, by decide, by decide, rfl⟩, ?_, rfl, rfl⟩
  exact fun reader member => List.mem_singleton.mp member

/-- Write and publish a block, bind a handle to it, read through it and drop it. -/
def publishAndDrop (index uid number data : Nat) : List (Action Nat) :=
  let outcomes : BindOutcomes := ⟨true, true, true, some 6, true, true⟩
  let publication : MappedPublication :=
    ⟨some ⟨4096, 5, some ⟨0⟩, 4096, 9, 4096⟩, some ⟨true, uid⟩, 16, 0⟩
  GpuBufferManager.acquireOnce.map .manage ++ [.write index 3 data] ++
    (GpuBufferManager.publishOnce index).map .manage ++ [.manage (.acquire 0 uid)] ++
    List.replicate 4 (.manage (.advanceAcquisition number false)) ++
    [.bind 0 number outcomes publication 8, .read 0 0, .handle 0 (.destroy 0)]

/-- A block is published and bound, and the device comes to the read. -/
def publishAndRead (index uid number first data : Nat) : List (Action Nat) :=
  publishAndDrop index uid number data ++
    (List.range 4).map (fun offset => .execute (first + offset))

/-- A block is published, read and given back, and published again behind the grace period. -/
def readTwice : List (Action Nat) :=
  GpuBufferManager.initialiseOnce.map .manage ++ publishAndRead 0 5 0 0 10 ++
    List.replicate 4 (.handle 0 (.release 0 true)) ++ [.execute 4] ++
    List.replicate 6 (.handle 0 (.work true)) ++ [.manage (.tick 200000)] ++
    publishAndRead 1 6 1 5 20

/-- The second read sees the second publication, which is what both writes have left. -/
theorem observed_published_twice : ∃ world : World Nat,
    run (guarded step (Contract fun _ => 3)) oneReader readTwice = some world ∧
      world.observed = [(8, [10, 20]), (3, [10])] ∧
      ∃ mapping reader handle process number uid phase,
        world.device.commands[8]?.map Command.task = some (.read mapping reader handle) ∧
        world.readers[reader]? = some process ∧ process.bindings[handle]? = some number ∧
        world.manager.acquisitions[number]? = some ⟨mapping, uid, phase⟩ ∧
        world.manager.Announced mapping uid ∧
        [10, 20] = published world.device.commands mapping uid ∧
        [10, 20] = written world.device.commands mapping uid := by
  have executed :
      (run (guarded step (Contract fun _ => 3)) oneReader readTwice).map World.observed =
      some [(8, [10, 20]), (3, [10])] := by decide +kernel
  obtain ⟨world, taken, same⟩ := Option.map_eq_some_iff.mp executed
  have reached : Reachable step (Contract fun _ => 3) Initial world :=
    reachable_run readTwice oneReader world (.start oneReader oneReader_initial) taken
  exact ⟨world, taken, same, observed_published _ world reached 8 [10, 20] (by simp [same])⟩

end Ros2CudaIpc.ZeroCopy
