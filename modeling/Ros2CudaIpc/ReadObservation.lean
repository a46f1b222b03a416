import Ros2CudaIpc.ReadyRecords
import Ros2CudaIpc.ReleaseEffects
import Ros2CudaIpc.StreamBinding

/-!
# A read sees the publication its handle was bound to

The consumer stream of a handle waits for the latest ready record of the block, which
is the one of the publication the BufferRef was acquired for, and every read of the
handle comes behind that wait. What is written to the block is enqueued in front of the
ready record as long as the BufferRef is held; it is given back only when a completion
record behind all reads has completed.

So when a read is executed, the writes in front of the ready record were executed
and no others. The users keep to one stream for each block, bind resources which carry
a context and a ready event, and the manager's runs are disciplined ones. The handles of
the streams are none of those which denote a stream of whichever context is current.
-/

namespace Ros2CudaIpc.ZeroCopy

open Reachability StreamOrder
open DeferredRelease (Event WithContext)
open GpuBufferManager (Acquisition Disciplined Subscribed)
open StreamBinding (IsSpecial)

universe u
variable {δ : Type u}

/-- The command reads through a handle, which is named by its process and its number there. -/
def Task.readsThrough (reader handle : Nat) : Task δ → Bool
  | .read _ process number => process = reader && number = handle
  | _ => false

/-- A PublishBlock is used on the stream of its block, and that handle denotes no special stream. -/
def World.Streamed (producer : Nat → Nat) (world : World δ) (index stream : Nat) : Prop :=
  ¬ IsSpecial stream ∧ ∀ block ∈ world.manager.publishBlocks[index]?,
    ∀ mapping ∈ block.reservation.mapping, stream = producer mapping

instance (producer : Nat → Nat) (world : World δ) (index stream : Nat) :
    Decidable (world.Streamed producer index stream) :=
  inferInstanceAs (Decidable (_ ∧ ∀ _ ∈ _, ∀ _ ∈ _, _))

/-- The conditions on a run. The users keep to one stream for each block, bind resources with
a context and a ready event, and acquire publications whose descriptors were returned.

Two more exclude what is known to go wrong, and no caller can see to them: no acquire makes
its second uid check between a reservation's claim and its uid store, and no stream handle
is the null, the legacy or the per-thread one, which denote a stream of whichever context
is current. -/
def Contract (producer : Nat → Nat) (world : World δ) : Action δ → Prop
  | .manage (.preparePublish index _ _ stream) | .write index stream _ =>
    world.Streamed producer index stream
  | .manage action => Disciplined world.manager action
  | .bind _ _ _ publication stream => ¬ IsSpecial stream ∧ ∀ resource ∈ publication.resource,
      resource.context.isSome ∧ resource.event ≠ 0
  | .handle _ _ | .read _ _ | .execute _ => True

instance (producer : Nat → Nat) (world : World δ) (action : Action δ) :
    Decidable (Contract producer world action) := by
  unfold Contract
  split <;> infer_instance

/-- What the device has of a handle. Its stream waits for the ready record of a
publication. Its reads come behind that wait, on its stream and before any record of its
completion event, and they are executed once a wait for that event has ended. What
writes the block was enqueued before the ready record, until the BufferRef is given
back. -/
structure Served (device : Device Stream (Task δ)) (log : List Event)
    (reader handle mapping uid : Nat) (stream : CUstream) (wait record : Nat) : Prop where
  bound : ∃ event, .bound handle event stream ∈ log
  waits : device.commands[wait]? = some ⟨.reader reader stream, some record, .wait⟩
  behind : record < wait
  announces : ∃ command, device.commands[record]? = some command ∧
    command.task.announces mapping uid = true
  reads : ∀ (index : Nat) command, device.commands[index]? = some command →
    command.task.readsThrough reader handle = true →
      command.task = .read mapping reader handle ∧ command.stream = .reader reader stream ∧
        wait < index
  completions : ∀ (index : Nat) command, device.commands[index]? = some command →
    command.task.completes reader handle = true → command.stream = .reader reader stream ∧
      (∃ event other, .recorded handle event other ∈ log) ∧
      ∀ (earlier : Nat) other, device.commands[earlier]? = some other →
        other.task.readsThrough reader handle = true → earlier < index
  synchronized : (∃ event, .synchronized handle event ∈ log) → ∀ (index : Nat) command,
    device.commands[index]? = some command → command.task.readsThrough reader handle = true →
      index ∈ device.executed
  writes : ∀ (index : Nat) command, device.commands[index]? = some command →
    (command.task.writesTo mapping).isSome → index < record ∨ .bufferRefReleased handle ∈ log

section Handle

variable {device : Device Stream (Task δ)} {log later : List Event}
  {reader handle mapping uid wait record : Nat} {stream : CUstream}

/-- A command of a longer queue is one of the earlier ones, or the one which was enqueued last. -/
theorem enqueued_cases {commands : List (Command Stream (Task δ))}
    {command other : Command Stream (Task δ)} {index : Nat}
    (found : (commands ++ [command])[index]? = some other) :
    commands[index]? = some other ∨ index = commands.length ∧ other = command := by
  rcases Nat.lt_or_ge index commands.length with inside | beyond
  · rw [List.getElem?_append_left inside] at found
    exact .inl found
  · obtain ⟨within, -⟩ := List.getElem?_eq_some_iff.mp found
    have last : index = commands.length := by
      simp only [List.length_append, List.length_singleton] at within
      omega
    subst last
    rw [List.getElem?_concat_length] at found
    exact .inr ⟨rfl, (Option.some.inj found).symm⟩

/-- More is logged, and a wait for the completion event which has ended has seen all
reads executed. -/
theorem Served.logged (served : Served device log reader handle mapping uid stream wait record)
    (onward : ∀ event ∈ log, event ∈ later)
    (synchronized : (∃ event, .synchronized handle event ∈ later) → ∀ (index : Nat) command,
      device.commands[index]? = some command → command.task.readsThrough reader handle = true →
        index ∈ device.executed) :
    Served device later reader handle mapping uid stream wait record where
  bound := served.bound.imp fun _ => onward _
  waits := served.waits
  behind := served.behind
  announces := served.announces
  reads := served.reads
  completions index command found completes := by
    obtain ⟨same, ⟨event, other, recorded⟩, first⟩ :=
      served.completions index command found completes
    exact ⟨same, ⟨event, other, onward _ recorded⟩, first⟩
  synchronized := synchronized
  writes index command found writes :=
    (served.writes index command found writes).imp_right (onward _)

/-- A further command: a read while no completion is recorded, a completion which is,
or a write once the BufferRef is given back. -/
theorem Served.enqueue (served : Served device log reader handle mapping uid stream wait record)
    {command : Command Stream (Task δ)}
    (reads : command.task.readsThrough reader handle = true →
      (command.task = .read mapping reader handle ∧ command.stream = .reader reader stream) ∧
        (∀ event other, .recorded handle event other ∉ log) ∧
          ∀ event, .synchronized handle event ∉ log)
    (completes : command.task.completes reader handle = true →
      command.stream = .reader reader stream ∧ ∃ event other, .recorded handle event other ∈ log)
    (writes : (command.task.writesTo mapping).isSome → .bufferRefReleased handle ∈ log) :
    Served (device.enqueue command) log reader handle mapping uid stream wait record := by
  have inside : wait < device.commands.length := (List.getElem?_eq_some_iff.mp served.waits).1
  have kept {index : Nat} {other : Command Stream (Task δ)}
      (found : device.commands[index]? = some other) :
      (device.enqueue command).commands[index]? = some other := by
    rw [Device.enqueue_commands, List.getElem?_append_left (List.getElem?_eq_some_iff.mp found).1]
    exact found
  obtain ⟨ready, stored, announces⟩ := served.announces
  refine ⟨served.bound, kept served.waits, served.behind, ⟨ready, kept stored, announces⟩,
    ?_, ?_, ?_, ?_⟩
  · intro index other found through
    rcases enqueued_cases found with before | ⟨rfl, rfl⟩
    · exact served.reads index other before through
    · obtain ⟨same, on⟩ := (reads through).1
      exact ⟨same, on, inside⟩
  · intro index other found does
    rcases enqueued_cases found with before | ⟨rfl, rfl⟩
    · obtain ⟨same, ⟨event, named, recorded⟩, first⟩ := served.completions index other before does
      refine ⟨same, ⟨event, named, recorded⟩, fun earlier read foundToo through => ?_⟩
      rcases enqueued_cases foundToo with old | ⟨-, rfl⟩
      · exact first earlier read old through
      · exact absurd recorded ((reads through).2.1 event named)
    · obtain ⟨same, recorded⟩ := completes does
      refine ⟨same, recorded, fun earlier read foundToo through => ?_⟩
      rcases enqueued_cases foundToo with old | ⟨-, rfl⟩
      · exact (List.getElem?_eq_some_iff.mp old).1
      · obtain ⟨event, named, held⟩ := recorded
        exact absurd held ((reads through).2.1 event named)
  · rintro ⟨event, ended⟩ index other found through
    rcases enqueued_cases found with before | ⟨-, rfl⟩
    · exact served.synchronized ⟨event, ended⟩ index other before through
    · exact absurd ended ((reads through).2.2 event)
  · intro index other found does
    rcases enqueued_cases found with before | ⟨-, rfl⟩
    · exact served.writes index other before does
    · exact .inr (writes does)

/-- A handle stays served when more is executed. What is executed is never taken back. -/
theorem Served.execute (served : Served device log reader handle mapping uid stream wait record)
    (index : Nat) : Served { device with executed := index :: device.executed } log reader handle
      mapping uid stream wait record :=
  { served with
    synchronized := fun ended other command found through =>
      List.mem_cons_of_mem _ (served.synchronized ended other command found through) }

/-- A completed completion event has seen all reads of its handle executed, since they were
enqueued on its stream before it. -/
theorem Served.complete (served : Served device log reader handle mapping uid stream wait record)
    (ordered : device.Ordered) {index : Nat} {command : Command Stream (Task δ)}
    (found : device.commands[index]? = some command)
    (completes : command.task.completes reader handle = true) (executed : index ∈ device.executed)
    (earlier : Nat) (other : Command Stream (Task δ))
    (enqueued : device.commands[earlier]? = some other)
    (through : other.task.readsThrough reader handle = true) : earlier ∈ device.executed := by
  obtain ⟨on, -, first⟩ := served.completions index command found completes
  obtain ⟨-, same, -⟩ := served.reads earlier other enqueued through
  exact ordered.closed index executed earlier
    (.stream earlier index other command (first earlier other enqueued through) enqueued found
      (same.trans on.symm))

/-- What an executable read finds: the writes in front of the ready record were executed, and no
others of the block.

Proof: a write behind the record presumes that the BufferRef was given back. -/
theorem Served.contents {producer : Nat → Nat} {manager : GpuBufferManager.State}
    (served : Served device log reader handle mapping uid stream wait record)
    (ordered : device.Ordered) (enqueued : Enqueued producer manager device.commands)
    (released : .bufferRefReleased handle ∈ log → ∃ event, .synchronized handle event ∈ log)
    {index : Nat} {command : Command Stream (Task δ)} (executable : device.Executable index)
    (found : device.commands[index]? = some command)
    (through : command.task.readsThrough reader handle = true) :
    (device.executed.reverse.filterMap fun other =>
        device.commands[other]?.bind fun command => command.task.writesTo mapping) =
      published device.commands mapping uid := by
  obtain ⟨ready, stored, announces⟩ := served.announces
  obtain ⟨-, on, after⟩ := served.reads index command found through
  have ordering : Before device.commands record index :=
    .trans record wait index (.awaited record wait _ served.behind served.waits rfl)
      (.stream wait index _ command after served.waits found on.symm)
  obtain ⟨underReady, -⟩ := (Task.announces_iff ..).mp announces
  have streamOf {other : Command Stream (Task δ)} (member : other ∈ device.commands)
      (writes : (other.task.writesTo mapping).isSome) :
      other.stream = .publisher (producer mapping) := by
    obtain ⟨written, under, -⟩ := other.task.writesTo_isSome mapping writes
    exact enqueued.streams other member mapping written under
  rw [enqueued.published_take stored announces]
  refine ordered.selected (fun command => command.task.writesTo mapping) record ?_ ?_
  · intro first member second memberToo writes writesToo
    rw [streamOf member writes, streamOf memberToo writesToo]
  · intro other written held writes
    constructor
    · intro done
      refine (served.writes other written held writes).resolve_right fun given => ?_
      exact executable.1 (served.synchronized (released given) index command found through)
    · intro below
      refine executable.ready ordered (.trans other record index ?_ ordering)
      refine .stream other record written ready below held stored ?_
      rw [streamOf (List.mem_of_getElem? held) writes,
        enqueued.streams ready (List.mem_of_getElem? stored) mapping uid underReady]

end Handle

/-- The invariant of the system. The manager and each process are in states of their own
runs, the device keeps its order, each acquire is bound once, and the reads and
completion records name bound handles. Each handle has its BufferRef, until it gave it
back, and is served by the device. -/
structure Sound (world : World δ) : Prop where
  manager : Reachable GpuBufferManager.step Disciplined GpuBufferManager.Initial world.manager
  processes : ∀ reader ∈ world.readers,
    Reachable DeferredRelease.step WithContext (· = DeferredRelease.initial) reader.process
  ordered : world.device.Ordered
  numbered : ∀ reader ∈ world.readers, reader.bindings.length = reader.process.created
  apart : ∀ (first second : Nat) reader other (handle also number : Nat),
    world.readers[first]? = some reader → world.readers[second]? = some other →
      reader.bindings[handle]? = some number → other.bindings[also]? = some number →
        first = second ∧ handle = also
  named : ∀ command ∈ world.device.commands, ∀ reader handle,
    command.task.readsThrough reader handle = true ∨ command.task.completes reader handle = true →
      ∃ process, world.readers[reader]? = some process ∧ handle < process.bindings.length
  served : ∀ (index : Nat) reader, world.readers[index]? = some reader →
    ∀ (handle number : Nat), reader.bindings[handle]? = some number →
      ∃ mapping uid phase, world.manager.acquisitions[number]? = some ⟨mapping, uid, phase⟩ ∧
        (phase = .holding ∨ .bufferRefReleased handle ∈ reader.process.log) ∧
        ∃ stream wait record,
          Served world.device reader.process.log index handle mapping uid stream wait record

variable {producer : Nat → Nat} {world next : World δ}

/-- A given back BufferRef was waited for: the worker has synchronised with the completion event
of its handle. -/
theorem released_synchronized {process : DeferredRelease.State}
    (reached : Reachable DeferredRelease.step WithContext (· = DeferredRelease.initial) process)
    {handle : Nat} (released : .bufferRefReleased handle ∈ process.log) :
    ∃ event, .synchronized handle event ∈ process.log := by
  have safe := (DeferredRelease.reachable_consistent reached).safe
  obtain ⟨event, stream, inside⟩ := safe.bufferRefAfterCompletion handle released
  exact ⟨event, inside.subset (by simp)⟩

/-- A further command which concerns no handle leaves every handle served, given what it owes
those it may concern. -/
theorem Sound.enqueue (sound : Sound world) (stream : Stream) (awaits : Option Nat) (task : Task δ)
    (named : ∀ reader handle,
      task.readsThrough reader handle = true ∨ task.completes reader handle = true →
        ∃ process, world.readers[reader]? = some process ∧ handle < process.bindings.length)
    (served : ∀ (index : Nat) reader, world.readers[index]? = some reader →
      ∀ (handle number mapping uid : Nat) (phase : GpuBufferManager.Phase),
        reader.bindings[handle]? = some number →
          world.manager.acquisitions[number]? = some ⟨mapping, uid, phase⟩ →
            (phase = .holding ∨ .bufferRefReleased handle ∈ reader.process.log) →
              ∀ on wait record, Served world.device reader.process.log index handle mapping uid on
                  wait record →
                Served (world.device.enqueue ⟨stream, awaits, task⟩) reader.process.log index handle
                  mapping uid on wait record) :
    Sound (world.enqueue stream awaits task) where
  manager := sound.manager
  processes := sound.processes
  ordered := sound.ordered.enqueue _
  numbered := sound.numbered
  apart := sound.apart
  named command member reader handle does := by
    rcases List.mem_append.mp member with before | new
    · exact sound.named command before reader handle does
    · rw [List.mem_singleton.mp new] at does
      exact named reader handle does
  served index reader found handle number bound := by
    obtain ⟨mapping, uid, phase, acquired, holds, on, wait, record, before⟩ :=
      sound.served index reader found handle number bound
    exact ⟨mapping, uid, phase, acquired, holds, on, wait, record,
      served index reader found handle number mapping uid phase bound acquired holds on wait record
        before⟩

/-- A ready record, or another command which neither reads, completes nor writes, leaves every
handle served. -/
theorem Sound.mark (sound : Sound world) (stream : Stream) (awaits : Option Nat) (task : Task δ)
    (beside : ∀ reader handle, task.readsThrough reader handle = false ∧
      task.completes reader handle = false) (writes : ∀ mapping, task.writesTo mapping = none) :
    Sound (world.enqueue stream awaits task) := by
  refine sound.enqueue stream awaits task ?_ ?_
  · intro reader handle does
    simp [beside reader handle] at does
  · intro index reader found handle number mapping uid phase bound acquired holds on wait record
      served
    refine served.enqueue ?_ ?_ ?_
    · intro through
      simp [beside index handle] at through
    · intro completes
      simp [beside index handle] at completes
    · intro writing
      simp [writes mapping] at writing

/-- A step of the manager which gives no bound BufferRef back, except one whose handle
logged it. -/
theorem Sound.manage (sound : Sound world) {action : GpuBufferManager.Action}
    {manager : GpuBufferManager.State} (allowed : Disciplined world.manager action)
    (moved : GpuBufferManager.step world.manager action = some manager)
    (released : ∀ number, action = .release number → ∀ (index : Nat) reader,
      world.readers[index]? = some reader → ∀ handle : Nat, reader.bindings[handle]? = some number →
        .bufferRefReleased handle ∈ reader.process.log) :
    Sound { world with manager := manager } := by
  refine ⟨.step world.manager manager action sound.manager allowed moved, sound.processes,
    sound.ordered, sound.numbered, sound.apart, sound.named, ?_⟩
  intro index reader found handle number bound
  obtain ⟨mapping, uid, phase, acquired, holds, served⟩ :=
    sound.served index reader found handle number bound
  have subscribed := GpuBufferManager.step_subscribed moved
  generalize manager.acquisitions = acquisitions at subscribed
  have inside := (List.getElem?_eq_some_iff.mp acquired).1
  cases subscribed with
  | kept => exact ⟨mapping, uid, phase, acquired, holds, served⟩
  | acquired other named =>
    refine ⟨mapping, uid, phase, ?_, holds, served⟩
    rw [List.getElem?_append_left inside]
    exact acquired
  | advanced other spurious named mark before after held unheld =>
    by_cases same : other = number
    · subst same
      obtain ⟨rfl, rfl, rfl⟩ := Acquisition.mk.inj (Option.some.inj (held.symm.trans acquired))
      refine ⟨named, mark, after, List.getElem?_set_self inside, .inr ?_, served⟩
      exact holds.resolve_left unheld
    · refine ⟨mapping, uid, phase, ?_, holds, served⟩
      rw [List.getElem?_set_ne same]
      exact acquired
  | released other named mark after held unheld =>
    by_cases same : other = number
    · subst same
      obtain ⟨rfl, rfl, rfl⟩ := Acquisition.mk.inj (Option.some.inj (held.symm.trans acquired))
      exact ⟨named, mark, after, List.getElem?_set_self inside,
        .inr (released other rfl index reader found handle bound), served⟩
    · refine ⟨mapping, uid, phase, ?_, holds, served⟩
      rw [List.getElem?_set_ne same]
      exact acquired

/-- A process of the next state is one of before, or the replaced one. -/
theorem reader_replaced {reader index : Nat} {replaced other : Reader}
    (inside : reader < world.readers.length)
    (stored : (world.readers.set reader replaced)[index]? = some other) :
    world.readers[index]? = some other ∨ index = reader ∧ other = replaced := by
  by_cases same : reader = index
  · subst same
    rw [List.getElem?_set_self inside] at stored
    exact .inr ⟨rfl, (Option.some.inj stored).symm⟩
  · rw [List.getElem?_set_ne same] at stored
    exact .inl stored

/-- A step of a process which binds nothing and ends no wait before the completion.

Proof: every process of the next state is one of before with the same bindings. -/
theorem Sound.handle (sound : Sound world) {reader : Nat}
    {process following : DeferredRelease.State}
    {bindings : List Nat} {action : DeferredRelease.Action} {events : List Event}
    (found : world.readers[reader]? = some ⟨process, bindings⟩)
    (moved : DeferredRelease.step process action = some following)
    (unbinding : ∀ outcomes publication stream, action ≠ .makeBound outcomes publication stream)
    (created : following.created = process.created) (logged : following.log = events ++ process.log)
    (synchronized : ∀ handle event, .synchronized handle event ∈ events →
      world.completed reader handle = true) :
    Sound { world with readers := world.readers.set reader ⟨following, bindings⟩ } := by
  have inside := (List.getElem?_eq_some_iff.mp found).1
  have same {index : Nat} {other : Reader}
      (stored : (world.readers.set reader ⟨following, bindings⟩)[index]? = some other) :
      ∃ before, world.readers[index]? = some before ∧ before.bindings = other.bindings := by
    rcases reader_replaced inside stored with before | ⟨rfl, rfl⟩
    · exact ⟨other, before, rfl⟩
    · exact ⟨_, found, rfl⟩
  refine ⟨sound.manager, ?_, sound.ordered, ?_, ?_, ?_, ?_⟩
  · intro other member
    rcases List.mem_or_eq_of_mem_set member with before | rfl
    · exact sound.processes other before
    · have allowed : WithContext process action := by
        cases action with
        | makeBound outcomes publication stream =>
          exact absurd rfl (unbinding outcomes publication stream)
        | _ => trivial
      exact .step process following action
        (sound.processes _ (List.mem_of_getElem? found)) allowed moved
  · intro other member
    rcases List.mem_or_eq_of_mem_set member with before | rfl
    · exact sound.numbered other before
    · exact (sound.numbered _ (List.mem_of_getElem? found)).trans created.symm
  · intro first second former latter handle also number stored storedToo bound boundToo
    obtain ⟨before, held, keeps⟩ := same stored
    obtain ⟨beforeToo, heldToo, keepsToo⟩ := same storedToo
    rw [← keeps] at bound
    rw [← keepsToo] at boundToo
    exact sound.apart first second before beforeToo handle also number held heldToo bound boundToo
  · intro command member owner handle does
    obtain ⟨other, stored, below⟩ := sound.named command member owner handle does
    by_cases own : reader = owner
    · subst own
      obtain rfl := Option.some.inj (found.symm.trans stored)
      exact ⟨⟨following, bindings⟩, List.getElem?_set_self inside, below⟩
    · exact ⟨other, (List.getElem?_set_ne own).trans stored, below⟩
  · intro index other stored handle number bound
    rcases reader_replaced inside stored with before | ⟨rfl, rfl⟩
    · exact sound.served index other before handle number bound
    · obtain ⟨mapping, uid, phase, acquired, holds, on, wait, record, served⟩ :=
        sound.served index ⟨process, bindings⟩ found handle number bound
      have onward : ∀ event ∈ process.log, event ∈ following.log := by
        intro event member
        rw [logged]
        exact List.mem_append_right _ member
      refine ⟨mapping, uid, phase, acquired, holds.imp_right (onward _), on, wait, record,
        served.logged onward ?_⟩
      rintro ⟨event, ended⟩ position command enqueued through
      rw [logged] at ended
      rcases List.mem_append.mp ended with new | old
      · obtain ⟨completion, executed, does⟩ := List.any_eq_true.mp (synchronized handle event new)
        obtain ⟨record, storedRecord, completes⟩ := (Option.any_eq_true ..).mp does
        exact served.complete sound.ordered storedRecord completes executed position command
          enqueued through
      · exact served.synchronized ⟨event, old⟩ position command enqueued through

/-- The number of an acquire in a handle's bindings is found by the system as bound. -/
theorem World.bound_of {index handle number : Nat} {reader : Reader}
    (found : world.readers[index]? = some reader) (bound : reader.bindings[handle]? = some number) :
    world.Bound number :=
  ⟨reader, List.mem_of_getElem? found, List.mem_of_getElem? bound⟩

/-- A binding of the next state is one of before, or the appended one. -/
theorem binding_appended {reader number index handle named : Nat} {other : Reader}
    {process following : DeferredRelease.State} {bindings : List Nat}
    (found : world.readers[reader]? = some ⟨process, bindings⟩)
    (stored : (world.readers.set reader ⟨following, bindings ++ [number]⟩)[index]? = some other)
    (bound : other.bindings[handle]? = some named) :
    (∃ before, world.readers[index]? = some before ∧ before.bindings[handle]? = some named) ∨
      index = reader ∧ handle = bindings.length ∧ named = number := by
  rcases reader_replaced (List.getElem?_eq_some_iff.mp found).1 stored with before | ⟨rfl, rfl⟩
  · exact .inl ⟨other, before, bound⟩
  · rcases Nat.lt_or_ge handle bindings.length with below | beyond
    · rw [List.getElem?_append_left below] at bound
      exact .inl ⟨_, found, bound⟩
    · have within := (List.getElem?_eq_some_iff.mp bound).1
      obtain rfl : handle = bindings.length := by
        simp only [List.length_append, List.length_singleton] at within
        omega
      rw [List.getElem?_concat_length] at bound
      exact .inr ⟨rfl, rfl, (Option.some.inj bound).symm⟩

/-- A new handle, behind whose wait nothing was enqueued for it. -/
theorem Sound.bind (sound : Sound world) {reader number mapping uid wait record : Nat}
    {process following : DeferredRelease.State} {bindings : List Nat} {stream : CUstream}
    {outcomes : BindOutcomes} {publication : MappedPublication}
    (found : world.readers[reader]? = some ⟨process, bindings⟩)
    (acquired : world.manager.acquisitions[number]? = some ⟨mapping, uid, .holding⟩)
    (unbound : ¬ world.Bound number)
    (context : WithContext process (.makeBound outcomes publication stream))
    (moved : DeferredRelease.step process (.makeBound outcomes publication stream) = some following)
    (fresh : following.created ≠ process.created)
    (waits : world.device.commands[wait]? = some ⟨.reader reader stream, some record, .wait⟩)
    (behind : record < wait)
    (announces : ∃ command, world.device.commands[record]? = some command ∧
      command.task.announces mapping uid = true)
    (writes : ∀ (index : Nat) command, world.device.commands[index]? = some command →
      (command.task.writesTo mapping).isSome → index < record) :
    Sound { world with readers := world.readers.set reader ⟨following, bindings ++ [number]⟩ } := by
  have inside := (List.getElem?_eq_some_iff.mp found).1
  have counted : bindings.length = process.created :=
    sound.numbered _ (List.mem_of_getElem? found)
  obtain rfl | ⟨event, created, logged⟩ : following = process ∨ ∃ event,
      following.created = process.created + 1 ∧
        following.log = .bound process.created event stream :: process.log := by
    refine (DeferredRelease.makeBound_effect moved).imp_right ?_
    rintro ⟨-, -, event, -, -, rfl⟩
    exact ⟨event, rfl, rfl⟩
  · exact absurd rfl fresh
  have onward : ∀ other ∈ process.log, other ∈ following.log := by
    intro other member
    rw [logged]
    exact List.mem_cons_of_mem _ member
  have unnamed {command : Command Stream (Task δ)} (member : command ∈ world.device.commands)
      (does : command.task.readsThrough reader bindings.length = true ∨
        command.task.completes reader bindings.length = true) : False := by
    obtain ⟨other, stored, below⟩ := sound.named command member reader bindings.length does
    obtain rfl := Option.some.inj (found.symm.trans stored)
    exact Nat.lt_irrefl _ below
  refine ⟨sound.manager, ?_, sound.ordered, ?_, ?_, ?_, ?_⟩
  · intro other member
    rcases List.mem_or_eq_of_mem_set member with before | rfl
    · exact sound.processes other before
    · exact .step process following _ (sound.processes _ (List.mem_of_getElem? found)) context moved
  · intro other member
    rcases List.mem_or_eq_of_mem_set member with before | rfl
    · exact sound.numbered other before
    · simp [counted, created]
  · intro first second former latter handle also named stored storedToo bound boundToo
    rcases binding_appended found stored bound with ⟨before, held, owns⟩ | ⟨rfl, rfl, rfl⟩
    · rcases binding_appended found storedToo boundToo with
        ⟨beforeToo, heldToo, ownsToo⟩ | ⟨rfl, rfl, rfl⟩
      · exact sound.apart first second before beforeToo handle also named held heldToo owns ownsToo
      · exact absurd (World.bound_of held owns) unbound
    · rcases binding_appended found storedToo boundToo with
        ⟨beforeToo, heldToo, ownsToo⟩ | ⟨rfl, rfl, -⟩
      · exact absurd (World.bound_of heldToo ownsToo) unbound
      · exact ⟨rfl, rfl⟩
  · intro command member owner handle does
    obtain ⟨other, stored, below⟩ := sound.named command member owner handle does
    by_cases own : reader = owner
    · subst own
      obtain rfl := Option.some.inj (found.symm.trans stored)
      refine ⟨_, List.getElem?_set_self inside, ?_⟩
      simp only [List.length_append]
      exact Nat.lt_add_right _ below
    · exact ⟨other, (List.getElem?_set_ne own).trans stored, below⟩
  · intro index other stored handle named bound
    rcases reader_replaced inside stored with before | ⟨rfl, rfl⟩
    · exact sound.served index other before handle named bound
    · rcases Nat.lt_or_ge handle bindings.length with below | beyond
      · rw [List.getElem?_append_left below] at bound
        obtain ⟨block, mark, phase, held, holds, on, wait, record, served⟩ :=
          sound.served index ⟨process, bindings⟩ found handle named bound
        refine ⟨block, mark, phase, held, holds.imp_right (onward _), on, wait, record,
          served.logged onward ?_⟩
        rintro ⟨other, ended⟩
        refine served.synchronized ⟨other, ?_⟩
        simpa [logged] using ended
      · rcases binding_appended found stored bound with ⟨before, held, owns⟩ | ⟨-, rfl, rfl⟩
        · obtain rfl := Option.some.inj (found.symm.trans held)
          exact absurd (List.getElem?_eq_some_iff.mp owns).1 (Nat.not_lt.mpr beyond)
        · refine ⟨mapping, uid, .holding, acquired, .inl rfl, stream, wait, record, ?_⟩
          refine ⟨⟨event, by simp [logged, counted]⟩, waits, behind, announces, ?_, ?_, ?_, ?_⟩
          · intro position command enqueued through
            exact (unnamed (List.mem_of_getElem? enqueued) (.inl through)).elim
          · intro position command enqueued completes
            exact (unnamed (List.mem_of_getElem? enqueued) (.inr completes)).elim
          · intro _ position command enqueued through
            exact (unnamed (List.mem_of_getElem? enqueued) (.inl through)).elim
          · exact fun position command enqueued does => .inl (writes position command enqueued does)

/-- A write through a PublishBlock which can write: its block is held by no handle. -/
theorem Sound.write (sound : Sound world) {reservation : BlockReservation} {mapping stream : Nat}
    {data : δ} (member : ⟨reservation, .idle true⟩ ∈ world.manager.publishBlocks)
    (mapped : reservation.mapping = some mapping) :
    Sound (world.enqueue (.publisher stream) none (.write mapping reservation.uid data)) := by
  refine sound.enqueue _ _ _ (by simp [Task.readsThrough, Task.completes]) ?_
  intro index reader found handle number other uid phase bound acquired holds on wait record served
  refine served.enqueue (by simp [Task.readsThrough]) (by simp [Task.completes]) fun writes => ?_
  obtain rfl : mapping = other := by
    by_contra apart
    simp [Task.writesTo, apart] at writes
  refine holds.resolve_left fun holding => ?_
  subst holding
  exact GpuBufferManager.writer_unheld sound.manager (List.mem_of_getElem? acquired) member mapped

/-- The history of a handle has what is logged about it. -/
theorem mem_history {process : DeferredRelease.State} {event : Event}
    (member : event ∈ process.log) :
    event ∈ process.history event.handle :=
  (DeferredRelease.mem_trace_iff event process.log).mpr member

/-- A read through a living handle: no completion of it was recorded, so the read still comes
before the completion record. -/
theorem Sound.read (sound : Sound world) {reader : Nat} {process : DeferredRelease.State}
    {bindings : List Nat} {bound : DeferredRelease.Bound} {number : Nat} {acquisition : Acquisition}
    (found : world.readers[reader]? = some ⟨process, bindings⟩)
    (alive : some bound ∈ process.handles) (binding : bindings[bound.number]? = some number)
    (acquired : world.manager.acquisitions[number]? = some acquisition) :
    Sound (world.enqueue (.reader reader bound.impl.consumerStream) none
      (.read acquisition.mapping reader bound.number)) := by
  have consistent := DeferredRelease.reachable_consistent
    (sound.processes _ (List.mem_of_getElem? found))
  obtain ⟨event, history, -, -⟩ := consistent.alive alive
  have only {other : Event} (member : other ∈ process.log) (about : other.handle = bound.number) :
      other = .bound bound.number event bound.impl.consumerStream := by
    have inside := mem_history member
    rw [about, history] at inside
    exact List.mem_singleton.mp inside
  refine sound.enqueue _ _ _ ?_ ?_
  · intro owner handle does
    obtain ⟨rfl, rfl⟩ : reader = owner ∧ bound.number = handle := by
      simpa [Task.readsThrough, Task.completes] using does
    exact ⟨_, found, (List.getElem?_eq_some_iff.mp binding).1⟩
  · intro index other stored handle named mapping uid phase bindingToo acquiredToo _ on wait record
      served
    refine served.enqueue (fun through => ?_) (by simp [Task.completes]) (by simp [Task.writesTo])
    obtain ⟨rfl, rfl⟩ : reader = index ∧ bound.number = handle := by
      simpa [Task.readsThrough] using through
    obtain rfl := Option.some.inj (found.symm.trans stored)
    obtain rfl := Option.some.inj (binding.symm.trans bindingToo)
    obtain rfl := Option.some.inj (acquired.symm.trans acquiredToo)
    obtain ⟨other, logged⟩ := served.bound
    obtain ⟨-, -, rfl⟩ := Event.bound.inj (only logged rfl)
    refine ⟨⟨rfl, rfl⟩, fun other on recorded => ?_, fun other ended => ?_⟩
    · exact absurd (only recorded rfl) (by simp)
    · exact absurd (only ended rfl) (by simp)

/-- The completion record of a dropped handle comes behind all its reads, as it is recorded on
their stream. -/
theorem Sound.complete (sound : Sound world) {reader handle event : Nat} {stream : CUstream}
    {process : DeferredRelease.State} {bindings : List Nat}
    (found : world.readers[reader]? = some ⟨process, bindings⟩)
    (recorded : .recorded handle event stream ∈ process.log)
    (sole : ∀ other on, .bound handle other on ∈ process.log → on = stream)
    (below : handle < bindings.length) :
    Sound (world.enqueue (.reader reader stream) none (.completion reader handle)) := by
  refine sound.enqueue _ _ _ ?_ ?_
  · intro owner number does
    obtain ⟨rfl, rfl⟩ : reader = owner ∧ handle = number := by
      simpa [Task.readsThrough, Task.completes] using does
    exact ⟨_, found, below⟩
  · intro index other stored number named mapping uid phase binding acquired _ on wait record served
    refine served.enqueue (by simp [Task.readsThrough]) (fun completes => ?_)
      (by simp [Task.writesTo])
    obtain ⟨rfl, rfl⟩ : reader = index ∧ handle = number := by
      simpa [Task.completes] using completes
    obtain rfl := Option.some.inj (found.symm.trans stored)
    obtain ⟨made, logged⟩ := served.bound
    obtain rfl := sole made on logged
    exact ⟨rfl, event, on, recorded⟩

/-- The device executes a command. Every handle stays served, and its log is the same. -/
theorem Sound.execute (sound : Sound world) {index : Nat} {device : Device Stream (Task δ)}
    (executed : world.device.execute index = some device) (observed : List (Nat × List δ)) :
    Sound { world with device := device, observed := observed } := by
  have ordered := sound.ordered.execute executed
  obtain ⟨-, rfl⟩ := execute_eq_some executed
  refine ⟨sound.manager, sound.processes, ordered, sound.numbered, sound.apart, sound.named, ?_⟩
  intro owner reader found handle number bound
  obtain ⟨mapping, uid, phase, acquired, holds, on, wait, record, served⟩ :=
    sound.served owner reader found handle number bound
  exact ⟨mapping, uid, phase, acquired, holds, on, wait, record, served.execute index⟩

end Ros2CudaIpc.ZeroCopy
