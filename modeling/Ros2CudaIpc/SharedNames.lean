import Ros2CudaIpc.BufferRef
import Ros2CudaIpc.Emplacement
import Ros2CudaIpc.MetadataNames

/-!
# The metadata names of a host

The publisher processes of a host share one directory of shared memory names. They
create, replace and remove names by system calls, and between two system calls of one
thread others act, processes start and die, and the numbers of dead processes are used
again. A step is one system call; which of its calls a process makes when is left open,
so that every order of `initialise`, `reset` and destructors in any number of managers
and threads is among the runs.

A name is written in the classic locale. An object is known by its number; who created
it is kept beside it, and which objects kept their names because removing one failed. No
call reads either.
-/

namespace Ros2CudaIpc.SharedNames

open Emplacement MetadataNames

/-- The positions of a thread between two system calls, with what it has found out and still
needs. -/
inductive Call where
  /-- In `cleanup_orphaned_metadata_objects`, between two directory entries. -/
  | cleaning
  /-- Behind a `kill` which knew no such process. -/
  | removing (name : List Char)
  /-- Before the exclusive `shm_open` in `create`, which may be the second one. -/
  | opening (again : Bool) (blockId : UInt32)
  /-- Behind it, before the object is sized and mapped. -/
  | opened (blockId : UInt32) (object : Nat)
  /-- Before the `shm_unlink` in a `create` which failed behind its `shm_open`. -/
  | discarding (blockId : UInt32) (object : Nat)
  /-- Before the `shm_unlink` of a stale name. -/
  | replacing (blockId : UInt32)
  /-- Before the `shm_unlink` of a block in `destroy_blocks`. -/
  | unlinking (blockId : UInt32) (object : Nat)
deriving DecidableEq, Repr

/-- The block a call is about, if it is about one of its own process. -/
def Call.blockId : Call → Option UInt32
  | .cleaning | .removing _ => none
  | .opening _ blockId | .opened blockId _ | .discarding blockId _ | .replacing blockId
  | .unlinking blockId _ => some blockId

/-- The object a call has named, which is the process's until the call ends. -/
def Call.holding : Call → Option (UInt32 × Nat)
  | .opened blockId object | .discarding blockId object | .unlinking blockId object =>
    some (blockId, object)
  | _ => none

/-- The name a cleanup is about to remove, behind a `kill` which knew no such process. -/
def Call.removal : Call → Option (List Char)
  | .removing name => some name
  | _ => none

/-- A publisher process: its number, which of all processes it is, the counter of its block
ids, what its threads do and its blocks with their objects. -/
structure Process where
  pid : UInt32
  incarnation : Nat
  nextBlockId : Nat
  calls : List Call
  blocks : List (UInt32 × Nat)
deriving DecidableEq, Repr

namespace Process

/-- `cleanup_orphaned_metadata_objects` begins, in one more thread of the process. -/
def clean (process : Process) : Process := { process with calls := process.calls ++ [.cleaning] }

/-- `allocate_process_block_id` hands out a number, and `create` begins with it. -/
def allocate (process : Process) : Process :=
  { process with
    nextBlockId := process.nextBlockId + 1
    calls := process.calls ++ [.opening false (UInt32.ofNat process.nextBlockId)] }

/-- `destroy_blocks` reaches a block, whose name it is about to unlink. -/
def destroy (process : Process) (block : Nat) (owned : UInt32 × Nat) : Process :=
  { process with
    calls := process.calls ++ [.unlinking owned.1 owned.2]
    blocks := process.blocks.eraseIdx block }

/-- A system call of a thread is behind it: where the thread stands now and the block it has
made. -/
def after (process : Process) (position : Nat) (following : Option Call)
    (made : Option (UInt32 × Nat)) : Process :=
  { process with
    calls := process.calls.take position ++ following.toList ++ process.calls.drop (position + 1)
    blocks := process.blocks ++ made.toList }

end Process

/-- Who created an object: which of all processes, its number at that time, and the block. -/
structure Creation where
  incarnation : Nat
  pid : UInt32
  blockId : UInt32
deriving DecidableEq, Repr

/-- The living publishers, the numbers of all other processes, the directory, the objects
and how many publishers there have been. -/
structure Host where
  processes : List Process
  others : List UInt32
  directory : List (List Char × Nat)
  objects : List Creation
  abandoned : List Nat
  born : Nat
deriving DecidableEq, Repr

/-- The name of a block's object, written in the classic locale. -/
def nameOf (pid blockId : UInt32) : List Char := shmNameForBlock .classic pid blockId

/-- What the outside answers to a system call: the next directory entry, `kill`, and
whether the call succeeded. -/
structure Answers where
  entry : Option (List Char)
  kill : Int32 → KillResult
  succeeded : Bool

namespace Host

/-- The numbers of the living processes, publishers and others, which `kill` knows. -/
def alive (host : Host) : List UInt32 := host.processes.map Process.pid ++ host.others

/-- `BufferMetadata::attach` of a block's object, which exists and has its size. -/
def attach (host : Host) (pid blockId : UInt32) : Option Nat :=
  host.directory.lookup (nameOf pid blockId)

/-- `shm_unlink` of a name. The object stays with those who have mapped it. -/
def unlink (host : Host) (name : List Char) : Host :=
  { host with directory := erase name host.directory }

/-- `shm_open` for a name which is not there: a new object, created by this process for this
block. -/
def create (host : Host) (process : Process) (blockId : UInt32) : Host :=
  { host with
    directory := emplace (nameOf process.pid blockId) host.objects.length host.directory
    objects := host.objects ++ [⟨process.incarnation, process.pid, blockId⟩] }

/-- The next system call of a thread: the host after it, where the thread stands, and the block it
has made. A thread without a position has returned. `kill` does not say of a
living process that it is missing. -/
def perform (host : Host) (process : Process) (answers : Answers) :
    Call → Option (Host × Option Call × Option (UInt32 × Nat))
  | .cleaning =>
    match answers.entry with
    | none => some (host, none, none)
    | some name =>
      if host.alive.all fun pid => answers.kill pid.toInt32 ≠ .failed ESRCH then
        match orphanName ⟨name, answers.kill⟩ with
        | none => some (host, some .cleaning, none)
        | some orphan => some (host, some (.removing orphan), none)
      else none
  | .removing name =>
    some (if answers.succeeded then host.unlink name else host, some .cleaning, none)
  | .opening again blockId =>
    match host.directory.lookup (nameOf process.pid blockId) with
    | some _ => some (host, if again then none else some (.replacing blockId), none)
    | none =>
      if answers.succeeded then
        some (host.create process blockId, some (.opened blockId host.objects.length), none)
      else some (host, none, none)
  | .opened blockId object =>
    if answers.succeeded then some (host, none, some (blockId, object))
    else some (host, some (.discarding blockId object), none)
  | .replacing blockId =>
    if answers.succeeded then
      some (host.unlink (nameOf process.pid blockId), some (.opening true blockId), none)
    else some (host, none, none)
  | .discarding blockId object | .unlinking blockId object =>
    if answers.succeeded then some (host.unlink (nameOf process.pid blockId), none, none)
    else some ({ host with abandoned := object :: host.abandoned }, none, none)

/-- A process of the host changes, at its place among the processes. -/
def put (host : Host) (index : Nat) (process : Process) : Host :=
  { host with processes := host.processes.set index process }

end Host

/-- What happens next: a process starts or dies, or begins a call or takes a step of one. Numbers
select a process, a call or a block. -/
inductive Action where
  | spawn (pid : UInt32)
  | exit (index : Nat)
  | others (pids : List UInt32)
  | clean (index : Nat)
  | allocate (index : Nat)
  | destroy (index block : Nat)
  | advance (index call : Nat) (answers : Answers)

/-- One action. A process which exits leaves its names behind, for a later cleanup to remove. -/
def step (host : Host) : Action → Option Host
  | .spawn pid =>
    if pid = 0 ∨ pid ∈ host.alive then none
    else some { host with
      processes := host.processes ++ [⟨pid, host.born, 0, [], []⟩]
      born := host.born + 1 }
  | .exit index =>
    if index < host.processes.length then
      some { host with processes := host.processes.eraseIdx index }
    else none
  | .others pids =>
    if ∀ process ∈ host.processes, process.pid ∉ pids then some { host with others := pids }
    else none
  | .clean index =>
    host.processes[index]?.map fun process => host.put index process.clean
  | .allocate index =>
    host.processes[index]?.bind fun process =>
      if process.nextBlockId = uint32Max then none
      else some (host.put index process.allocate)
  | .destroy index block =>
    host.processes[index]?.bind fun process =>
      process.blocks[block]?.map fun owned => host.put index (process.destroy block owned)
  | .advance index call answers =>
    host.processes[index]?.bind fun process =>
      (process.calls[call]?.bind (host.perform process answers)).map fun after =>
        after.1.put index (process.after call after.2.1 after.2.2)

/-- A host without publishers. Its directory may hold names of dead publishers and of other
programs. -/
def Initial (host : Host) : Prop :=
  host.processes = [] ∧ UniqueKeys host.directory ∧
    (∀ entry ∈ host.directory, entry.2 < host.objects.length) ∧
    ∀ creation ∈ host.objects, creation.incarnation < host.born

/-- The process number in a name, as the cleanup reads it from the directory's entry. -/
def pidOf (name : List Char) : UInt32 :=
  (FormattedText.scan orphanFormat name.tail 0 []).numbers.headD 0

/-- No process number is used again while a cleanup which missed its process is about to
remove a name of it. -/
def NoReuse (host : Host) : Action → Prop
  | .spawn pid => ∀ process ∈ host.processes, ∀ call ∈ process.calls, ∀ name ∈ call.removal,
      pidOf name ≠ pid
  | _ => True

end Ros2CudaIpc.SharedNames
