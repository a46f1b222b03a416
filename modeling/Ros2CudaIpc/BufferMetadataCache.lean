import Ros2CudaIpc.BufferRef
import Ros2CudaIpc.Emplacement
import Ros2CudaIpc.Reachability
import Ros2CudaIpc.ReadHandle

/-!
# The subscriber's cache of attached metadata

A lookup runs in two critical sections with an attach between them. Other calls may
insert, replace or evict the entry in the meantime, and another process may store
a new uid in any object at any time. The uid a step reads and what the attach
function answers are therefore inputs of the step. A mapping object is known by a
number which the attach function chooses; it may answer one number twice.

Each critical section is one step: nothing else touches the map while its
mutex is held. The log lists what the calls did, the latest first; no step reads it.
-/

namespace Ros2CudaIpc.BufferMetadataCache

open Emplacement Reachability

/-- `BufferMetadataCache::Key`: the publisher and the block, which together name the metadata
object. -/
structure Key where
  publisherPid : UInt32
  blockId : UInt32
deriving DecidableEq, Repr

/-- Position of a `get_or_attach` call: inside the first critical section, outside both, or inside
the second. Attaching and reading the candidate happen without the mutex. -/
inductive Pc where
  | lookup
  | attach
  | readCandidate (candidate : Nat)
  | insert (candidate : Nat)
deriving DecidableEq, Repr

/-- A running `get_or_attach` call, known by its number. The number stands for the thread; no step
depends on it. -/
structure GetCall where
  number : Nat
  key : Key
  expectedUid : Nat
  pc : Pc
deriving DecidableEq, Repr

/-- The environment's answers to a step: the uid of the object it asks, the attach
function's answer, and whether the map node is allocated. -/
structure Answers where
  uid : Option Nat
  attached : Except Exception (Option Nat)
  nodeAllocated : Bool
deriving Repr

/-- What is logged about the call of a number. The object asked is a cached mapping, or
the candidate which the call attached. -/
inductive Event where
  | called (call : Nat) (key : Key) (expectedUid : Nat)
  | readCached (call mapping : Nat) (uid : Option Nat)
  | evicted (call : Nat) (key : Key) (mapping : Nat)
  | attached (call : Nat) (key : Key) (candidate : Nat)
  | attachFailed (call : Nat)
  | readCandidate (call candidate : Nat) (uid : Option Nat)
  | inserted (call : Nat) (key : Key) (candidate : Nat)
deriving DecidableEq, Repr

/-- The call an event is about. Every event belongs to one call, including the eviction of a
mapping another call had stored. -/
def Event.call : Event → Nat
  | .called call _ _ | .readCached call _ _ | .evicted call _ _ | .attached call _ _
  | .attachFailed call | .readCandidate call _ _ | .inserted call _ _ => call

/-- The cached mappings by block, an association list with distinct keys in place of the unordered
map. -/
abbrev Mappings := List (Key × Nat)

/-- What a step of a call leaves: the mappings, the call or its result, and its events. -/
structure Progress where
  mappings : Mappings
  outcome : Outcome GetCall (Except Exception (Option Nat))
  events : List Event
deriving Repr

/-- The mapping whose uid the next step of a call reads, where it reads one: the cached one under
the mutex, or its own candidate outside. -/
def GetCall.asks (call : GetCall) (mappings : Mappings) : Option Nat :=
  match call.pc with
  | .lookup | .insert _ => mappings.lookup call.key
  | .attach => none
  | .readCandidate candidate => some candidate

/-- A step which goes on at a position, with the mappings it leaves and the events it has caused. -/
def GetCall.goes (call : GetCall) (pc : Pc) (mappings : Mappings) (events : List Event) :
    Progress :=
  ⟨mappings, .running { call with pc := pc }, events⟩

/-- A step which returns or throws, with the mappings it leaves and the events it has caused. -/
def Progress.returns (result : Except Exception (Option Nat)) (mappings : Mappings)
    (events : List Event) : Progress :=
  ⟨mappings, .returned result, events⟩

/-- The end of the second critical section: the candidate is stored and returned. Only the
allocation of the node can throw here, and then nothing is stored. -/
def GetCall.emplaces (call : GetCall) (answers : Answers) (candidate : Nat) (mappings : Mappings)
    (events : List Event) : Progress :=
  if answers.nodeAllocated = false then .returns (.error .badAlloc) mappings events
  else
    .returns (.ok (some candidate)) (emplace call.key candidate mappings)
      (.inserted call.number call.key candidate :: events)

/-- The next step of a call. A critical section is one step, since the mutex lets no other call in
between; the two steps without the mutex are separate. -/
def GetCall.step (call : GetCall) (answers : Answers) (mappings : Mappings) : Progress :=
  match call.pc with
  | .lookup =>
    match mappings.lookup call.key with
    | none => call.goes .attach mappings []
    | some mapping =>
      let events := [.readCached call.number mapping answers.uid]
      if answers.uid = some call.expectedUid then .returns (.ok (some mapping)) mappings events
      else
        call.goes .attach (erase call.key mappings)
          (.evicted call.number call.key mapping :: events)
  | .attach =>
    match answers.attached with
    | .error exception => .returns (.error exception) mappings []
    | .ok none => .returns (.ok none) mappings [.attachFailed call.number]
    | .ok (some candidate) =>
      call.goes (.readCandidate candidate) mappings [.attached call.number call.key candidate]
  | .readCandidate candidate =>
    let events := [.readCandidate call.number candidate answers.uid]
    if answers.uid = some call.expectedUid then call.goes (.insert candidate) mappings events
    else .returns (.ok none) mappings events
  | .insert candidate =>
    match mappings.lookup call.key with
    | none => call.emplaces answers candidate mappings []
    | some mapping =>
      let events := [.readCached call.number mapping answers.uid]
      if answers.uid = some call.expectedUid then .returns (.ok (some mapping)) mappings events
      else
        call.emplaces answers candidate (erase call.key mappings)
          (.evicted call.number call.key mapping :: events)

/-- A call which has returned or thrown, with what it was asked and what it gave back. -/
structure Finished where
  number : Nat
  key : Key
  expectedUid : Nat
  result : Except Exception (Option Nat)
deriving Repr

/-- The map, the running calls, the finished ones, the number of calls so far, and
the log. -/
structure State where
  mappings : Mappings
  calls : List GetCall
  finished : List Finished
  created : Nat
  log : List Event
deriving Repr

/-- The empty cache: no mapping, no call and no event, as at the start of the process. -/
def initial : State := ⟨[], [], [], 0, []⟩

/-- What can happen next: a call begins, a running call takes its next step, or the cache is
cleared. -/
inductive Action where
  | getOrAttach (key : Key) (expectedUid : Nat)
  | advance (index : Nat) (answers : Answers)
  | clear
deriving Repr

/-- The call at an index goes on as its step says, or leaves the running calls with its result.
The events of the step come first in the log. -/
def State.deliver (state : State) (index : Nat) (call : GetCall) (progress : Progress) : State :=
  let next := { state with mappings := progress.mappings, log := progress.events ++ state.log }
  match progress.outcome with
  | .running following => { next with calls := state.calls.set index following }
  | .returned result =>
    { next with
      calls := state.calls.eraseIdx index
      finished := ⟨call.number, call.key, call.expectedUid, result⟩ :: state.finished }

/-- One action. A step of a call which is not running, at an index beyond the list, is no action
of the program. -/
def step (state : State) : Action → Option State
  | .getOrAttach key expectedUid =>
    some { state with
      calls := state.calls ++ [⟨state.created, key, expectedUid, .lookup⟩]
      created := state.created + 1
      log := .called state.created key expectedUid :: state.log }
  | .advance index answers =>
    match state.calls[index]? with
    | none => none
    | some call => some (state.deliver index call (call.step answers state.mappings))
  | .clear => some { state with mappings := [] }

end Ros2CudaIpc.BufferMetadataCache
