import Ros2CudaIpc.Emplacement
import Ros2CudaIpc.MemoryImporter
import Ros2CudaIpc.Reachability
import Ros2CudaIpc.SharedOwnership

/-!
# The process-wide cache of imported resources

The cache maps a key to a shared pointer under one mutex. Any number of threads
find, insert, clear and drop entries. A call is the list of its positions between
lock, map access, unlock and the destruction of its local pointers; one step goes
from one position to the next, and a lock step waits while the mutex is held.

Dropping the last reference to a resource invokes the release function inside
the step's call. The call stays there until the release function returns, which
may itself start further calls in the meantime. Resources are numbered in the
order of their construction. The log lists the answers of the critical sections,
the latest first; no step reads it.
-/

namespace Ros2CudaIpc

/-- `IpcHandleKey`: what identifies an imported resource. Equality compares the five fields, and
the hash plays no part here. -/
structure IpcHandleKey where
  publisherPid : UInt32
  blockId : UInt32
  deviceId : UInt32
  vmmSocketPath : List UInt8
  event : Vector UInt8 64
deriving DecidableEq, Repr

namespace IpcHandleCache

open Emplacement SharedOwnership Reachability

/-- Position of a call. Local pointers are the numbers it carries: a candidate
until it is dropped, a result once it is copied, the swapped entries of a clear. -/
inductive Frame where
  | findLock (key : IpcHandleKey)
  | findLookup (key : IpcHandleKey)
  | findUnlock (key : IpcHandleKey) (result : Option Nat)
  | insertConstruct (key : IpcHandleKey) (imported : ImportedResources)
  | insertLock (key : IpcHandleKey) (candidate : Nat)
  | insertEmplace (key : IpcHandleKey) (candidate : Nat)
  | insertDropNode (key : IpcHandleKey) (candidate stored : Nat)
  | insertCopy (key : IpcHandleKey) (candidate stored : Nat)
  | insertUnlock (key : IpcHandleKey) (candidate result : Nat)
  | insertDropCandidate (key : IpcHandleKey) (candidate result : Nat)
  | insertReturn (key : IpcHandleKey) (result : Nat)
  | clearLock
  | clearSwap
  | clearUnlock (entries : List Nat)
  | clearDrop (entries : List Nat)
deriving DecidableEq, Repr

/-- A running call, or the release function on a resource inside a call; an entry
dropped outside every call is released without one. -/
inductive Activity where
  | running (frame : Frame)
  | releasing (number : Nat) (resume : Option Frame)
deriving DecidableEq, Repr

/-- An Entry returned to a caller, and the key it was returned for, which the source's object does
not keep. -/
structure Entry where
  key : IpcHandleKey
  number : Nat
deriving DecidableEq, Repr

/-- An answer of a critical section: a hit, an insertion with its candidate and the stored
resource, or a clear. -/
inductive Event where
  | found (key : IpcHandleKey) (number : Nat)
  | inserted (key : IpcHandleKey) (candidate result : Nat)
  | cleared
deriving DecidableEq, Repr

/-- The map, the mutex, the running activities, the Entries outside, each
resource with the key it was imported for, its control block, the log, and every
Entry ever returned. -/
structure State where
  cache : List (IpcHandleKey × Nat)
  mutex : Bool
  activities : List Activity
  entries : List Entry
  resources : List (IpcHandleKey × ImportedResources)
  blocks : List ControlBlock
  log : List Event
  returned : List Entry
deriving DecidableEq, Repr

/-- The empty cache, with nobody at it and nothing imported, as at the start of the process. -/
def initial : State := ⟨[], false, [], [], [], [], [], []⟩

/-- Copy a reference to a resource, which raises its use count only. -/
def State.copy (state : State) (number : Nat) : State :=
  { state with blocks := copyReference state.blocks number }

/-- Drop a reference to a resource inside a call which goes on at a frame. -/
def State.drop (state : State) (number : Nat) (resume : Option Frame) :
    State × Option Activity :=
  ({ state with blocks := dropReference state.blocks number },
    if dropsLast state.blocks number then some (.releasing number resume)
    else resume.map .running)

/-- What a step of a call leaves: the state, its next activity, the Entry it
returns. -/
structure Progress where
  state : State
  activity : Option Activity
  returned : Option Entry
deriving DecidableEq, Repr

/-- A step which goes on at a frame and returns nothing yet. -/
def State.goes (state : State) (frame : Frame) : Progress := ⟨state, some (.running frame), none⟩

/-- The next step of a call; a lock which is held refuses it. The map node copies the candidate
before the map is searched. -/
def State.advance (state : State) : Frame → Option Progress
  | .findLock key =>
    if state.mutex then none else some ({ state with mutex := true }.goes (.findLookup key))
  | .findLookup key =>
    match state.cache.lookup key with
    | none => some (state.goes (.findUnlock key none))
    | some number =>
      some (State.goes { state.copy number with log := .found key number :: state.log }
        (.findUnlock key (some number)))
  | .findUnlock key result =>
    some ⟨{ state with mutex := false }, none, result.map (⟨key, ·⟩)⟩
  | .insertConstruct key imported =>
    some (State.goes { state with
        resources := state.resources ++ [(key, imported)]
        blocks := state.blocks ++ [ControlBlock.construct] }
      (.insertLock key state.resources.length))
  | .insertLock key candidate =>
    if state.mutex then none
    else some ({ state with mutex := true }.goes (.insertEmplace key candidate))
  | .insertEmplace key candidate =>
    match state.cache.lookup key with
    | none =>
      some (State.goes { state.copy candidate with
          cache := emplace key candidate state.cache
          log := .inserted key candidate candidate :: state.log }
        (.insertCopy key candidate candidate))
    | some stored =>
      some (State.goes { state.copy candidate with
          log := .inserted key candidate stored :: state.log }
        (.insertDropNode key candidate stored))
  | .insertDropNode key candidate stored =>
    let dropped := state.drop candidate (some (.insertCopy key candidate stored))
    some ⟨dropped.1, dropped.2, none⟩
  | .insertCopy key candidate stored =>
    some ((state.copy stored).goes (.insertUnlock key candidate stored))
  | .insertUnlock key candidate result =>
    some ({ state with mutex := false }.goes (.insertDropCandidate key candidate result))
  | .insertDropCandidate key candidate result =>
    let dropped := state.drop candidate (some (.insertReturn key result))
    some ⟨dropped.1, dropped.2, none⟩
  | .insertReturn key result => some ⟨state, none, some ⟨key, result⟩⟩
  | .clearLock => if state.mutex then none else some ({ state with mutex := true }.goes .clearSwap)
  | .clearSwap =>
    some (State.goes { state with cache := [], log := .cleared :: state.log }
      (.clearUnlock (state.cache.map Prod.snd)))
  | .clearUnlock entries => some ({ state with mutex := false }.goes (.clearDrop entries))
  | .clearDrop [] => some ⟨state, none, none⟩
  | .clearDrop (number :: rest) =>
    let dropped := state.drop number (some (.clearDrop rest))
    some ⟨dropped.1, dropped.2, none⟩

/-- What can happen next: a call begins, an activity takes its next step or returns from a release
function, or a caller copies or drops an Entry. -/
inductive Action where
  | find (key : IpcHandleKey)
  | insertOrDiscardDuplicate (key : IpcHandleKey) (imported : ImportedResources)
  | clear
  | advance (index : Nat)
  | copyEntry (index : Nat)
  | dropEntry (index : Nat)
deriving DecidableEq, Repr

/-- Begin an activity, a call or a release function, behind those already running. -/
def State.begin (state : State) (activity : Activity) : State :=
  { state with activities := state.activities ++ [activity] }

/-- Replace an activity by what its step left, in its place, and hand a returned Entry to the
caller. -/
def State.deliver (state : State) (index : Nat) (activity : Option Activity)
    (returned : Option Entry) : State :=
  { state with
    activities := state.activities.take index ++ activity.toList ++
      state.activities.drop (index + 1)
    entries := state.entries ++ returned.toList
    returned := returned.toList ++ state.returned }

/-- One action. A returning release function resumes its call, and one with no call behind it just
ends. -/
def step (state : State) : Action → Option State
  | .find key => some (state.begin (.running (.findLock key)))
  | .insertOrDiscardDuplicate key imported =>
    some (state.begin (.running (.insertConstruct key imported)))
  | .clear => some (state.begin (.running .clearLock))
  | .advance index =>
    match state.activities[index]? with
    | none => none
    | some (.releasing _ resume) => some (state.deliver index (resume.map .running) none)
    | some (.running frame) =>
      (state.advance frame).map fun after => after.state.deliver index after.activity after.returned
  | .copyEntry index =>
    match state.entries[index]? with
    | none => none
    | some entry => some { state.copy entry.number with entries := state.entries ++ [entry] }
  | .dropEntry index =>
    match state.entries[index]? with
    | none => none
    | some entry =>
      let dropped := state.drop entry.number none
      some { dropped.1 with
        entries := state.entries.eraseIdx index
        activities := state.activities ++ dropped.2.toList }

/-- The frames between a lock and its unlock, at which no other call can pass its lock. -/
def Frame.holdsMutex : Frame → Bool
  | .findLookup _ | .findUnlock _ _ | .insertEmplace _ _ | .insertDropNode _ _ _
  | .insertCopy _ _ _ | .insertUnlock _ _ _ | .clearSwap | .clearUnlock _ => true
  | _ => false

/-- A call which holds the mutex, its release function included should it have been started inside
the section. -/
def Activity.holdsMutex : Activity → Bool
  | .running frame => frame.holdsMutex
  | .releasing _ resume => resume.any Frame.holdsMutex

/-- The local pointers of a call at a frame. A map node under destruction holds
the candidate once more; a stored entry is not yet copied. -/
def Frame.held : Frame → List Nat
  | .findUnlock _ result => result.toList
  | .insertLock _ candidate | .insertEmplace _ candidate | .insertCopy _ candidate _ => [candidate]
  | .insertDropNode _ candidate _ => [candidate, candidate]
  | .insertUnlock _ candidate result | .insertDropCandidate _ candidate result =>
    [candidate, result]
  | .insertReturn _ result => [result]
  | .clearUnlock entries | .clearDrop entries => entries
  | _ => []

/-- The local pointers of an activity; a running release function keeps those of the call it
interrupts. -/
def Activity.held : Activity → List Nat
  | .running frame => frame.held
  | .releasing _ resume => resume.toList.flatMap Frame.held

/-- Every reference to a resource: the map's, the Entries', the local ones. The use counts count
exactly these. -/
def State.references (state : State) : List Nat :=
  state.cache.map Prod.snd ++ state.entries.map Entry.number ++
    state.activities.flatMap Activity.held

end IpcHandleCache

end Ros2CudaIpc
