import Ros2CudaIpc.IpcHandleCache
import Ros2CudaIpc.ReadHandle

/-!
# Inserting into the import cache when a construction throws

An insertion hands the imported resource from its argument to a heap object in a
unique pointer, from there to a shared pointer with a copy of the same deleter, and
from there to the map. Whoever owns the resource when an exception passes releases
it: the handler ahead of the unique pointer, the unique pointer while the deleter
is copied, the candidate behind both.

The shared pointer's constructor invokes the deleter by itself when its control
block cannot be allocated. The unique pointer still owns the object then and
invokes the deleter again. At every other throwing point there is one owner.

The release function's arguments and the deleted objects are listed, the latest
first. An object which is deleted stays as it was, so that a second
release of it is listed and not hidden. The exceptions are of any type.
-/

namespace Ros2CudaIpc.CacheInsertion

open Emplacement SharedOwnership

universe u
variable {ε : Type u}

/-- A control block, and the object its deleter deletes. The block outlives the object in the
list, so that a second deletion shows. -/
structure Shared where
  object : Nat
  block : ControlBlock
deriving DecidableEq, Repr

/-- The map to the numbers of control blocks, the allocated objects, the control
blocks, the arguments of the release function, and the deleted objects. -/
structure Store where
  cache : List (IpcHandleKey × Nat)
  objects : List ImportedResources
  shared : List Shared
  released : List ImportedResources
  deleted : List Nat
deriving DecidableEq, Repr

namespace Store

/-- Invoke the release function on a resource. What it throws is swallowed by its caller, so it
always returns here. -/
def release (store : Store) (imported : ImportedResources) : Store :=
  { store with released := imported :: store.released }

/-- Invoke the deleter on an object: release it, and delete it. Nothing keeps it from running
twice, which is what the list of deleted objects records. -/
def callDeleter (store : Store) (object : Nat) : Store :=
  match store.objects[object]? with
  | none => store
  | some resource =>
    { store.release resource with deleted := object :: store.deleted }

/-- Copy a shared pointer, which only raises the use count of its control block. -/
def copyShared (store : Store) (number : Nat) : Store :=
  { store with
    shared := store.shared.modify number fun shared => { shared with block := shared.block.copy } }

/-- Destroy a shared pointer. The last one invokes the deleter on the object, and every other one
only lowers the use count. -/
def dropShared (store : Store) (number : Nat) : Store :=
  match store.shared[number]? with
  | none => store
  | some shared =>
    let dropped := { store with
      shared := store.shared.set number { shared with block := shared.block.drop } }
    if shared.block.isLast then dropped.callDeleter shared.object else dropped

/-- The handler of the construction: without a constructed resource it releases
the argument, otherwise unwinding has released the object already. -/
def handle (store : Store) (resourceConstructed : Bool) (imported : ImportedResources) : Store :=
  if resourceConstructed then store else store.release imported

end Store

/-- The move constructor of ImportedResources: the new object, and what is left of the old one,
which has nothing to release. -/
def moveResources (other : ImportedResources) : ImportedResources × ImportedResources :=
  (other, ⟨0, 0, none, 0, 0, 0⟩)

/-- What each fallible step of an insertion throws, in the order of the steps. -/
structure InsertOutcomes (ε : Type u) where
  copyRelease : Option ε
  allocateResource : Option ε
  copyDeleter : Option ε
  allocateControlBlock : Option ε
  lock : Option ε
  allocateNode : Option ε
  growBuckets : Option ε

/-- The construction of the candidate. When the control block cannot be allocated, the deleter
runs in the constructor of the shared pointer, and again when the unique pointer is destroyed. -/
def constructCandidate (outcomes : InsertOutcomes ε) (imported : ImportedResources)
    (store : Store) : Store × Except ε Nat :=
  match outcomes.copyRelease with
  | some exception => (store.handle false imported, .error exception)
  | none =>
    match outcomes.allocateResource with
    | some exception => (store.handle false imported, .error exception)
    | none =>
      let object := store.objects.length
      let moved := moveResources imported
      let constructed := { store with objects := store.objects ++ [moved.1] }
      match outcomes.copyDeleter with
      | some exception =>
        ((constructed.callDeleter object).handle true moved.2, .error exception)
      | none =>
        match outcomes.allocateControlBlock with
        | some exception =>
          (((constructed.callDeleter object).callDeleter object).handle true moved.2,
            .error exception)
        | none =>
          ({ constructed with shared := store.shared ++ [⟨object, ControlBlock.construct⟩] },
            .ok store.shared.length)

/-- The critical section, and the destruction of the candidate behind it. The map node copies the
candidate before the map is searched. -/
def insertCandidate (outcomes : InsertOutcomes ε) (key : IpcHandleKey) (candidate : Nat)
    (store : Store) : Store × Except ε Nat :=
  match outcomes.lock with
  | some exception => (store.dropShared candidate, .error exception)
  | none =>
    match outcomes.allocateNode with
    | some exception => (store.dropShared candidate, .error exception)
    | none =>
      let withNode := store.copyShared candidate
      match store.cache.lookup key with
      | some stored =>
        (((withNode.dropShared candidate).copyShared stored).dropShared candidate, .ok stored)
      | none =>
        match outcomes.growBuckets with
        | some exception => ((withNode.dropShared candidate).dropShared candidate, .error exception)
        | none =>
          let emplaced := { withNode with cache := emplace key candidate store.cache }
          ((emplaced.copyShared candidate).dropShared candidate, .ok candidate)

/-- `insert_or_discard_duplicate`: the store it leaves, and its result. The candidate is destroyed
behind the critical section on every path. -/
def insertOrDiscardDuplicate (outcomes : InsertOutcomes ε) (key : IpcHandleKey)
    (imported : ImportedResources) (store : Store) : Store × Except ε Nat :=
  match constructCandidate outcomes imported store with
  | (after, .error exception) => (after, .error exception)
  | (after, .ok candidate) => insertCandidate outcomes key candidate after

/-- What is thrown ahead of the control block: by copying the release function, by allocating the
object, or by copying the deleter. -/
def InsertOutcomes.early (outcomes : InsertOutcomes ε) : Option ε :=
  (outcomes.copyRelease.or outcomes.allocateResource).or outcomes.copyDeleter

/-- What is thrown behind the control block; buckets grow for a new key only. -/
def InsertOutcomes.late (outcomes : InsertOutcomes ε) (key : IpcHandleKey) (store : Store) :
    Option ε :=
  (outcomes.lock.or outcomes.allocateNode).or
    (if (store.cache.lookup key).isNone then outcomes.growBuckets else none)

/-- The exception of the first step which throws, in the order in which the code takes the steps. -/
def InsertOutcomes.thrown (outcomes : InsertOutcomes ε) (key : IpcHandleKey) (store : Store) :
    Option ε :=
  (outcomes.early.or outcomes.allocateControlBlock).or (outcomes.late key store)

/-- The insertion gets as far as the control block, and its allocation throws. No earlier step has
thrown. -/
def InsertOutcomes.ControlBlockThrows (outcomes : InsertOutcomes ε) : Prop :=
  outcomes.early = none ∧ outcomes.allocateControlBlock.isSome = true

/-- Cleaned up behind a throw: the cache is as before, the release function ran
once, on the imported resource, and its object was deleted at most once. -/
structure CleanedUp (before after : Store) (imported : ImportedResources) : Prop where
  cache : after.cache = before.cache
  released : after.released = imported :: before.released
  deleted : after.deleted = before.deleted ∨ after.deleted = before.objects.length :: before.deleted

/-- A store with a fresh object of the imported resource, as the unique pointer owns it. Nothing
else of the store changes. -/
def Store.hold (store : Store) (imported : ImportedResources) : Store :=
  { store with objects := store.objects ++ [imported] }

/-- The deleter on the fresh object lists its resource as released and the object as deleted, and
touches neither the map nor a shared pointer. -/
theorem callDeleter_hold (store : Store) (imported : ImportedResources) :
    (store.hold imported).callDeleter store.objects.length =
      { store.hold imported with
        released := imported :: store.released
        deleted := store.objects.length :: store.deleted } := by
  simp [Store.callDeleter, Store.hold, Store.release]

/-- A store with a candidate over the fresh object, of a use count: one for the candidate alone,
two with its copy in the map node. -/
def Store.share (store : Store) (imported : ImportedResources) (useCount : Nat) : Store :=
  { store.hold imported with
    shared := store.shared ++ [⟨store.objects.length, ⟨useCount, 0⟩⟩] }

/-- Destroying the only candidate invokes the deleter once, on the imported resource, and leaves
the map as it was. -/
theorem dropShared_last (store : Store) (imported : ImportedResources) :
    CleanedUp store ((store.share imported 1).dropShared store.shared.length) imported := by
  constructor <;>
    simp [Store.dropShared, Store.share, Store.hold, ControlBlock.isLast, Store.callDeleter,
      Store.release]

/-- Copying the candidate for the map node and destroying the copy leaves the candidate as it was,
with nothing released. -/
theorem dropShared_copyShared (store : Store) (imported : ImportedResources) :
    ((store.share imported 1).copyShared store.shared.length).dropShared store.shared.length =
      store.share imported 1 := by
  simp [Store.dropShared, Store.copyShared, Store.share, ControlBlock.isLast, ControlBlock.copy,
    ControlBlock.drop, List.modify_eq_take_drop]

/-- Nothing thrown ahead of the control block is nothing thrown at any of the three steps there. -/
theorem early_none {outcomes : InsertOutcomes ε} (quiet : outcomes.early = none) :
    outcomes.copyRelease = none ∧ outcomes.allocateResource = none ∧
      outcomes.copyDeleter = none := by
  simpa [InsertOutcomes.early, and_assoc] using quiet

/-- What a construction which reaches the shared pointer leaves: a candidate with use count one
over the fresh object, and nothing released. -/
theorem constructCandidate_share {outcomes : InsertOutcomes ε} (imported : ImportedResources)
    (store : Store) (quiet : outcomes.early = none)
    (control : outcomes.allocateControlBlock = none) :
    constructCandidate outcomes imported store =
      (store.share imported 1, .ok store.shared.length) := by
  obtain ⟨copied, allocated, deleter⟩ := early_none quiet
  simp [constructCandidate, copied, allocated, deleter, control, moveResources, Store.share,
    Store.hold, ControlBlock.construct]

/-- A construction which throws ahead of the control block is cleaned up.

Proof: the unique pointer owns the object, and is destroyed with it. -/
theorem constructCandidate_throws {outcomes : InsertOutcomes ε} (imported : ImportedResources)
    (store : Store) {exception : ε} (thrown : outcomes.early = some exception) :
    ∃ after, constructCandidate outcomes imported store = (after, .error exception) ∧
      CleanedUp store after imported := by
  unfold constructCandidate
  cases copied : outcomes.copyRelease with
  | some first =>
    obtain rfl : first = exception := by simpa [InsertOutcomes.early, copied] using thrown
    exact ⟨_, rfl, rfl, rfl, .inl rfl⟩
  | none =>
    cases allocated : outcomes.allocateResource with
    | some second =>
      obtain rfl : second = exception := by
        simpa [InsertOutcomes.early, copied, allocated] using thrown
      exact ⟨_, rfl, rfl, rfl, .inl rfl⟩
    | none =>
      obtain deleter : outcomes.copyDeleter = some exception := by
        simpa [InsertOutcomes.early, copied, allocated] using thrown
      have released := callDeleter_hold store imported
      simp only [Store.hold] at released
      simp only [deleter, moveResources, released]
      exact ⟨_, rfl, rfl, rfl, .inr rfl⟩

/-- A failing control block runs the deleter twice, so the resource is listed as released twice by
the time the exception leaves. -/
theorem constructCandidate_twice {outcomes : InsertOutcomes ε} (imported : ImportedResources)
    (store : Store) {exception : ε} (quiet : outcomes.early = none)
    (control : outcomes.allocateControlBlock = some exception) :
    ∃ after, constructCandidate outcomes imported store = (after, .error exception) ∧
      after.released = imported :: imported :: store.released := by
  obtain ⟨copied, allocated, deleter⟩ := early_none quiet
  simp only [constructCandidate, copied, allocated, deleter, control]
  refine ⟨_, rfl, ?_⟩
  simp [moveResources, Store.handle, Store.callDeleter, Store.release]

/-- A critical section which throws destroys the only candidate. That holds for the lock, the node
and the buckets alike, since the node's copy is gone first. -/
theorem insertCandidate_throws {outcomes : InsertOutcomes ε} {key : IpcHandleKey}
    (imported : ImportedResources) {store : Store} {exception : ε}
    (thrown : outcomes.late key store = some exception) :
    ∃ after, insertCandidate outcomes key store.shared.length (store.share imported 1) =
        (after, .error exception) ∧ CleanedUp store after imported := by
  have cleaned := dropShared_last store imported
  unfold insertCandidate
  cases locked : outcomes.lock with
  | some first =>
    obtain rfl : first = exception := by simpa [InsertOutcomes.late, locked] using thrown
    exact ⟨_, rfl, cleaned⟩
  | none =>
    cases node : outcomes.allocateNode with
    | some second =>
      obtain rfl : second = exception := by
        simpa [InsertOutcomes.late, locked, node] using thrown
      exact ⟨_, rfl, cleaned⟩
    | none =>
      have same : (store.share imported 1).cache = store.cache := rfl
      cases present : store.cache.lookup key with
      | some stored => simp [InsertOutcomes.late, locked, node, present] at thrown
      | none =>
        obtain grows : outcomes.growBuckets = some exception := by
          simpa [InsertOutcomes.late, locked, node, present] using thrown
        simp only [same, present, grows, dropShared_copyShared]
        exact ⟨_, rfl, cleaned⟩

/-- An insertion which throws at any of its steps propagates the exception, leaves
the cache alone, releases the imported resource once and deletes its object once at
most, if and only if it is not the control block whose allocation throws. -/
theorem insert_cleanedUp_iff (outcomes : InsertOutcomes ε) (key : IpcHandleKey)
    (imported : ImportedResources) (store : Store) (exception : ε)
    (thrown : outcomes.thrown key store = some exception) :
    ((insertOrDiscardDuplicate outcomes key imported store).2 = .error exception ∧
      CleanedUp store (insertOrDiscardDuplicate outcomes key imported store).1 imported) ↔
        ¬ outcomes.ControlBlockThrows := by
  cases early : outcomes.early with
  | some first =>
    obtain rfl : first = exception := by simpa [InsertOutcomes.thrown, early] using thrown
    obtain ⟨after, constructed, cleaned⟩ := constructCandidate_throws imported store early
    have ahead : ¬ outcomes.ControlBlockThrows := fun throws => by
      simp [early, InsertOutcomes.ControlBlockThrows] at throws
    refine iff_of_true ?_ ahead
    rw [insertOrDiscardDuplicate, constructed]
    exact ⟨rfl, cleaned⟩
  | none =>
    cases control : outcomes.allocateControlBlock with
    | some failing =>
      obtain ⟨after, constructed, twice⟩ := constructCandidate_twice imported store early control
      refine iff_of_false ?_ (fun other => other ⟨early, by simp [control]⟩)
      rintro ⟨-, cleaned⟩
      rw [insertOrDiscardDuplicate, constructed] at cleaned
      have once := cleaned.released
      simp [twice] at once
    | none =>
      have late : outcomes.late key store = some exception := by
        simpa [InsertOutcomes.thrown, early, control] using thrown
      obtain ⟨after, inserted, cleaned⟩ := insertCandidate_throws imported late
      have behind : ¬ outcomes.ControlBlockThrows := fun throws => by
        simp [control, InsertOutcomes.ControlBlockThrows] at throws
      refine iff_of_true ?_ behind
      rw [insertOrDiscardDuplicate, constructCandidate_share imported store early control]
      simp only [inserted]
      exact ⟨trivial, cleaned⟩

/-- A key of publisher 1, its block 2 and device 0, with a socket path and an empty event handle. -/
def sampleKey : IpcHandleKey := ⟨1, 2, 0, [47], Vector.replicate 64 0⟩

/-- An imported mapping with a context, of one allocation with its size and its event. -/
def sampleImported : ImportedResources := ⟨4096, 3, some ⟨0⟩, 4096, 5, 65536⟩

/-- Without memory for the control block the mapping is released twice, so not every insertion
which throws is cleaned up behind. -/
theorem control_block_released_twice : ¬ ∀ (outcomes : InsertOutcomes Exception) key imported store
    exception, outcomes.thrown key store = some exception →
      (insertOrDiscardDuplicate outcomes key imported store).2 = .error exception ∧
        CleanedUp store (insertOrDiscardDuplicate outcomes key imported store).1 imported := by
  intro claimed
  have cleaned := (claimed ⟨none, none, none, some .badAlloc, none, none, none⟩ sampleKey
    sampleImported ⟨[], [], [], [], []⟩ .badAlloc rfl).2
  exact absurd cleaned.released (by decide)

/-- A map node which cannot be allocated, behind an entry of another key, leaves the map and
releases the candidate once. -/
theorem insert_cleanedUp_node :
    CleanedUp ⟨[(sampleKey, 0)], [sampleImported], [⟨0, ⟨1, 0⟩⟩], [], []⟩
      (insertOrDiscardDuplicate ⟨none, none, none, none, none, some Exception.badAlloc, none⟩
        { sampleKey with blockId := 3 } sampleImported
        ⟨[(sampleKey, 0)], [sampleImported], [⟨0, ⟨1, 0⟩⟩], [], []⟩).1 sampleImported := by
  refine ((insert_cleanedUp_iff _ _ _ _ Exception.badAlloc rfl).mpr ?_).2
  simp [InsertOutcomes.ControlBlockThrows]

end Ros2CudaIpc.CacheInsertion
