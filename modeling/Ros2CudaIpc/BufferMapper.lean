import Mathlib.Data.List.Induction
import Ros2CudaIpc.IpcHandleCache
import Ros2CudaIpc.ReadHandle

/-!
# Mapping descriptors through the import cache

Mapping a descriptor looks its resource up under the publisher, block, device,
socket path and event handle of the message. A miss imports the resource with
the message's byte size; a hit returns whatever an earlier message imported. The
byte size is not part of the key, and the handle takes it from its own message.

A handle therefore stays within its mapping exactly when the earlier message
mapped enough, or, for the first message of a key, when the rounding of its byte
size does not wrap. Both conditions are about the messages of the run and the
allocation granularity alone.
-/

namespace Ros2CudaIpc

open Emplacement

/-- The key `map_descriptor` forms from a message: the publisher, the block, the device, and the
two handles to import. The uid and the sizes are not part of it. -/
def BufferCore.key (msg : BufferCore) : IpcHandleKey :=
  ⟨msg.publisherPid, msg.blockId, msg.deviceId, msg.vmmSocketPath, msg.eventHandle⟩

namespace BufferMapper

/-- The contents of the process-wide IpcHandleCache, which outlive the mapper and its calls. -/
abbrev Cache := List (IpcHandleKey × ImportedResources)

/-- One `BufferMapper::map` call with the answers to its fallible steps: whether
the BufferRef is valid, each allocation, the import and the binding. -/
structure MapCall where
  msg : BufferCore
  consumerStream : CUstream
  acquired : Bool
  referenceAllocated : Bool
  keyCopied : Bool
  driver : ImportOutcomes
  inserted : Bool
  publicationAllocated : Bool
  bind : BindOutcomes
deriving DecidableEq, Repr

/-- The end of `map_descriptor`: a publication of the message's byte size over
the resource which was found or imported. -/
def MapCall.publish (call : MapCall) (imported : Option ImportedResources) :
    Except Exception (Option MappedPublication) :=
  ReadHandleFactory.makePublication call.publicationAllocated imported
    (some ⟨true, call.msg.uid.toNat⟩) call.msg.byteSize call.msg.deviceId.toInt32

/-- `map_descriptor`: the cache it leaves, and its publication. A duplicate
insertion answers the entry which is already present. -/
def mapDescriptor (call : MapCall) (cache : Cache) :
    Cache × Except Exception (Option MappedPublication) :=
  if call.msg.publisherPid = 0 then (cache, .ok none)
  else if call.acquired = false then (cache, .ok none)
  else if call.referenceAllocated = false ∨ call.keyCopied = false then (cache, .error .badAlloc)
  else
    match cache.lookup call.msg.key with
    | some imported => (cache, call.publish (some imported))
    | none =>
      match (VmmFdMemoryImporter.importFrom call.driver call.msg call.msg.eventHandle).2 with
      | none => (cache, .ok none)
      | some opened =>
        if call.inserted = false then (cache, .error .badAlloc)
        else
          let stored := emplace call.msg.key opened cache
          (stored, call.publish (stored.lookup call.msg.key))

/-- `BufferMapper::map`: the cache it leaves, and its handle. The ready event is waited for behind
the mapping, so a failure there leaves what was cached. -/
def map (call : MapCall) (cache : Cache) : Cache × Except Exception (Option ReadHandle) :=
  match mapDescriptor call cache with
  | (after, .error exception) => (after, .error exception)
  | (after, .ok none) => (after, .ok none)
  | (after, .ok (some publication)) =>
    (after, (ReadHandleFactory.makeBound call.bind publication call.consumerStream).2)

/-- The cache after a sequence of calls, from the empty one. Each call sees what the calls before
it have left, whatever these returned. -/
def cacheAfter (calls : List MapCall) : Cache :=
  calls.foldl (fun cache call => (map call cache).1) []

/-- One more call maps in the cache which the calls before it have left. -/
@[simp] theorem cacheAfter_append (calls : List MapCall) (call : MapCall) :
    cacheAfter (calls ++ [call]) = (map call (cacheAfter calls)).1 := by
  simp [cacheAfter]

/-- The handle a call returns after a sequence of calls, if it returns one. -/
def MapCall.handle (before : List MapCall) (call : MapCall) : Option ReadHandle :=
  match (map call (cacheAfter before)).2 with
  | .ok (some handle) => some handle
  | _ => none

/-- The granularity under which a call inserts its own import, if it reaches the
cache with one. It depends on the message and the answered steps alone. -/
def MapCall.imports (call : MapCall) : Option UInt64 :=
  if call.msg.publisherPid ≠ 0 ∧ call.acquired ∧ call.referenceAllocated ∧ call.keyCopied ∧
      call.inserted then
    call.driver.succeeds call.msg
  else none

/-- The size mapped by the first of the calls to import a key. It is fixed by the size of that
call's message, and later messages of the key do not change it. -/
def firstMapped (key : IpcHandleKey) (calls : List MapCall) : Option UInt64 :=
  calls.findSome? fun call =>
    if call.msg.key = key then call.imports.map (mappedSize call.msg.byteSize) else none

/-- Mapping adds the call's own import for an absent key and keeps every entry. -/
theorem lookup_map (call : MapCall) (cache : Cache) (key : IpcHandleKey) :
    ((map call cache).1.lookup key).map ImportedResources.allocationSize =
      ((cache.lookup key).map ImportedResources.allocationSize).or
        (if call.msg.key = key then call.imports.map (mappedSize call.msg.byteSize) else none) := by
  have kept : (map call cache).1 = (mapDescriptor call cache).1 := by
    unfold map
    split <;> next same => rw [same]
  have size := importFrom_size call.driver call.msg call.msg.eventHandle
  rw [kept]
  unfold mapDescriptor MapCall.imports
  by_cases anonymous : call.msg.publisherPid = 0
  · simp [anonymous]
  by_cases acquired : call.acquired = false
  · simp [anonymous, acquired]
  by_cases allocated : call.referenceAllocated = false ∨ call.keyCopied = false
  · rcases allocated with reference | copy <;> simp [*]
  simp only [not_or, Bool.not_eq_false] at acquired allocated
  simp only [anonymous, acquired, allocated]
  cases present : cache.lookup call.msg.key with
  | some imported =>
    by_cases same : call.msg.key = key
    · simp [← same, present]
    · simp [same]
  | none =>
    cases opened : (VmmFdMemoryImporter.importFrom call.driver call.msg call.msg.eventHandle).2 with
    | none =>
      have failed : call.driver.succeeds call.msg = none := by simpa [opened] using size.symm
      simp [failed]
    | some resource =>
      have sized : (call.driver.succeeds call.msg).map (mappedSize call.msg.byteSize) =
          some resource.allocationSize := by simpa [opened] using size.symm
      cases call.inserted with
      | false => simp
      | true =>
        by_cases same : call.msg.key = key
        · simp [← same, present, lookup_emplace, anonymous, sized]
        · simp [lookup_emplace, same]

/-- The cache holds each key at the size its first importing call mapped. The proof adds the calls
one at a time and uses that a present key is never imported again. -/
theorem lookup_cacheAfter (calls : List MapCall) (key : IpcHandleKey) :
    ((cacheAfter calls).lookup key).map ImportedResources.allocationSize =
      firstMapped key calls := by
  induction calls using List.reverseRecOn with
  | nil => rfl
  | append_singleton calls call inductionHypothesis =>
    rw [cacheAfter_append, lookup_map, inductionHypothesis, firstMapped, firstMapped,
      List.findSome?_append]
    simp

end BufferMapper

end Ros2CudaIpc
