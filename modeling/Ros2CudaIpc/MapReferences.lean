import Ros2CudaIpc.BufferMapper
import Ros2CudaIpc.DeferredRelease
import Ros2CudaIpc.ImageReadHandle
import Ros2CudaIpc.MetadataCacheSafety
import Ros2CudaIpc.PointCloud2ReadHandle

/-!
# The reference of one mapped buffer

Mapping attaches the block's metadata, acquires a reference, imports the resource,
and moves both into a publication and from there into a read handle. The reference
is owned in turn by a BufferRef on the stack, a unique pointer, the publication and the
handle; whoever owns it at an exit gives it back. The updates of the counts which one call
performs are listed in their order.

Other threads and processes act between any two steps. What they leave at a
step is an input of it: the cached mappings, the metadata of the block at each
atomic operation, the imported resources. A mapping object belongs to the block it was
attached for. A call which has not returned, because the environment ends or a
weak exchange keeps failing, has no result.
-/

namespace Ros2CudaIpc.MapReferences

open Emplacement

/-- An update of the count of a metadata object by the call in question. -/
inductive CountUpdate where
  | added (object : Nat)
  | removed (object : Nat)
deriving DecidableEq, Repr

/-- A value whose BufferRef is on the metadata object of a number, which the source's pointers say
and the value does not. -/
structure Held (β : Type) where
  object : Nat
  value : β
deriving DecidableEq, Repr

/-- The block's metadata at an atomic operation, and whether a weak exchange fails
without a reason. -/
structure Moment where
  metadata : BlockMetadata
  spurious : Bool
deriving DecidableEq, Repr

/-- The block of a message, under which the metadata cache looks for its object. -/
def blockKey (msg : BufferCore) : BufferMetadataCache.Key := ⟨msg.publisherPid, msg.blockId⟩

/-- What one call of `map` meets. The cached mappings and the attached object belong to
the block they are under, and no block has two mappings. -/
structure Environment (msg : BufferCore) where
  blockOf : Nat → BufferMetadataCache.Key
  lookups : List (BufferMetadataCache.Answers × BufferMetadataCache.Mappings)
  moments : List Moment
  referenceAllocated : Bool
  keyCopied : Bool
  foundCache : BufferMapper.Cache
  importThrows : Bool
  driver : ImportOutcomes
  inserted : Bool
  insertCache : BufferMapper.Cache
  publicationAllocated : Bool
  bind : BindOutcomes
  unique : ∀ lookup ∈ lookups, UniqueKeys lookup.2
  cached : ∀ lookup ∈ lookups, ∀ key mapping, lookup.2.lookup key = some mapping →
    blockOf mapping = key
  attached : ∀ lookup ∈ lookups, ∀ candidate, lookup.1.attached = .ok (some candidate) →
    blockOf candidate = blockKey msg

/-- A `get_or_attach` call, step by step on what it meets. Without a further step to meet it has
not returned. -/
def getOrAttach (call : BufferMetadataCache.GetCall) :
    List (BufferMetadataCache.Answers × BufferMetadataCache.Mappings) →
      Option (Except Exception (Option Nat))
  | [] => none
  | (answers, mappings) :: rest =>
    match (call.step answers mappings).outcome with
    | .running following => getOrAttach following rest
    | .returned result => some result

/-- The update which one atomic operation made, read off the count before and behind it. -/
def countUpdates (object : Nat) (before after : BlockMetadata) : List CountUpdate :=
  if after.refcount = before.refcount then []
  else if after.refcount = before.refcount + 1 then [.added object]
  else [.removed object]

/-- An `acquire` call, step by step on the metadata it meets: its updates, and whether
its BufferRef is valid. -/
def acquire (object : Nat) (call : AcquireCall) : List Moment → List CountUpdate × Option Bool
  | [] => ([], none)
  | moment :: rest =>
    match call.step moment.spurious moment.metadata with
    | (after, .returned valid) => (countUpdates object moment.metadata after, some valid)
    | (after, .running following) =>
      let later := acquire object following rest
      (countUpdates object moment.metadata after ++ later.1, later.2)

variable {msg : BufferCore}

/-- The imported resource of the message, from the cache or from an import, or the exception of
the import. -/
def Environment.resource (environment : Environment msg) :
    Except Exception (Option ImportedResources) :=
  match environment.foundCache.lookup msg.key with
  | some imported => .ok (some imported)
  | none =>
    if environment.importThrows then .error .badAlloc
    else
      match (VmmFdMemoryImporter.importFrom environment.driver msg msg.eventHandle).2 with
      | none => .ok none
      | some opened =>
        if environment.inserted = false then .error .badAlloc
        else .ok ((emplace msg.key opened environment.insertCache).lookup msg.key)

/-- `map_descriptor` behind its acquired reference on an object: whoever owns the reference at an
exit gives it back. -/
def publish (environment : Environment msg) (object : Nat) :
    List CountUpdate × Except Exception (Option (Held MappedPublication)) :=
  if environment.referenceAllocated = false ∨ environment.keyCopied = false then
    ([.removed object], .error .badAlloc)
  else
    match environment.resource with
    | .error exception => ([.removed object], .error exception)
    | .ok none => ([.removed object], .ok none)
    | .ok (some imported) =>
      match ReadHandleFactory.makePublication environment.publicationAllocated (some imported)
          (some ⟨true, msg.uid.toNat⟩) msg.byteSize msg.deviceId.toInt32 with
      | .error exception => ([.removed object], .error exception)
      | .ok none => ([.removed object], .ok none)
      | .ok (some publication) => ([], .ok (some ⟨object, publication⟩))

/-- `map_descriptor`: its updates and its publication. A call which does not come to its end has
neither. -/
def mapDescriptor (environment : Environment msg) :
    Option (List CountUpdate × Except Exception (Option (Held MappedPublication))) :=
  if msg.publisherPid = 0 then some ([], .ok none)
  else
    match getOrAttach ⟨0, blockKey msg, msg.uid.toNat, .lookup⟩ environment.lookups with
    | none => none
    | some (.error exception) => some ([], .error exception)
    | some (.ok none) => some ([], .ok none)
    | some (.ok (some object)) =>
      match acquire object (.start msg.uid.toNat) environment.moments with
      | (_, none) => none
      | (updates, some false) => some (updates, .ok none)
      | (updates, some true) =>
        let after := publish environment object
        some (updates ++ after.1, after.2)

/-- The destruction of a publication gives back the reference it still owns; a moved-from one owns
none. -/
def destroyed (object : Nat) (publication : MappedPublication) : List CountUpdate :=
  match publication.bufferRef with
  | none => []
  | some reference => if reference.valid then [.removed object] else []

/-- `BufferMapper::map`: its updates and its handle. A failed binding destroys the publication,
and with it the reference. -/
def map (environment : Environment msg) (consumerStream : CUstream) :
    Option (List CountUpdate × Except Exception (Option (Held ReadHandle))) :=
  match mapDescriptor environment with
  | none => none
  | some (updates, .error exception) => some (updates, .error exception)
  | some (updates, .ok none) => some (updates, .ok none)
  | some (updates, .ok (some held)) =>
    match ReadHandleFactory.makeBound environment.bind held.value consumerStream with
    | (left, .error exception) => some (updates ++ destroyed held.object left, .error exception)
    | (left, .ok none) => some (updates ++ destroyed held.object left, .ok none)
    | (left, .ok (some handle)) =>
      some (updates ++ destroyed held.object left, .ok (some ⟨held.object, handle⟩))

/-- What a typed read leaves: the updates of its mapping, its result, and the read handle
it destroyed. -/
structure TypedRead (β : Type) where
  updates : List CountUpdate
  result : Except Exception (Option β)
  destroyed : Option (Held ReadHandle)

/-- A typed reader maps, and hands the read handle to `from_message`. Copying the
message's fields may throw; then, and when the message is rejected, the read handle
is destroyed. -/
def readWith {β : Type} (environment : Environment msg) (copied : Bool)
    (fromMessage : ReadHandle → Option β) (consumerStream : CUstream) : Option (TypedRead β) :=
  match map environment consumerStream with
  | none => none
  | some (updates, .error exception) => some ⟨updates, .error exception, none⟩
  | some (updates, .ok none) => some ⟨updates, .ok none, none⟩
  | some (updates, .ok (some mapped)) =>
    if copied = false then some ⟨updates, .error .badAlloc, some mapped⟩
    else
      match fromMessage mapped.value with
      | none => some ⟨updates, .ok none, some mapped⟩
      | some typed => some ⟨updates, .ok (some typed), none⟩

/-- `ImageReader::read`: the mapping of the core message, and the check of the image behind it. -/
def ImageReader.read (message : GpuImage) (environment : Environment message.core)
    (copied : Bool) (consumerStream : CUstream) : Option (TypedRead ImageReadHandle) :=
  readWith environment copied (ImageReadHandle.fromMessage message) consumerStream

/-- `PointCloud2Reader::read`: the mapping of the core message, and the check of the cloud behind
it. -/
def PointCloud2Reader.read (codes : PointFieldCodes) (message : GpuPointCloud2)
    (environment : Environment message.core) (copied : Bool) (consumerStream : CUstream) :
    Option (TypedRead PointCloud2ReadHandle) :=
  readWith environment copied (PointCloud2ReadHandle.fromMessage codes message) consumerStream

end Ros2CudaIpc.MapReferences
