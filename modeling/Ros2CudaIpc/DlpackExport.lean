import Ros2CudaIpc.Reachability
import Ros2CudaIpc.ReadHandle

/-!
# Exporting an image through DLPack

An export allocates a context and a managed tensor, binds the publication, moves
the read handle to the heap under the context, and hands the managed tensor to a
new capsule. Until the capsule exists, local unique pointers own the allocations
and unwinding deletes what they still own. Afterwards the tensor's deleter
deletes the context and then the tensor; the capsule's destructor calls it for a
capsule nobody consumed.

Heap objects are numbered by their allocation, and the deletions are listed. An
object which is deleted again stays as it was, so that a second deletion by
another owner is listed and not hidden.
-/

namespace Ros2CudaIpc.DlpackExport

/-- The two deleters a managed tensor may carry, for the legacy and the versioned form. They
differ in the type they delete only. -/
inductive Deleter where
  | legacyDlpackDeleter
  | versionedDlpackDeleter
deriving DecidableEq, Repr

/-- An allocated DlpackExportContext, managed tensor or ReadHandle. The tensor's shape and strides
live in the context and are left out. -/
inductive HeapObject where
  | context (owner : Option Nat)
  | managed (versioned : Bool) (managerCtx : Option Nat) (deleter : Option Deleter)
  | readHandle (handle : ReadHandle)
deriving DecidableEq, Repr

/-- Objects by number, and the numbers deleted so far, the latest first. A number may be listed
more than once. -/
structure Heap where
  objects : List HeapObject
  deletions : List Nat
deriving DecidableEq, Repr

namespace Heap

/-- The heap with one more object; its number is the old number of objects. -/
def allocate (heap : Heap) (object : HeapObject) : Heap :=
  { heap with objects := heap.objects ++ [object] }

/-- Store a new value in an object which exists already; its number stays. -/
def store (heap : Heap) (number : Nat) (object : HeapObject) : Heap :=
  { heap with objects := heap.objects.set number object }

/-- `delete` of an object without owned members, a managed tensor or a read handle. -/
def delete (heap : Heap) (number : Nat) : Heap :=
  { heap with deletions := number :: heap.deletions }

/-- `delete` of a DlpackExportContext: its owner goes first, since the member is destroyed before
the memory is freed. -/
def deleteContext (heap : Heap) (number : Nat) : Heap :=
  match heap.objects[number]? with
  | some (.context (some owner)) => (heap.delete owner).delete number
  | _ => heap.delete number

/-- `legacy_dlpack_deleter` and `versioned_dlpack_deleter`: clear the manager context, delete it,
delete the tensor. Clearing it does not reach a unique pointer to the same context. -/
def callDeleter (heap : Heap) (number : Nat) : Heap :=
  match heap.objects[number]? with
  | some (.managed versioned managerCtx (some deleter)) =>
    let cleared := heap.store number (.managed versioned none (some deleter))
    match managerCtx with
    | none => cleared.delete number
    | some context => (cleared.deleteContext context).delete number
  | _ => heap

end Heap

/-- `PyDLPackImage::State`. An image leaves `available` once and never returns to it. -/
inductive ImageState where
  | available
  | consumed
  | closed
deriving DecidableEq, Repr

/-- A PyDLPackImage: the unbound publication and the adapter state. The publication is gone once
an export has bound it. -/
structure PyDLPackImage where
  publication : Option MappedPublication
  state : ImageState
deriving DecidableEq, Repr

/-- What an image operation raises. A MappingError and a ValueError carry the text the code gives
them. -/
inductive PyError where
  | mappingError (message : String)
  | valueError (message : String)
  | bufferError
  | badAlloc
  | capsuleError
deriving DecidableEq, Repr

/-- The name of a capsule: the two of this producer, or a consumer's, which marks it as used. -/
inductive CapsuleName where
  | dltensor
  | dltensorVersioned
  | used
deriving DecidableEq, Repr

/-- A live capsule and the managed tensor it points to. Its destructor looks at the name only. -/
structure Capsule where
  name : CapsuleName
  managed : Nat
deriving DecidableEq, Repr

/-- `ensure_available`: nothing for an available image, and otherwise the error which names the
attempted action. -/
def PyDLPackImage.ensureAvailable (image : PyDLPackImage) (action : String) : Option PyError :=
  match image.state with
  | .available => none
  | .consumed =>
    some (.mappingError ("cannot " ++ action ++ " after DLPack ownership was transferred"))
  | .closed => some (.mappingError ("cannot " ++ action ++ " after close"))

/-- The arguments of an export and the answers to its fallible steps, in the order in which the
code takes them. -/
structure ExportCall where
  streamPtr : Nat
  synchronize : Bool
  versioned : Bool
  projected : Bool
  contextAllocated : Bool
  managedAllocated : Bool
  bind : BindOutcomes
  ownerAllocated : Bool
  capsuleCreated : Bool
deriving DecidableEq, Repr

/-- The publication a binding works on; a null pointer has nothing to bind, like a publication
without a resource. -/
def PyDLPackImage.leased (image : PyDLPackImage) : MappedPublication :=
  image.publication.getD ⟨none, none, 0, 0⟩

/-- `make_bound` on the image's publication for the consumer's stream: what it leaves of the
publication, and the read handle. -/
def ExportCall.bound (call : ExportCall) (image : PyDLPackImage) :
    MappedPublication × Except Exception (Option ReadHandle) :=
  ReadHandleFactory.makeBound call.bind image.leased call.streamPtr

/-- The deleter of the requested form, which the managed tensor carries to its consumer. -/
def ExportCall.deleter (call : ExportCall) : Deleter :=
  if call.versioned then .versionedDlpackDeleter else .legacyDlpackDeleter

/-- The capsule name of the requested form, by which a consumer and the capsule's destructor know
it. -/
def ExportCall.capsuleName (call : ExportCall) : CapsuleName :=
  if call.versioned then .dltensorVersioned else .dltensor

/-- The part of `dlpack` behind the ownership commit, with the numbers of the
context and of the managed tensor. A failing capsule creation calls the deleter
and rethrows; unwinding then destroys `capsule_context`. -/
def publishCapsule (call : ExportCall) (heap : Heap) (context managed : Nat) :
    Heap × ImageState × Except PyError Capsule :=
  let owned := heap.store managed (.managed call.versioned (some context) (some call.deleter))
  if call.capsuleCreated = false then
    ((owned.callDeleter managed).deleteContext context, .closed, .error .capsuleError)
  else (owned, .consumed, .ok ⟨call.capsuleName, managed⟩)

/-- `PyDLPackImage::dlpack`: the heap and image it leaves, and its result. Unwinding destroys the
managed tensor before the context. -/
def PyDLPackImage.dlpack (image : PyDLPackImage) (call : ExportCall) (heap : Heap) :
    Heap × PyDLPackImage × Except PyError Capsule :=
  match image.ensureAvailable "export through DLPack" with
  | some error => (heap, image, .error error)
  | none =>
    if call.synchronize = false ∨ call.streamPtr = 0 then
      (heap, image, .error (.valueError
        "DLPack export requires a consumer CUDA stream; stream=-1 is not supported"))
    else if call.projected = false then (heap, image, .error .bufferError)
    else if call.contextAllocated = false then (heap, image, .error .badAlloc)
    else
      let context := heap.objects.length
      let withContext := heap.allocate (.context none)
      if call.managedAllocated = false then
        (withContext.deleteContext context, image, .error .badAlloc)
      else
        let managed := withContext.objects.length
        let withManaged := withContext.allocate (.managed call.versioned none none)
        let unwound := (withManaged.delete managed).deleteContext context
        match call.bound image with
        | (left, .error .badAlloc) =>
          (unwound, { image with publication := some left }, .error .badAlloc)
        | (left, .ok none) =>
          (unwound, { image with publication := some left },
            .error (.mappingError "failed to bind GpuImage to the DLPack consumer stream"))
        | (left, .ok (some read)) =>
          if call.ownerAllocated = false then
            (unwound, { image with publication := some left }, .error .badAlloc)
          else
            let owner := withManaged.objects.length
            let owned := (withManaged.allocate (.readHandle read)).store context
              (.context (some owner))
            let after := publishCapsule call owned context managed
            (after.1, ⟨none, after.2.1⟩, after.2.2)

/-- `PyDLPackImage::close`: the publication is dropped and its lease released. Only an available
image can be closed. -/
def PyDLPackImage.close (image : PyDLPackImage) : PyDLPackImage × Except PyError Unit :=
  match image.ensureAvailable "close" with
  | some error => (image, .error error)
  | none => (⟨none, .closed⟩, .ok ())

/-- `dlpack_capsule_destructor`: the deleter runs for a capsule nobody consumed. A consumer has
renamed the capsule it took. -/
def Heap.destroyCapsule (heap : Heap) (capsule : Capsule) : Heap :=
  match capsule.name with
  | .dltensor | .dltensorVersioned => heap.callDeleter capsule.managed
  | .used => heap

/-- An image, the live capsules, the managed tensors whose deleter a consumer
has yet to call, and the heap. -/
structure State where
  image : PyDLPackImage
  capsules : List Capsule
  consumers : List Nat
  heap : Heap
deriving DecidableEq, Repr

/-- What Python and the consumers of its capsules can do, in any order and for any capsule still
alive. -/
inductive Action where
  | dlpack (call : ExportCall)
  | close
  | consume (capsule : Nat)
  | callDeleter (consumer : Nat)
  | destroyCapsule (capsule : Nat)
deriving DecidableEq, Repr

/-- One action. A consumer renames an unconsumed capsule and calls the deleter of
its managed tensor once, before or after the capsule is destroyed. -/
def step (state : State) : Action → Option State
  | .dlpack call =>
    match state.image.dlpack call state.heap with
    | (heap, image, .error _) => some { state with heap := heap, image := image }
    | (heap, image, .ok capsule) =>
      some { state with heap := heap, image := image, capsules := state.capsules ++ [capsule] }
  | .close => some { state with image := state.image.close.1 }
  | .consume index =>
    match state.capsules[index]? with
    | none | some ⟨.used, _⟩ => none
    | some capsule =>
      some { state with
        capsules := state.capsules.set index ⟨.used, capsule.managed⟩
        consumers := state.consumers ++ [capsule.managed] }
  | .callDeleter index =>
    match state.consumers[index]? with
    | none => none
    | some managed =>
      some { state with
        consumers := state.consumers.eraseIdx index
        heap := state.heap.callDeleter managed }
  | .destroyCapsule index =>
    match state.capsules[index]? with
    | none => none
    | some capsule =>
      some { state with
        capsules := state.capsules.eraseIdx index
        heap := state.heap.destroyCapsule capsule }

/-- A constructed image over a valid publication, before any export: nothing is allocated and no
capsule is out. -/
def start (publication : MappedPublication) : State :=
  ⟨⟨some publication, .available⟩, [], [], ⟨[], []⟩⟩

/-- Every returned capsule has met its fate: it was destroyed unconsumed, or its consumer has
called the deleter. -/
def State.Settled (state : State) : Prop := state.capsules = [] ∧ state.consumers = []

/-- Every object ever allocated has been deleted exactly once: contexts, managed tensors and read
handles alike. -/
def State.DeletedOnce (state : State) : Prop :=
  ∀ number < state.heap.objects.length, state.heap.deletions.count number = 1

/-- An export whose capsule creation fails after the bind and the move of the
read handle have succeeded. -/
def CapsuleFails (state : State) : Action → Prop
  | .dlpack call =>
    state.image.state = .available ∧ call.synchronize = true ∧ call.streamPtr ≠ 0 ∧
      call.projected = true ∧ call.contextAllocated = true ∧ call.managedAllocated = true ∧
      (∃ left read, call.bound state.image = (left, .ok (some read))) ∧
      call.ownerAllocated = true ∧ call.capsuleCreated = false
  | _ => False

end Ros2CudaIpc.DlpackExport
