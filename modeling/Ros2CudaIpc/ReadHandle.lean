import Ros2CudaIpc.BufferRef
import Ros2CudaIpc.MemoryImporter

/-!
# Publications and read handles

A mapped publication owns an imported resource and one reference on its block. Binding it
to a consumer stream moves both into a read handle, after everything which can
fail has succeeded: a failed binding leaves the publication as it was. The
outcome of each driver call and allocation is an input.
-/

namespace Ros2CudaIpc

/-- The one exception a successful program path can raise here, from an allocation. -/
inductive Exception where
  | badAlloc
deriving DecidableEq, Repr

/-- A stream handle of the driver, whose special values are ordinary numbers. -/
abbrev CUstream := Nat

/-- A completion event and the context it lives in, which has to be on top when the event is
destroyed. -/
structure CompletionEvent where
  context : CudaDeviceContext
  event : Nat
deriving DecidableEq, Repr

/-- `MappedPublication`: the resource and the reference, where a null pointer is `none`, and what
the message said. -/
structure MappedPublication where
  resource : Option ImportedResources
  bufferRef : Option BufferRef
  byteSize : UInt64
  deviceId : Int32
deriving DecidableEq, Repr

namespace MappedPublication

/-- `MappedPublication::valid`: a resource with a device pointer, and a reference. -/
def valid (publication : MappedPublication) : Bool :=
  match publication.resource with
  | none => false
  | some resource => resource.devPtr ≠ 0 && publication.bufferRef.isSome

end MappedPublication

/-- `ReadHandle::Impl`. The deferred item is allocated ahead of its use, so that a release need
not allocate it. -/
structure ReadHandle.Impl where
  resource : Option ImportedResources
  bufferRef : Option BufferRef
  deferredItem : Bool
  byteSize : UInt64
  deviceId : Int32
  consumerStream : CUstream
  completion : Option CompletionEvent
deriving DecidableEq, Repr

/-- `ReadHandle`: its state, or the null pointer of an empty or moved-from handle. -/
structure ReadHandle where
  impl : Option ReadHandle.Impl
deriving DecidableEq, Repr

namespace ReadHandle

/-- `ReadHandle::valid`: a resource with a device pointer, and a valid reference. -/
def valid (handle : ReadHandle) : Bool :=
  match handle.impl with
  | none => false
  | some impl =>
    match impl.resource with
    | none => false
    | some resource => resource.devPtr ≠ 0 && impl.bufferRef.isSome

/-- `ReadHandle::byte_size`, what the message claimed and not what is mapped. -/
def byteSize (handle : ReadHandle) : UInt64 :=
  match handle.impl with
  | none => 0
  | some impl => impl.byteSize

/-- `ReadHandle::device_ptr`; the null pointer is zero, also for a handle without a resource. -/
def devicePtr (handle : ReadHandle) : UInt64 :=
  match handle.impl.bind Impl.resource with
  | none => 0
  | some resource => resource.devPtr

/-- The allocation size of the resource a handle holds, which is what is mapped. -/
def allocationSize (handle : ReadHandle) : UInt64 :=
  match handle.impl.bind Impl.resource with
  | none => 0
  | some resource => resource.allocationSize

end ReadHandle

/-- What the driver and the allocator answer to one binding, in the order in which the code asks. -/
structure BindOutcomes where
  streamValid : Bool
  implAllocated : Bool
  itemAllocated : Bool
  eventCreated : Option Nat
  completionAllocated : Bool
  readyEnqueued : Bool
deriving DecidableEq, Repr

/-- Every answer of the driver and the allocator to one binding is good. -/
def BindOutcomes.AllGood (outcomes : BindOutcomes) : Prop :=
  outcomes.streamValid = true ∧ outcomes.implAllocated = true ∧ outcomes.itemAllocated = true ∧
    outcomes.eventCreated.isSome = true ∧ outcomes.completionAllocated = true ∧
    outcomes.readyEnqueued = true

namespace ReadHandleFactory

/-- `make_publication`: the publication is allocated only for a usable mapping
and a held reference. -/
def makePublication (allocated : Bool) (resource : Option ImportedResources)
    (bufferRef : Option BufferRef) (byteSize : UInt64) (deviceId : Int32) :
    Except Exception (Option MappedPublication) :=
  let publication : MappedPublication := ⟨resource, bufferRef, byteSize, deviceId⟩
  if publication.valid = false then .ok none
  else if allocated = false then .error .badAlloc
  else .ok (some publication)

/-- `create_completion_event`: no context needs no event, and a failed creation yields none. -/
def createCompletionEvent (outcomes : BindOutcomes) (context : Option CudaDeviceContext) :
    Except Exception (Option CompletionEvent) :=
  match context, outcomes.eventCreated with
  | none, _ | some _, none => .ok none
  | some context, some event =>
    if outcomes.completionAllocated = false then .error .badAlloc
    else .ok (some ⟨context, event⟩)

/-- `make_bound`: the publication it leaves behind, and its result. The stream
check and the ready wait need a context or an event to fail. -/
def makeBound (outcomes : BindOutcomes) (publication : MappedPublication)
    (consumerStream : CUstream) :
    MappedPublication × Except Exception (Option ReadHandle) :=
  match publication.resource with
  | none => (publication, .ok none)
  | some resource =>
    if publication.valid = false then (publication, .ok none)
    else if resource.context.isSome ∧ outcomes.streamValid = false then (publication, .ok none)
    else if outcomes.implAllocated = false ∨ outcomes.itemAllocated = false then
      (publication, .error .badAlloc)
    else
      match createCompletionEvent outcomes resource.context with
      | .error exception => (publication, .error exception)
      | .ok completion =>
        if resource.context.isSome ∧ completion = none then (publication, .ok none)
        else if (resource.context.isSome ∨ resource.event ≠ 0) ∧ outcomes.readyEnqueued = false then
          (publication, .ok none)
        else
          ({ publication with resource := none, bufferRef := none },
            .ok (some ⟨some ⟨some resource, publication.bufferRef, true, publication.byteSize,
              publication.deviceId, consumerStream, completion⟩⟩))

/-- Up to its commit a binding leaves the publication alone. Behind it the
resource and the reference of a valid publication are in the handle. -/
theorem makeBound_cases (outcomes : BindOutcomes) (publication : MappedPublication)
    (consumerStream : CUstream) :
    (∃ failure, (failure = .error .badAlloc ∨ failure = .ok none) ∧
      makeBound outcomes publication consumerStream = (publication, failure)) ∨
    (∃ resource completion, publication.valid = true ∧ publication.resource = some resource ∧
      makeBound outcomes publication consumerStream =
        ({ publication with resource := none, bufferRef := none },
          .ok (some ⟨some ⟨some resource, publication.bufferRef, true, publication.byteSize,
            publication.deviceId, consumerStream, completion⟩⟩))) := by
  cases held : publication.resource with
  | none => exact .inl ⟨.ok none, .inr rfl, by simp only [makeBound, held]⟩
  | some resource =>
    simp only [makeBound, held]
    split
    · exact .inl ⟨_, .inr rfl, rfl⟩
    next usable =>
    split
    · exact .inl ⟨_, .inr rfl, rfl⟩
    split
    · exact .inl ⟨_, .inl rfl, rfl⟩
    split
    · next exception _ => exact .inl ⟨_, .inl (by cases exception; rfl), rfl⟩
    next completion _ =>
    split
    · exact .inl ⟨_, .inr rfl, rfl⟩
    split
    · exact .inl ⟨_, .inr rfl, rfl⟩
    · exact .inr ⟨resource, completion, by simpa using usable, rfl, rfl⟩

/-- A bound handle holds the publication's resource and byte size, whatever the answers were. -/
theorem makeBound_handle {outcomes : BindOutcomes} {publication after : MappedPublication}
    {consumerStream : CUstream} {handle : ReadHandle}
    (bound : makeBound outcomes publication consumerStream = (after, .ok (some handle))) :
    handle.byteSize = publication.byteSize ∧
      ∃ resource, publication.resource = some resource ∧
        handle.allocationSize = resource.allocationSize := by
  obtain ⟨failure, failed, result⟩ | ⟨resource, completion, -, held, result⟩ :=
    makeBound_cases outcomes publication consumerStream
  · rw [bound] at result
    obtain ⟨-, rfl⟩ := Prod.mk.inj result
    simp at failed
  · rw [bound] at result
    simp only [Prod.mk.injEq, Except.ok.injEq, Option.some.injEq] at result
    obtain ⟨-, rfl⟩ := result
    exact ⟨rfl, resource, held, rfl⟩

/-- A valid publication is bound when every answer is good, to whichever stream. -/
theorem makeBound_succeeds {outcomes : BindOutcomes} {publication : MappedPublication}
    (consumerStream : CUstream) (good : outcomes.AllGood) (usable : publication.valid = true) :
    ∃ after handle,
      makeBound outcomes publication consumerStream = (after, .ok (some handle)) := by
  obtain ⟨streamValid, implAllocated, itemAllocated, eventCreated, completionAllocated,
    readyEnqueued⟩ := good
  obtain ⟨event, created⟩ := Option.isSome_iff_exists.mp eventCreated
  cases held : publication.resource with
  | none => simp [MappedPublication.valid, held] at usable
  | some resource =>
    cases inside : resource.context with
    | none =>
      simp [makeBound, createCompletionEvent, held, inside, usable, implAllocated, itemAllocated,
        readyEnqueued]
    | some context =>
      simp [makeBound, createCompletionEvent, held, inside, usable, streamValid, implAllocated,
        itemAllocated, created, completionAllocated, readyEnqueued]

end ReadHandleFactory

end Ros2CudaIpc
