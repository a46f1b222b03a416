import Ros2CudaIpc.BufferMapper

/-!
# The bytes a read handle claims

Every handle of a run takes its byte size from its own message and its resource
from the cache as its call leaves it. The resource is as large as the first
message of the key made it, so a later message with a larger byte size claims
bytes nobody mapped. A first message whose rounding wraps does the same alone.
-/

namespace Ros2CudaIpc.BufferMapper

/-- A call whose byte size is covered: by what the first earlier importer of its
key mapped, or, for the first of its key, by a rounding which does not wrap. -/
def MapCall.Covered (before : List MapCall) (call : MapCall) : Prop :=
  match firstMapped call.msg.key before with
  | some size => call.msg.byteSize ≤ size
  | none => ∀ granularity, call.driver.granularity = some granularity →
      RoundsWithoutWrap call.msg.byteSize granularity

/-- Every handle a run returns claims at most the bytes its resource maps, whichever call imported
the resource. -/
def HandlesWithinMapping (calls : List MapCall) : Prop :=
  ∀ before call after handle, calls = before ++ call :: after →
    call.handle before = some handle → handle.byteSize ≤ handle.allocationSize

/-- A publication is only made of what the call was given: its own byte size, and the resource it
was handed. -/
theorem publish_some {call : MapCall} {imported : Option ImportedResources}
    {publication : MappedPublication} (published : call.publish imported = .ok (some publication)) :
    publication.byteSize = call.msg.byteSize ∧ publication.resource = imported := by
  unfold MapCall.publish ReadHandleFactory.makePublication at published
  simp only at published
  split at published
  · simp at published
  split at published
  · simp at published
  simp only [Except.ok.injEq, Option.some.injEq] at published
  subst published
  exact ⟨rfl, rfl⟩

/-- A descriptor's publication has the message's byte size and the resource the
cache holds for its key when the call ends. -/
theorem mapDescriptor_some {call : MapCall} {cache after : Cache}
    {publication : MappedPublication}
    (mapped : mapDescriptor call cache = (after, .ok (some publication))) :
    publication.byteSize = call.msg.byteSize ∧
      publication.resource = after.lookup call.msg.key := by
  unfold mapDescriptor at mapped
  split at mapped
  · simp at mapped
  split at mapped
  · simp at mapped
  split at mapped
  · simp at mapped
  split at mapped
  · next imported found =>
    obtain ⟨rfl, published⟩ := Prod.mk.inj mapped
    rw [found]
    exact publish_some published
  · split at mapped
    · simp at mapped
    · split at mapped
      · simp at mapped
      · obtain ⟨rfl, published⟩ := Prod.mk.inj mapped
        exact publish_some published

/-- A returned handle claims its message's byte size over the resource which the
first importer of its key mapped, itself included. -/
theorem handle_sizes {before : List MapCall} {call : MapCall} {handle : ReadHandle}
    (returned : call.handle before = some handle) :
    handle.byteSize = call.msg.byteSize ∧
      firstMapped call.msg.key (before ++ [call]) = some handle.allocationSize := by
  have stored := lookup_cacheAfter (before ++ [call]) call.msg.key
  rw [cacheAfter_append] at stored
  unfold MapCall.handle map at returned
  unfold map at stored
  cases mapped : mapDescriptor call (cacheAfter before) with
  | mk after result =>
    rw [mapped] at returned stored
    cases result with
    | error exception => simp at returned
    | ok publication =>
      cases publication with
      | none => simp at returned
      | some publication =>
        obtain ⟨sized, held⟩ := mapDescriptor_some mapped
        simp only at returned stored
        cases bound : ReadHandleFactory.makeBound call.bind publication call.consumerStream with
        | mk left result =>
          rw [bound] at returned
          cases result with
          | error exception => simp at returned
          | ok answer =>
            cases answer with
            | none => simp at returned
            | some answer =>
              simp only [Option.some.injEq] at returned
              subst returned
              obtain ⟨same, resource, owned, allocated⟩ :=
                ReadHandleFactory.makeBound_handle bound
              refine ⟨same.trans sized, ?_⟩
              rw [← stored, ← held, owned, allocated]
              rfl

/-- The first importer of a key keeps its size when the run goes on. -/
theorem firstMapped_append (key : IpcHandleKey) (before : List MapCall) (call : MapCall) :
    firstMapped key (before ++ [call]) = (firstMapped key before).or
      (if call.msg.key = key then call.imports.map (mappedSize call.msg.byteSize) else none) := by
  rw [firstMapped, List.findSome?_append]
  simp [firstMapped]

/-- An import which reaches the cache learned its granularity from the driver, so the mapped size
is a multiple of it. -/
theorem imports_granularity {call : MapCall} {granularity : UInt64}
    (imported : call.imports = some granularity) :
    call.driver.granularity = some granularity := by
  unfold MapCall.imports ImportOutcomes.succeeds at imported
  split at imported
  · split at imported
    · exact imported
    · simp at imported
  · simp at imported

/-- One returned handle stays within its mapping exactly when its call is covered by the calls
before it. -/
theorem handle_within_iff {before : List MapCall} {call : MapCall} {handle : ReadHandle}
    (returned : call.handle before = some handle) :
    handle.byteSize ≤ handle.allocationSize ↔ call.Covered before := by
  obtain ⟨claimed, mapped⟩ := handle_sizes returned
  rw [firstMapped_append, if_pos rfl] at mapped
  unfold MapCall.Covered
  cases earlier : firstMapped call.msg.key before with
  | some size =>
    rw [earlier] at mapped
    obtain rfl := Option.some.inj mapped
    simp only [claimed]
  | none =>
    rw [earlier, Option.none_or] at mapped
    cases imported : call.imports with
    | none => simp [imported] at mapped
    | some granularity =>
      rw [imported, Option.map_some, Option.some.injEq] at mapped
      simp only [imports_granularity imported, Option.some.injEq, forall_eq', claimed, ← mapped]
      exact le_mappedSize_iff call.msg.byteSize granularity

/-- A run's handles stay within their mappings exactly when every call which
returns one is covered. -/
theorem handlesWithinMapping_iff (calls : List MapCall) : HandlesWithinMapping calls ↔
    ∀ before call after, calls = before ++ call :: after → (call.handle before).isSome →
      call.Covered before := by
  constructor
  · intro within before call after split returns
    obtain ⟨handle, returned⟩ := Option.isSome_iff_exists.mp returns
    exact (handle_within_iff returned).mp (within before call after handle split returned)
  · intro covered before call after handle split returned
    apply (handle_within_iff returned).mpr
    exact covered before call after split (Option.isSome_of_mem returned)

/-- A call every step of which succeeds, with the granularity of 2 MiB and a given byte size. -/
def successfulCall (byteSize : UInt64) : MapCall where
  msg := ⟨[47], Vector.replicate 64 7, 42, 0, 0, 2, byteSize⟩
  consumerStream := 0
  acquired := true
  referenceAllocated := true
  keyCopied := true
  driver := ⟨some 3, some ⟨0⟩, true, some 9, some 2097152, some 4096, true, true, some 5⟩
  inserted := true
  publicationAllocated := true
  bind := ⟨true, true, true, some 6, true, true⟩

/-- A second message of the same key which claims 3 MiB gets the first message's
2 MiB mapping. -/
theorem handle_outgrows_mapping : ¬ ∀ calls, HandlesWithinMapping calls := by
  intro claimed
  have second : (successfulCall 3145728).handle [successfulCall 1] =
      some ⟨some ⟨some ⟨4096, 5, some ⟨0⟩, 4096, 9, 2097152⟩, some ⟨true, 2⟩, true, 3145728, 0, 0,
        some ⟨⟨0⟩, 6⟩⟩⟩ := by decide
  have within := claimed [successfulCall 1, successfulCall 3145728] [successfulCall 1]
    (successfulCall 3145728) [] _ rfl second
  revert within
  decide

end Ros2CudaIpc.BufferMapper
