import Mathlib.Algebra.Group.Nat.Defs

/-!
# Importing one block's memory

A subscriber imports a block through a sequence of driver calls. The file
descriptor arrives over the publisher's socket; allocation, address range,
mapping, access and ready event follow in that order, and every failing call
gives back what the earlier ones acquired. The outcome of each call is an input
here, since it is decided outside the process.

The mapped size is the message's byte size rounded up to the allocation
granularity in 64-bit arithmetic. The rounding covers the request exactly when
its sum does not wrap.
-/

namespace Ros2CudaIpc

/-- The fields of a BufferCore message. A path is its bytes, and the event handle its 64 ones. -/
structure BufferCore where
  vmmSocketPath : List UInt8
  eventHandle : Vector UInt8 64
  publisherPid : UInt32
  deviceId : UInt32
  blockId : UInt32
  uid : UInt64
  byteSize : UInt64
deriving DecidableEq, Repr

/-- A retained primary context, of the device it belongs to. -/
structure CudaDeviceContext where
  deviceId : Int32
deriving DecidableEq, Repr

/-- The imported mapping and its ready event, with the context and the sizes their release needs. -/
structure ImportedResources where
  devPtr : UInt64
  event : Nat
  context : Option CudaDeviceContext
  vmmAddress : UInt64
  vmmAllocation : Nat
  allocationSize : UInt64
deriving DecidableEq, Repr

/-- `sizeof(sockaddr_un::sun_path)`, the terminating zero included. -/
def sunPathSize : Nat := 108

/-- `align_up_size` in 64-bit arithmetic, in which the sum may wrap. -/
def alignUpSize (value alignment : UInt64) : UInt64 :=
  if alignment = 0 then value
  else if value % alignment = 0 then value
  else value + alignment - value % alignment

/-- The size `import` maps: the rounded byte size, or one granule when the rounding yields zero. -/
def mappedSize (byteSize granularity : UInt64) : UInt64 :=
  if alignUpSize byteSize granularity = 0 then granularity
  else alignUpSize byteSize granularity

/-- The rounding adds without leaving 64 bits, or has nothing to add. -/
def RoundsWithoutWrap (value alignment : UInt64) : Prop :=
  alignment = 0 ∨ value % alignment = 0 ∨
    value.toNat + alignment.toNat - value.toNat % alignment.toNat < 2 ^ 64

instance (value alignment : UInt64) : Decidable (RoundsWithoutWrap value alignment) :=
  inferInstanceAs (Decidable (_ ∨ _ ∨ _))

/-- A request which is not a multiple of the granularity is rounded to the next
multiple modulo the word. -/
theorem alignUpSize_toNat (value alignment : UInt64) (nonzero : alignment ≠ 0)
    (remains : value % alignment ≠ 0) : (alignUpSize value alignment).toNat =
      (value.toNat + alignment.toNat - value.toNat % alignment.toNat) % 2 ^ 64 := by
  have positive : 0 < alignment.toNat := by
    have other : alignment.toNat ≠ 0 := fun zero => nonzero (UInt64.toNat_inj.mp zero)
    omega
  have smaller : value.toNat % alignment.toNat < alignment.toNat := Nat.mod_lt _ positive
  have sized : alignment.toNat < 2 ^ 64 := alignment.toNat_lt
  unfold alignUpSize
  rw [if_neg nonzero, if_neg remains, UInt64.toNat_sub, UInt64.toNat_add, UInt64.toNat_mod]
  omega

/-- The mapped size covers the request exactly when the rounding does not wrap. A wrapped sum lies
below the request, and so does the granule put in place of a sum which wrapped to zero.

Proof: a request below the granule would round to the granule itself, not to zero. -/
theorem le_mappedSize_iff (byteSize granularity : UInt64) :
    byteSize ≤ mappedSize byteSize granularity ↔ RoundsWithoutWrap byteSize granularity := by
  by_cases zero : granularity = 0
  · subst zero
    have same : mappedSize byteSize 0 = byteSize := by
      unfold mappedSize alignUpSize
      simp only [if_true]
      split
      · next empty => exact empty.symm
      · rfl
    exact iff_of_true (by rw [same]; exact UInt64.le_refl _) (.inl rfl)
  by_cases whole : byteSize % granularity = 0
  · refine iff_of_true ?_ (.inr (.inl whole))
    unfold mappedSize alignUpSize
    simp only [zero, whole, if_true, if_false]
    split
    · next empty => exact empty ▸ UInt64.zero_le
    · exact UInt64.le_refl _
  have rounded := alignUpSize_toNat byteSize granularity zero whole
  have positive : 0 < granularity.toNat := by
    have other : granularity.toNat ≠ 0 := fun empty => zero (UInt64.toNat_inj.mp empty)
    omega
  have smaller : byteSize.toNat % granularity.toNat < granularity.toNat := Nat.mod_lt _ positive
  have below : byteSize.toNat % granularity.toNat ≤ byteSize.toNat := Nat.mod_le _ _
  have requested : byteSize.toNat < 2 ^ 64 := byteSize.toNat_lt
  have granule : granularity.toNat < 2 ^ 64 := granularity.toNat_lt
  have fits : RoundsWithoutWrap byteSize granularity ↔
      byteSize.toNat + granularity.toNat - byteSize.toNat % granularity.toNat < 2 ^ 64 := by
    simp [RoundsWithoutWrap, zero, whole]
  have small : byteSize.toNat < granularity.toNat →
      byteSize.toNat % granularity.toNat = byteSize.toNat := Nat.mod_eq_of_lt
  have distinct : byteSize.toNat ≠ granularity.toNat := by
    intro equal
    refine whole (UInt64.toNat_inj.mp ?_)
    rw [UInt64.toNat_mod, equal, Nat.mod_self]
    rfl
  rw [fits, UInt64.le_iff_toNat_le]
  generalize byteSize.toNat % granularity.toNat = remainder at *
  obtain ⟨sum, same⟩ : ∃ sum, byteSize.toNat + granularity.toNat - remainder = sum := ⟨_, rfl⟩
  rw [same] at rounded ⊢
  unfold mappedSize
  split
  · next empty =>
    have wrapped : sum % 2 ^ 64 = 0 := by
      rw [← rounded, empty]
      rfl
    omega
  · rw [rounded]
    omega

/-- What the driver and the publisher's socket answer to one import, in the order in which the
code asks. -/
structure ImportOutcomes where
  fd : Option Nat
  context : Option CudaDeviceContext
  pushed : Bool
  allocation : Option Nat
  granularity : Option UInt64
  address : Option UInt64
  mapped : Bool
  accessible : Bool
  event : Option Nat
deriving DecidableEq, Repr

/-- The calls an import makes on what it acquires, and the query of the granularity in between. -/
inductive DriverCall where
  | closeFd (fd : Nat)
  | memImportFromShareableHandle (fd : Nat)
  | memGetAllocationGranularity (deviceId : Int32)
  | memAddressReserve (size : UInt64)
  | memMap (address size : UInt64) (allocation : Nat)
  | memSetAccess (address size : UInt64)
  | ipcOpenEventHandle (handle : Vector UInt8 64)
  | memUnmap (address size : UInt64)
  | memAddressFree (address size : UInt64)
  | memRelease (allocation : Nat)
deriving DecidableEq, Repr

namespace VmmFdMemoryImporter

/-- The part of `import` which holds an allocation: reserve, map and open the
address range, then the ready event. Each exit lists its calls. -/
def mapAllocation (outcomes : ImportOutcomes) (eventHandle : Vector UInt8 64)
    (context : CudaDeviceContext) (allocation : Nat) (size : UInt64) :
    List DriverCall × Option ImportedResources :=
  match outcomes.address with
  | none => ([.memAddressReserve size, .memRelease allocation], none)
  | some address =>
    if outcomes.mapped = false then
      ([.memAddressReserve size, .memMap address size allocation, .memAddressFree address size,
        .memRelease allocation], none)
    else if outcomes.accessible = false then
      ([.memAddressReserve size, .memMap address size allocation, .memSetAccess address size,
        .memUnmap address size, .memAddressFree address size, .memRelease allocation], none)
    else
      match outcomes.event with
      | none =>
        ([.memAddressReserve size, .memMap address size allocation, .memSetAccess address size,
          .ipcOpenEventHandle eventHandle, .memUnmap address size, .memAddressFree address size,
          .memRelease allocation], none)
      | some event =>
        ([.memAddressReserve size, .memMap address size allocation, .memSetAccess address size,
          .ipcOpenEventHandle eventHandle],
          some ⟨address, event, some context, address, allocation, size⟩)

/-- `VmmFdMemoryImporter::import`: its driver calls in order, and its result. Each failure undoes
what came before it. -/
def importFrom (outcomes : ImportOutcomes) (msg : BufferCore) (eventHandle : Vector UInt8 64) :
    List DriverCall × Option ImportedResources :=
  if sunPathSize ≤ msg.vmmSocketPath.length then ([], none)
  else
    match outcomes.fd with
    | none => ([], none)
    | some fd =>
      match outcomes.context with
      | none => ([.closeFd fd], none)
      | some context =>
        if outcomes.pushed = false then ([.closeFd fd], none)
        else
          match outcomes.allocation with
          | none => ([.memImportFromShareableHandle fd, .closeFd fd], none)
          | some allocation =>
            let opened := [.memImportFromShareableHandle fd, .closeFd fd,
              .memGetAllocationGranularity msg.deviceId.toInt32]
            match outcomes.granularity with
            | none => (opened ++ [.memRelease allocation], none)
            | some granularity =>
              let rest := mapAllocation outcomes eventHandle context allocation
                (mappedSize msg.byteSize granularity)
              (opened ++ rest.1, rest.2)

end VmmFdMemoryImporter

/-- The granularity of an import whose every step succeeds, and nothing for any other. -/
def ImportOutcomes.succeeds (outcomes : ImportOutcomes) (msg : BufferCore) : Option UInt64 :=
  if msg.vmmSocketPath.length < sunPathSize ∧ outcomes.fd.isSome ∧ outcomes.context.isSome ∧
      outcomes.pushed ∧ outcomes.allocation.isSome ∧ outcomes.address.isSome ∧
      outcomes.mapped ∧ outcomes.accessible ∧ outcomes.event.isSome then
    outcomes.granularity
  else none

/-- An import returns resources exactly when every step succeeds, and their
allocation size is the size it reserved and mapped. -/
theorem importFrom_size (outcomes : ImportOutcomes) (msg : BufferCore)
    (eventHandle : Vector UInt8 64) :
    (VmmFdMemoryImporter.importFrom outcomes msg eventHandle).2.map
        ImportedResources.allocationSize =
      (outcomes.succeeds msg).map (mappedSize msg.byteSize) := by
  obtain ⟨fd, context, pushed, allocation, granularity, address, mapped, accessible, event⟩ :=
    outcomes
  simp only [VmmFdMemoryImporter.importFrom, ImportOutcomes.succeeds, ← Nat.not_le]
  by_cases long : sunPathSize ≤ msg.vmmSocketPath.length
  · simp [long]
  cases fd with
  | none => simp [long]
  | some fd =>
    cases context with
    | none => simp [long]
    | some context =>
      cases allocation with
      | none => cases pushed <;> simp [long]
      | some allocation =>
        cases granularity with
        | none => cases pushed <;> simp [long]
        | some granularity =>
          cases address <;> cases event <;> cases pushed <;> cases mapped <;> cases accessible <;>
            simp [long, VmmFdMemoryImporter.mapAllocation]

end Ros2CudaIpc
