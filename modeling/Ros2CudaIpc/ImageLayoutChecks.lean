import Ros2CudaIpc.DlpackExport
import Ros2CudaIpc.ImageReadHandle

/-!
# The three checks of an image layout

The Python boundary checks a descriptor before its buffer is mapped, the image
handle checks it against the mapped buffer, and the projection checks it again
before an export. The first takes the element size from the DLPack table, the
second from a table of its own, and the third adds conditions on the strides. With
one buffer size the first two agree, and the third is the strongest.
-/

namespace Ros2CudaIpc

open StridedLayout DlpackExport Dlpack

namespace ImageLayoutChecks

/-- `dtype_size` at the Python boundary: the bytes of an element by the DLPack table, or an error
which names the code. -/
def dtypeSize (dtype : UInt8) : Except PyError UInt32 :=
  match tensorDlDtype (DType.ofCode dtype) with
  | .ok dlDtype => .ok (dlDtype.bits / 8).toUInt32
  | .error _ =>
    .error (.valueError ("unsupported ros2_cuda_ipc image dtype " ++ toString dtype.toNat))

/-- `validate_image_descriptor`: the checks made before the buffer is mapped, against the
announced byte size. -/
def validateImageDescriptor (message : GpuImage) : Except PyError Unit :=
  match dtypeSize message.dtype with
  | .error error => .error error
  | .ok elementSize =>
    if ¬ NonzeroShape message.shape then
      .error (.valueError "GpuImage shape dimensions must all be non-zero")
    else
      let needed := wideNeeded message.shape message.strides elementSize
      if wideMax < needed ∨ wide message.core.byteSize.toNat < needed then
        .error (.valueError "GpuImage shape/strides exceed BufferCore.byte_size")
      else .ok ()

/-- `PyImageReadHandle::from_message` with a read which was mapped before: both validators, the
boundary's first. -/
def pyFromMessage (message : GpuImage) (read : ReadHandle) : Except PyError ImageReadHandle :=
  match validateImageDescriptor message with
  | .error error => .error error
  | .ok () =>
    match ImageReadHandle.fromMessage message read with
    | none => .error (.mappingError "GpuImage metadata was rejected after BufferMapper mapping")
    | some typed => .ok typed

variable {message : GpuImage} {read : ReadHandle}

/-- Both tables give every known dtype the same size, and no other a size. -/
theorem dtypeSize_eq (dtype : UInt8) :
    ((∃ error, dtypeSize dtype = .error error) ∧ (DType.ofCode dtype).elemSizeBytes = 0) ∨
      dtypeSize dtype = .ok (DType.ofCode dtype).elemSizeBytes ∧
        (DType.ofCode dtype).elemSizeBytes ≠ 0 := by
  unfold dtypeSize
  cases DType.ofCode dtype with
  | unnamed code => exact .inl ⟨⟨_, rfl⟩, rfl⟩
  | _ => exact .inr ⟨rfl, by decide⟩

/-- The boundary accepts a nonempty shape of a known dtype whose elements lie in
the announced buffer. -/
theorem validateImageDescriptor_iff (message : GpuImage) :
    validateImageDescriptor message = .ok () ↔
      NonzeroShape message.shape ∧ (DType.ofCode message.dtype).elemSizeBytes ≠ 0 ∧
        ElementsInside message.shape message.strides
          (DType.ofCode message.dtype).elemSizeBytes.toNat message.core.byteSize.toNat := by
  unfold validateImageDescriptor
  cases dtypeSize_eq message.dtype with
  | inl unknown =>
    obtain ⟨⟨error, failed⟩, unsized⟩ := unknown
    simp [failed, unsized]
  | inr known =>
    obtain ⟨found, sized⟩ := known
    simp only [found, sized, ne_eq, not_false_eq_true, true_and]
    by_cases nonzero : NonzeroShape message.shape
    · have fits := needed_fits nonzero message.strides
        (DType.ofCode message.dtype).elemSizeBytes message.core.byteSize
      simp only [nonzero, not_true_eq_false, if_false, true_and]
      rw [← fits, ← BitVec.not_lt, ← BitVec.not_lt, ← not_or]
      split
      · next exceeds => simp [exceeds]
      · next inside => simp [inside]
    · simp [nonzero]

/-- The boundary raises value errors only; a mapping error is left to what comes behind it. -/
theorem validate_raises_value {text : String} :
    validateImageDescriptor message ≠ .error (.mappingError text) := by
  intro raised
  unfold validateImageDescriptor at raised
  split at raised
  · next error failed =>
    obtain rfl := Except.error.inj raised
    unfold dtypeSize at failed
    split at failed
    · simp at failed
    · simp at failed
  · dsimp only at raised
    split at raised
    · simp at raised
    · split at raised
      · simp at raised
      · simp at raised

/-- The image handle makes the same check with the size of the read, so with one size the two
accept the same messages. -/
theorem checks_agree (valid : read.valid = true) (sized : read.byteSize = message.core.byteSize) :
    validateImageDescriptor message = .ok () ↔
      (ImageReadHandle.fromMessage message read).isSome = true := by
  rw [validateImageDescriptor_iff, ← sized, ImageReadHandle.fromMessage_isSome]
  simp [valid]

/-- A projection onto the announced buffer implies the check at the boundary: it makes the same
comparisons and more. -/
theorem validate_of_projected {data : UInt64} {deviceId : Int32} {tensor : ImageTensorDescriptor}
    (projected : projectToTensor (DType.ofCode message.dtype) message.shape message.strides data
      message.core.byteSize deviceId = .ok tensor) : validateImageDescriptor message = .ok () := by
  have conditions := projectToTensor_ok projected
  have nonzero := nonzero_of_axes conditions.axes
  rw [validateImageDescriptor_iff]
  refine ⟨nonzero, ?_, ?_⟩
  · intro unsized
    have sized := conditions.sized
    rw [unsized] at sized
    exact absurd sized (by decide)
  · rw [elementsInside_iff]
    intro index inside
    have before := offset_le_last inside
    have last := conditions.last
    omega

/-- For a valid read of the announced size the boundary and the handle accept the
same messages, so that no rejection comes after the mapping; and whatever pointer
the projection is given, it accepts no message they reject. -/
theorem layoutChecks_agree (message : GpuImage) (read : ReadHandle) (valid : read.valid = true)
    (sized : read.byteSize = message.core.byteSize) :
    (validateImageDescriptor message = .ok () ↔
      (ImageReadHandle.fromMessage message read).isSome = true) ∧
    (∀ text, pyFromMessage message read ≠ .error (.mappingError text)) ∧
    (∀ data deviceId tensor,
      projectToTensor (DType.ofCode message.dtype) message.shape message.strides data
          message.core.byteSize deviceId = .ok tensor →
        validateImageDescriptor message = .ok () ∧
          (ImageReadHandle.fromMessage message read).isSome = true) := by
  have agree := checks_agree valid sized
  refine ⟨agree, fun text raised => ?_, fun data deviceId tensor projected => ?_⟩
  · unfold pyFromMessage at raised
    split at raised
    · next error refused =>
      obtain rfl := Except.error.inj raised
      exact validate_raises_value refused
    · next accepted =>
      obtain ⟨typed, found⟩ := Option.isSome_iff_exists.mp (agree.mp accepted)
      simp [found] at raised
  · have accepted := validate_of_projected projected
    exact ⟨accepted, agree.mp accepted⟩

/-- Two rows of three 16-bit elements in a buffer of sixteen bytes pass all three. -/
theorem layoutChecks_agree_padded :
    let message : GpuImage := ⟨⟨0, 0, "camera"⟩, 1, #v[2, 3, 1], #v[8, 2, 0],
      ⟨[47], Vector.replicate 64 0, 7, 0, 3, 5, 16⟩, "mono16"⟩
    let read : ReadHandle :=
      ⟨some ⟨some ⟨0x100000, 1, some ⟨0⟩, 0x100000, 2, 4096⟩, some ⟨true, 5⟩, true, 16, 0, 9,
        some ⟨⟨0⟩, 4⟩⟩⟩
    (ImageReadHandle.fromMessage message read).isSome = true ∧
      ∀ text, pyFromMessage message read ≠ .error (.mappingError text) := by
  intro message read
  obtain ⟨-, unrejected, projected⟩ := layoutChecks_agree message read (by decide) (by decide)
  have tensor : projectToTensor .u16 #v[2, 3, 1] #v[8, 2, 0] 0x100000 16 0 =
      .ok ⟨0x100000, 0, 16, 0, 3, #v[2, 3, 1], #v[4, 1, 0], ⟨.kDLUInt, 16, 1⟩⟩ := by decide
  exact ⟨(projected _ _ _ tensor).2, unrejected⟩

end ImageLayoutChecks

end Ros2CudaIpc
