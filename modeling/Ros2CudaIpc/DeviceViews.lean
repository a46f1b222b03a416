import Ros2CudaIpc.PointCloud2ReadHandle
import Mathlib.Data.Set.Basic

/-!
# Views for kernels

A validated handle hands a kernel a flat view: the pointer, the strides or steps,
and the dimensions as `int`. The messages' dimensions are 32-bit words without a
sign, and the checks bound the bytes they address, not the dimensions: with a stride
or a step of zero the largest word fits a buffer of one byte. The conversion keeps a
dimension exactly below 2^31.

A cloud's view also publishes rows of `row_step` bytes. The check asks for the cells
of the last row only, so a buffer may end inside the padding behind them.
-/

namespace Ros2CudaIpc

/-- `static_cast<uint8_t>` of a dtype: the value its enumerator is declared with. -/
def DType.code : DType → UInt8
  | .u8 => 0
  | .u16 => 1
  | .f16 => 2
  | .f32 => 3
  | .f64 => 4
  | .s16 => 5
  | .s32 => 6
  | .u32 => 7
  | .unnamed code => code

/-- The conversion of a code to a dtype and back keeps it, also for a code outside the
enumeration. -/
theorem DType.code_ofCode (code : UInt8) : (DType.ofCode code).code = code := by
  unfold DType.ofCode
  repeat' split
  all_goals simp_all [DType.code]

/-- `static_cast<int>` of a dimension keeps its value below 2^31, and is negative
from there on. -/
theorem toInt32_toInt (extent : UInt32) : extent.toInt32.toInt =
    if extent.toNat < 2 ^ 31 then (extent.toNat : Int) else extent.toNat - 2 ^ 32 := by
  have sized := extent.toNat_lt
  have same : extent.toBitVec.toNat = extent.toNat := rfl
  change extent.toBitVec.toInt = _
  rw [BitVec.toInt_eq_toNat_cond, same]
  split <;> split <;> omega

/-- A converted dimension is its own value exactly below 2^31. From there on the conversion wraps
to a negative number. -/
theorem toInt32_eq_iff (extent : UInt32) :
    extent.toInt32.toInt = extent.toNat ↔ extent.toNat < 2 ^ 31 := by
  rw [toInt32_toInt]
  split <;> omega

/-- No converted dimension is larger than its word, so a view never has a kernel visit more than
the check validated. -/
theorem toInt32_le (extent : UInt32) : extent.toInt32.toInt ≤ extent.toNat := by
  rw [toInt32_toInt]
  split <;> omega

/-- A read of a number of bytes, bound on device zero over an imported mapping with a context. -/
def boundRead (byteSize : UInt64) : ReadHandle :=
  ⟨some ⟨some ⟨0x100000, 1, some ⟨0⟩, 0x100000, 2, 4096⟩, some ⟨true, 5⟩, true, byteSize, 0, 9,
    some ⟨⟨0⟩, 4⟩⟩⟩

namespace ImageReadHandle

/-- `ImageReadHandle::DeviceView`: the pointer, the dimensions as `int`, the strides in bytes, and
the code of the dtype. -/
structure DeviceView where
  data : UInt64
  height : Int32
  width : Int32
  channels : Int32
  strideH : UInt64
  strideW : UInt64
  strideC : UInt64
  dtype : UInt8
deriving DecidableEq, Repr

/-- `ImageReadHandle::as_device_view`, with the conversions of the dimensions to `int` which the
source writes out. -/
def asDeviceView (image : ImageReadHandle) : DeviceView :=
  { data := image.read.devicePtr
    height := image.rows.toInt32
    width := image.cols.toInt32
    channels := image.channels.toInt32
    strideH := image.strideH
    strideW := image.strideW
    strideC := image.strideC
    dtype := image.dtype.code }

/-- The rows, columns and channels a kernel visits: those below the view's dimensions, none when
one of them is negative. -/
def DeviceView.elements (view : DeviceView) : Set (Nat × Nat × Nat) :=
  {element | (element.1 : Int) < view.height.toInt ∧ (element.2.1 : Int) < view.width.toInt ∧
    (element.2.2 : Int) < view.channels.toInt}

/-- Where a kernel finds an element, in bytes from the start of the data, by the strides of the
view. -/
def DeviceView.offset (view : DeviceView) (element : Nat × Nat × Nat) : Nat :=
  element.1 * view.strideH.toNat + element.2.1 * view.strideW.toNat +
    element.2.2 * view.strideC.toNat

/-- The rows, columns and channels the check validated: those below the handle's own dimensions. -/
def elements (image : ImageReadHandle) : Set (Nat × Nat × Nat) :=
  {element | element.1 < image.rows.toNat ∧ element.2.1 < image.cols.toNat ∧
    element.2.2 < image.channels.toNat}

/-- What an image's view owes the kernel: the positive dimensions of the handle, and
exactly the validated elements, each inside the buffer. -/
structure ViewFaithful (image : ImageReadHandle) : Prop where
  height : 0 < image.asDeviceView.height.toInt ∧
    image.asDeviceView.height.toInt = image.rows.toNat
  width : 0 < image.asDeviceView.width.toInt ∧
    image.asDeviceView.width.toInt = image.cols.toNat
  channels : 0 < image.asDeviceView.channels.toInt ∧
    image.asDeviceView.channels.toInt = image.channels.toNat
  elements : image.asDeviceView.elements = image.elements
  inside : ∀ element ∈ image.asDeviceView.elements,
    image.asDeviceView.offset element + image.dtype.elemSizeBytes.toNat ≤
      image.read.byteSize.toNat

/-- An accepted message's handle is the copy of it, and passes its own check. -/
theorem fromMessage_accepts {message : GpuImage} {read : ReadHandle} {image : ImageReadHandle}
    (accepted : fromMessage message read = some image) :
    image.shape = message.shape ∧ image.sanityCheck = true := by
  simp only [fromMessage] at accepted
  split at accepted
  · simp at accepted
  · next passes =>
    obtain rfl := Option.some.inj accepted
    exact ⟨rfl, by simpa using passes⟩

/-- The view of a checked image is faithful exactly when its dimensions are `int`s. -/
theorem viewFaithful_iff {image : ImageReadHandle} (checked : image.sanityCheck = true) :
    image.ViewFaithful ↔ IntShape image.shape := by
  obtain ⟨nonzero, inside⟩ := sanityCheck_elements checked
  constructor
  · intro faithful
    exact ⟨(toInt32_eq_iff _).mp faithful.height.2, (toInt32_eq_iff _).mp faithful.width.2,
      (toInt32_eq_iff _).mp faithful.channels.2⟩
  · intro ints
    have height : image.asDeviceView.height.toInt = image.rows.toNat :=
      (toInt32_eq_iff _).mpr ints.1
    have width : image.asDeviceView.width.toInt = image.cols.toNat :=
      (toInt32_eq_iff _).mpr ints.2.1
    have channels : image.asDeviceView.channels.toInt = image.channels.toNat :=
      (toInt32_eq_iff _).mpr ints.2.2
    have elements : image.asDeviceView.elements = image.elements := by
      ext element
      simp only [DeviceView.elements, ImageReadHandle.elements, height, width, channels,
        Int.ofNat_lt]
    refine ⟨⟨by omega, height⟩, ⟨by omega, width⟩, ⟨by omega, channels⟩, elements, ?_⟩
    intro element member
    rw [elements] at member
    exact inside element.1 element.2.1 element.2.2 member.1 member.2.1 member.2.2

end ImageReadHandle

namespace PointCloud2ReadHandle

/-- `PointCloud2ReadHandle::DeviceView`: the pointer, the dimensions as `int`, and the steps. The
fields are the caller's array. -/
structure DeviceView where
  data : UInt64
  width : Int32
  height : Int32
  pointStep : UInt64
  rowStep : UInt64
  isDense : Bool
  fields : UInt64
  numFields : Int32
deriving DecidableEq, Repr

/-- `PointCloud2ReadHandle::as_device_view`, with the conversions of the dimensions to `int` which
the source writes out. -/
def asDeviceView (cloud : PointCloud2ReadHandle) (deviceFields : UInt64) (count : Int32) :
    DeviceView :=
  { data := cloud.read.devicePtr
    width := cloud.width.toInt32
    height := cloud.height.toInt32
    pointStep := cloud.pointStep.toUInt64
    rowStep := cloud.rowStep.toUInt64
    isDense := cloud.isDense
    fields := deviceFields
    numFields := count }

/-- What a cloud's view owes the kernel: the dimensions of the handle, none of them negative. A
cloud may be empty. -/
structure ViewFaithful (cloud : PointCloud2ReadHandle) (view : DeviceView) : Prop where
  width : 0 ≤ view.width.toInt ∧ view.width.toInt = cloud.width.toNat
  height : 0 ≤ view.height.toInt ∧ view.height.toInt = cloud.height.toNat

/-- A cloud's view is faithful exactly when both dimensions are `int`s. No check of the handle
bounds them. -/
theorem viewFaithful_iff (cloud : PointCloud2ReadHandle) (deviceFields : UInt64) (count : Int32) :
    cloud.ViewFaithful (cloud.asDeviceView deviceFields count) ↔
      cloud.width.toNat < 2 ^ 31 ∧ cloud.height.toNat < 2 ^ 31 := by
  rw [← toInt32_eq_iff, ← toInt32_eq_iff]
  constructor
  · intro faithful
    exact ⟨faithful.width.2, faithful.height.2⟩
  · intro kept
    obtain ⟨width, height⟩ := kept
    refine ⟨⟨?_, width⟩, ⟨?_, height⟩⟩
    · change 0 ≤ cloud.width.toInt32.toInt
      omega
    · change 0 ≤ cloud.height.toInt32.toInt
      omega

/-- The payload holds `height` rows of `row_step` bytes, and a walk over the rows of
a view stays inside it. -/
structure WholeRows (cloud : PointCloud2ReadHandle) (view : DeviceView) : Prop where
  payload : cloud.rowStep.toNat * cloud.height.toNat ≤ cloud.read.byteSize.toNat
  walk : ∀ row : Nat, (row : Int) < view.height.toInt →
    row * view.rowStep.toNat + view.rowStep.toNat ≤ cloud.read.byteSize.toNat

/-- The rows of an accepted cloud are whole as soon as the payload holds them all: a walk
takes no more rows than there are, whatever the view makes of a height above 2^31. -/
theorem wholeRows_of_payload {cloud : PointCloud2ReadHandle} (deviceFields : UInt64)
    (count : Int32)
    (payload : cloud.rowStep.toNat * cloud.height.toNat ≤ cloud.read.byteSize.toNat) :
    cloud.WholeRows (cloud.asDeviceView deviceFields count) := by
  refine ⟨payload, fun row inside => ?_⟩
  have bounded : (row : Int) < cloud.height.toNat :=
    Int.lt_of_lt_of_le inside (toInt32_le cloud.height)
  have covers : (row + 1) * cloud.rowStep.toNat ≤ cloud.height.toNat * cloud.rowStep.toNat :=
    Nat.mul_le_mul_right _ (by omega)
  rw [Nat.succ_mul, Nat.mul_comm cloud.height.toNat] at covers
  exact Nat.le_trans covers payload

/-- What the check asks of the buffer: all rows but the last, and the last one's cells. -/
def cellBytes (message : GpuPointCloud2) : Nat :=
  message.rowStep.toNat * (message.height.toNat - 1) +
    message.pointStep.toNat * message.width.toNat

/-- The rows of a checked message need as much as the check asks for, and the padding
of one row. -/
theorem rows_eq_cellBytes {codes : PointFieldCodes} {message : GpuPointCloud2}
    {read : ReadHandle} (checked : Checked codes message read) :
    message.rowStep.toNat * message.height.toNat = cellBytes message +
      (message.rowStep.toNat - message.pointStep.toNat * message.width.toNat) := by
  have rows := checked.rows
  have tall : message.height.toNat ≠ 0 := fun zero => checked.tall (UInt32.toNat_inj.mp zero)
  have split : message.rowStep.toNat * message.height.toNat =
      message.rowStep.toNat * (message.height.toNat - 1) + message.rowStep.toNat := by
    rw [← Nat.mul_succ, Nat.succ_eq_add_one, Nat.sub_add_cancel (by omega)]
  unfold cellBytes
  omega

/-- A message which is accepted with some read is accepted with one which has just the
bytes the check asks for. -/
theorem fromMessage_tight {codes : PointFieldCodes} {message : GpuPointCloud2}
    {read : ReadHandle} (checked : Checked codes message read) :
    ∃ tight : ReadHandle, Checked codes message tight ∧
      tight.byteSize.toNat = cellBytes message := by
  have fits : cellBytes message < 2 ^ 64 :=
    Nat.lt_of_le_of_lt checked.last read.byteSize.toNat_lt
  have sized : (boundRead (UInt64.ofNat (cellBytes message))).byteSize.toNat =
      cellBytes message := UInt64.toNat_ofNat_of_lt' fits
  exact ⟨boundRead (UInt64.ofNat (cellBytes message)),
    ⟨rfl, checked.stepped, checked.tall, checked.rows, sized.ge, checked.fields⟩, sized⟩

/-- Whether the rows of a message are whole in every read it is accepted with depends on
the message alone: exactly packed rows are. A message with padded rows which any read is
accepted with is accepted with a read which ends in the last row's padding. -/
theorem wholeRows_iff {codes : PointFieldCodes} {message : GpuPointCloud2} {given : ReadHandle}
    {made : PointCloud2ReadHandle} (accepted : fromMessage codes message given = some made) :
    (∀ (read : ReadHandle) (cloud : PointCloud2ReadHandle),
      fromMessage codes message read = some cloud →
        ∀ (deviceFields : UInt64) (count : Int32),
          cloud.WholeRows (cloud.asDeviceView deviceFields count)) ↔
      message.rowStep.toNat = message.pointStep.toNat * message.width.toNat := by
  obtain ⟨checked, -⟩ := (fromMessage_iff codes message given made).mp accepted
  constructor
  · intro whole
    obtain ⟨tight, fitting, sized⟩ := fromMessage_tight checked
    have payload : message.rowStep.toNat * message.height.toNat ≤ tight.byteSize.toNat :=
      (whole tight _ ((fromMessage_iff codes message tight _).mpr ⟨fitting, rfl⟩) 0 0).payload
    rw [rows_eq_cellBytes fitting, sized] at payload
    have rows := fitting.rows
    omega
  · intro packed read cloud same deviceFields count
    obtain ⟨fitting, rfl⟩ := (fromMessage_iff codes message read cloud).mp same
    refine wholeRows_of_payload deviceFields count ?_
    have needs := rows_eq_cellBytes fitting
    have holds : cellBytes message ≤ read.byteSize.toNat := fitting.last
    change message.rowStep.toNat * message.height.toNat ≤ read.byteSize.toNat
    omega

/-- Two rows of two points without padding, which a read of sixteen bytes holds. -/
def packedCloud : GpuPointCloud2 :=
  ⟨⟨0, 0, "lidar"⟩, 2, 2, [], 4, 8, ⟨[47], Vector.replicate 64 0, 7, 0, 3, 5, 16⟩, true⟩

/-- The read holds its rows, as every one does which this message is accepted with. -/
theorem wholeRows_packed : ∃ cloud : PointCloud2ReadHandle,
    fromMessage ⟨1, 2, 3, 4, 5, 6, 7, 8⟩ packedCloud (boundRead 16) = some cloud ∧
      cloud.WholeRows (cloud.asDeviceView 0 0) :=
  have accepted : fromMessage ⟨1, 2, 3, 4, 5, 6, 7, 8⟩ packedCloud (boundRead 16) =
      some ⟨⟨0, 0, "lidar"⟩, boundRead 16, 2, 2, 4, 8, true, []⟩ := by decide
  ⟨_, accepted, (wholeRows_iff accepted).mpr (by decide) _ _ accepted 0 0⟩

/-- Two rows of one point with four bytes of padding are accepted in a buffer which ends
behind the second point, and the second row leaves the payload. -/
theorem padded_row_outside : ∃ cloud : PointCloud2ReadHandle,
    fromMessage ⟨1, 2, 3, 4, 5, 6, 7, 8⟩ ⟨⟨0, 0, "lidar"⟩, 2, 1, [], 4, 8,
        ⟨[47], Vector.replicate 64 0, 7, 0, 3, 5, 12⟩, true⟩ (boundRead 12) = some cloud ∧
      cloud.read.byteSize.toNat < cloud.rowStep.toNat * cloud.height.toNat ∧
      ¬ cloud.WholeRows (cloud.asDeviceView 0 0) := by
  refine ⟨⟨⟨0, 0, "lidar"⟩, boundRead 12, 2, 1, 4, 8, true, []⟩, by decide, by decide, ?_⟩
  intro whole
  exact absurd whole.payload (by decide)

end PointCloud2ReadHandle

/-- The view of every accepted image and of every accepted cloud is faithful exactly
when the message's dimensions are below 2^31. -/
theorem deviceViews_faithful_iff (codes : PointFieldCodes) (read : ReadHandle) :
    (∀ (message : GpuImage) (image : ImageReadHandle),
      ImageReadHandle.fromMessage message read = some image →
        (image.ViewFaithful ↔ IntShape message.shape)) ∧
    (∀ (message : GpuPointCloud2) (cloud : PointCloud2ReadHandle),
      PointCloud2ReadHandle.fromMessage codes message read = some cloud →
        ∀ (deviceFields : UInt64) (count : Int32),
          (cloud.ViewFaithful (cloud.asDeviceView deviceFields count) ↔
            message.width.toNat < 2 ^ 31 ∧ message.height.toNat < 2 ^ 31)) := by
  constructor
  · intro message image accepted
    obtain ⟨shape, checked⟩ := ImageReadHandle.fromMessage_accepts accepted
    rw [ImageReadHandle.viewFaithful_iff checked, shape]
  · intro message cloud accepted deviceFields count
    obtain ⟨-, rfl⟩ := (PointCloud2ReadHandle.fromMessage_iff codes message read cloud).mp accepted
    exact PointCloud2ReadHandle.viewFaithful_iff _ deviceFields count

/-- A padded image and a cloud of two points are seen as they are. -/
theorem deviceViews_faithful_small :
    (∃ image : ImageReadHandle, ImageReadHandle.fromMessage ⟨⟨0, 0, "camera"⟩, 1, #v[2, 3, 1],
        #v[8, 2, 0], ⟨[47], Vector.replicate 64 0, 7, 0, 3, 5, 16⟩, "mono16"⟩ (boundRead 16) =
          some image ∧ image.ViewFaithful) ∧
    (∃ cloud : PointCloud2ReadHandle, PointCloud2ReadHandle.fromMessage ⟨1, 2, 3, 4, 5, 6, 7, 8⟩
        ⟨⟨0, 0, "lidar"⟩, 2, 1, [], 4, 8, ⟨[47], Vector.replicate 64 0, 7, 0, 3, 5, 16⟩, true⟩
          (boundRead 16) = some cloud ∧ cloud.ViewFaithful (cloud.asDeviceView 0 0)) := by
  obtain ⟨images, clouds⟩ := deviceViews_faithful_iff ⟨1, 2, 3, 4, 5, 6, 7, 8⟩ (boundRead 16)
  constructor
  · have accepted : ImageReadHandle.fromMessage ⟨⟨0, 0, "camera"⟩, 1, #v[2, 3, 1],
        #v[8, 2, 0], ⟨[47], Vector.replicate 64 0, 7, 0, 3, 5, 16⟩, "mono16"⟩ (boundRead 16) =
          some ⟨⟨0, 0, "camera"⟩, boundRead 16, #v[2, 3, 1], #v[8, 2, 0], .u16, "mono16"⟩ := by
      decide
    exact ⟨_, accepted, (images _ _ accepted).mpr (by decide)⟩
  · have accepted : PointCloud2ReadHandle.fromMessage ⟨1, 2, 3, 4, 5, 6, 7, 8⟩
        ⟨⟨0, 0, "lidar"⟩, 2, 1, [], 4, 8, ⟨[47], Vector.replicate 64 0, 7, 0, 3, 5, 16⟩, true⟩
          (boundRead 16) = some ⟨⟨0, 0, "lidar"⟩, boundRead 16, 2, 1, 4, 8, true, []⟩ := by decide
    exact ⟨_, accepted, (clouds _ _ accepted 0 0).mpr (by decide)⟩

/-- An image of 2^31 rows, all of them the one byte of its buffer, is accepted, and
its view has a negative height. So has the view of a cloud of 2^31 rows without a
point. -/
theorem huge_dimension_negative :
    (∃ image : ImageReadHandle, ImageReadHandle.fromMessage ⟨⟨0, 0, "camera"⟩, 0,
        #v[2147483648, 1, 1], #v[0, 0, 0], ⟨[47], Vector.replicate 64 0, 7, 0, 3, 5, 1⟩, "mono8"⟩
          (boundRead 1) = some image ∧
        image.asDeviceView.height.toInt = -2147483648 ∧ ¬ image.ViewFaithful) ∧
    (∃ cloud : PointCloud2ReadHandle, PointCloud2ReadHandle.fromMessage ⟨1, 2, 3, 4, 5, 6, 7, 8⟩
        ⟨⟨0, 0, "lidar"⟩, 2147483648, 0, [], 4, 0, ⟨[47], Vector.replicate 64 0, 7, 0, 3, 5, 1⟩,
          true⟩ (boundRead 1) = some cloud ∧
        (cloud.asDeviceView 0 0).height.toInt = -2147483648 ∧
        ¬ cloud.ViewFaithful (cloud.asDeviceView 0 0)) := by
  constructor
  · refine ⟨⟨⟨0, 0, "camera"⟩, boundRead 1, #v[2147483648, 1, 1], #v[0, 0, 0], .u8, "mono8"⟩,
      by decide, by decide, ?_⟩
    intro faithful
    exact absurd faithful.height.1 (by decide)
  · refine ⟨⟨⟨0, 0, "lidar"⟩, boundRead 1, 2147483648, 0, 4, 0, true, []⟩, by decide, by decide, ?_⟩
    intro faithful
    exact absurd faithful.height.1 (by decide)

end Ros2CudaIpc
