import Mathlib.Tactic.Ring
import Ros2CudaIpc.ReadHandle
import Ros2CudaIpc.StridedLayout

/-!
# Typed image reads and their DLPack tensors

A GpuImage message gives the shape and the byte strides of an image, and the read
handle gives the size of its buffer. The check computes one sum in 128 bits: the
start of the last element and the size of an element. Every product of a 32-bit and
a 64-bit word and the sum of three of them stay below that width, so the sum is the
one in unbounded integers, and it bounds every element.

DLPack counts strides in elements and in signed words, where the image counts them
in bytes and in unsigned ones. The projection refuses strides it cannot convert
exactly, images which end behind the allocation, and allocations which end behind
the address space. What it returns addresses the same bytes. An address is a number
without a width; a pointer word is 64 bits wide. The tensor given to the consumer
points to the descriptor's own arrays, and is modelled with copies of them.
-/

namespace Ros2CudaIpc

open StridedLayout

/-- `std_msgs::msg::Header`, which every typed handle copies from its message and reads nothing
of. -/
structure Header where
  sec : Int32
  nanosec : UInt32
  frameId : String
deriving DecidableEq, Repr

/-- `ros2_cuda_ipc_image::DType`. The underlying byte may hold a value without a name, which an
enumeration class allows. -/
inductive DType where
  | u8
  | u16
  | f16
  | f32
  | f64
  | s16
  | s32
  | u32
  | unnamed (code : UInt8)
deriving DecidableEq, Repr

namespace DType

/-- `static_cast<DType>` of a message's byte, which keeps every value, named or not. -/
def ofCode (code : UInt8) : DType :=
  if code = 0 then .u8
  else if code = 1 then .u16
  else if code = 2 then .f16
  else if code = 3 then .f32
  else if code = 4 then .f64
  else if code = 5 then .s16
  else if code = 6 then .s32
  else if code = 7 then .u32
  else .unnamed code

/-- `elem_size_bytes`: the bytes of an element; a value without a name has none, and the check
refuses it. -/
def elemSizeBytes : DType → UInt32
  | .u8 => 1
  | .u16 | .f16 | .s16 => 2
  | .f32 | .s32 | .u32 => 4
  | .f64 => 8
  | .unnamed _ => 0

/-- The codes with a size are the eight known ones.

Proof: a byte apart from the eight codes is not below eight. -/
theorem ofCode_sized (code : UInt8) : (ofCode code).elemSizeBytes ≠ 0 ↔ code < 8 := by
  unfold ofCode
  repeat' split
  all_goals simp_all [elemSizeBytes]
  simp only [← UInt8.toNat_inj, UInt8.le_iff_toNat_le] at *
  simp at *
  omega

end DType

/-- `GpuImage`: the message of an image, with the shape in rows, columns and channels and the
strides in bytes. -/
structure GpuImage where
  header : Header
  dtype : UInt8
  shape : Vector UInt32 3
  strides : Vector UInt64 3
  core : BufferCore
  encoding : String
deriving DecidableEq, Repr

/-- `unsigned __int128`, in which the check forms its products and its sum. -/
abbrev WideUnsigned := BitVec 128

/-- A machine word converted to 128 bits, which loses nothing of a 64-bit one. -/
def wide (word : Nat) : WideUnsigned := BitVec.ofNat 128 word

/-- `static_cast<WideUnsigned>(extent - 1) * stride`; the decrement is the 32-bit one, so an
extent of zero would wrap there. -/
def wideTerm (extent : UInt32) (stride : UInt64) : WideUnsigned :=
  wide (extent - 1).toNat * wide stride.toNat

/-- The start of the last element and its size, in the order the sum is formed. -/
def wideNeeded (shape : Vector UInt32 3) (strides : Vector UInt64 3) (elementSize : UInt32) :
    WideUnsigned :=
  wideTerm shape[0] strides[0] + wideTerm shape[1] strides[1] + wideTerm shape[2] strides[2] +
    wide elementSize.toNat

/-- `std::numeric_limits<uint64_t>::max()` converted to 128 bits, against which the sum is
compared first. -/
def wideMax : WideUnsigned := wide uint64Max

/-- A word below 2^128 keeps its value when it is converted to 128 bits. -/
theorem wide_toNat {word : Nat} (small : word < 2 ^ 128) : (wide word).toNat = word := by
  rw [wide, BitVec.toNat_ofNat, Nat.mod_eq_of_lt small]

/-- The decrement of a nonzero extent does not wrap, so it is the one in unbounded integers. -/
theorem pred_toNat {extent : UInt32} (positive : extent ≠ 0) :
    (extent - 1).toNat = extent.toNat - 1 := by
  have nonzero : extent.toNat ≠ 0 := fun zero => positive (UInt32.toNat_inj.mp zero)
  rw [UInt32.toNat_sub_of_le]
  · rfl
  · rw [UInt32.le_iff_toNat_le, UInt32.toNat_one]
    omega

/-- Neither does the product of a decrement and a stride, which stays below 2^96 and so leaves
room for a sum. -/
theorem wideTerm_toNat {extent : UInt32} (stride : UInt64) (positive : extent ≠ 0) :
    (wideTerm extent stride).toNat = (extent.toNat - 1) * stride.toNat ∧
      (extent.toNat - 1) * stride.toNat < 2 ^ 96 := by
  have extentSized := extent.toNat_lt
  have strideSized := stride.toNat_lt
  have bounded : (extent.toNat - 1) * stride.toNat < 2 ^ 32 * 2 ^ 64 :=
    Nat.mul_lt_mul'' (by omega) strideSized
  have small : (extent.toNat - 1) * stride.toNat < 2 ^ 96 := bounded
  refine ⟨?_, small⟩
  rw [wideTerm, BitVec.toNat_mul, pred_toNat positive, wide_toNat (by omega),
    wide_toNat (by omega), Nat.mod_eq_of_lt (by omega)]

/-- The dimensions of an image, rows first, each with its extent and its stride in bytes. -/
def imageDimensions (shape : Vector UInt32 3) (strides : Vector UInt64 3) : List Dimension :=
  [⟨shape[0].toNat, strides[0].toNat⟩, ⟨shape[1].toNat, strides[1].toNat⟩,
    ⟨shape[2].toNat, strides[2].toNat⟩]

/-- Every step of the sum has its value in unbounded integers: the decrements, the products, and
each partial sum. -/
structure NoWrap (shape : Vector UInt32 3) (strides : Vector UInt64 3) (elementSize : UInt32) :
    Prop where
  predecessors : ∀ axis : Fin 3, (shape[axis] - 1).toNat = shape[axis].toNat - 1
  products : ∀ axis : Fin 3, (wideTerm shape[axis] strides[axis]).toNat =
    (shape[axis].toNat - 1) * strides[axis].toNat
  two : (wideTerm shape[0] strides[0] + wideTerm shape[1] strides[1]).toNat =
    (shape[0].toNat - 1) * strides[0].toNat + (shape[1].toNat - 1) * strides[1].toNat
  three : (wideTerm shape[0] strides[0] + wideTerm shape[1] strides[1] +
      wideTerm shape[2] strides[2]).toNat =
    (shape[0].toNat - 1) * strides[0].toNat + (shape[1].toNat - 1) * strides[1].toNat +
      (shape[2].toNat - 1) * strides[2].toNat
  needed : (wideNeeded shape strides elementSize).toNat =
    (shape[0].toNat - 1) * strides[0].toNat + (shape[1].toNat - 1) * strides[1].toNat +
      (shape[2].toNat - 1) * strides[2].toNat + elementSize.toNat

/-- A shape without a zero, the only one the check computes a sum for. -/
def NonzeroShape (shape : Vector UInt32 3) : Prop := shape[0] ≠ 0 ∧ shape[1] ≠ 0 ∧ shape[2] ≠ 0

instance (shape : Vector UInt32 3) : Decidable (NonzeroShape shape) :=
  inferInstanceAs (Decidable (_ ∧ _ ∧ _))

/-- A shape of which every dimension is an `int`, as a view for kernels states them. -/
def IntShape (shape : Vector UInt32 3) : Prop :=
  shape[0].toNat < 2 ^ 31 ∧ shape[1].toNat < 2 ^ 31 ∧ shape[2].toNat < 2 ^ 31

instance (shape : Vector UInt32 3) : Decidable (IntShape shape) :=
  inferInstanceAs (Decidable (_ ∧ _ ∧ _))

/-- The bytes of every element lie in the first `byteSize` bytes, in unbounded integers and
without any reference to the sum. -/
def ElementsInside (shape : Vector UInt32 3) (strides : Vector UInt64 3)
    (elementSize byteSize : Nat) :
    Prop :=
  ∀ row column channel, row < shape[0].toNat → column < shape[1].toNat → channel < shape[2].toNat →
    row * strides[0].toNat + column * strides[1].toNat + channel * strides[2].toNat + elementSize ≤
      byteSize

variable {shape : Vector UInt32 3} {strides : Vector UInt64 3}

/-- Nothing in the check of a nonempty shape wraps, whatever the strides and the element size are.
-/
theorem noWrap (nonzero : NonzeroShape shape) (strides : Vector UInt64 3) (elementSize : UInt32) :
    NoWrap shape strides elementSize := by
  obtain ⟨rows, columns, channels⟩ := nonzero
  obtain ⟨first, firstSmall⟩ := wideTerm_toNat strides[0] rows
  obtain ⟨second, secondSmall⟩ := wideTerm_toNat strides[1] columns
  obtain ⟨third, thirdSmall⟩ := wideTerm_toNat strides[2] channels
  have sized := elementSize.toNat_lt
  have two : (wideTerm shape[0] strides[0] + wideTerm shape[1] strides[1]).toNat =
      (shape[0].toNat - 1) * strides[0].toNat + (shape[1].toNat - 1) * strides[1].toNat := by
    rw [BitVec.toNat_add, first, second, Nat.mod_eq_of_lt (by omega)]
  have three : (wideTerm shape[0] strides[0] + wideTerm shape[1] strides[1] +
      wideTerm shape[2] strides[2]).toNat =
      (shape[0].toNat - 1) * strides[0].toNat + (shape[1].toNat - 1) * strides[1].toNat +
        (shape[2].toNat - 1) * strides[2].toNat := by
    rw [BitVec.toNat_add, two, third, Nat.mod_eq_of_lt (by omega)]
  refine ⟨?_, ?_, two, three, ?_⟩
  · intro axis
    match axis with
    | 0 => exact pred_toNat rows
    | 1 => exact pred_toNat columns
    | 2 => exact pred_toNat channels
  · intro axis
    match axis with
    | 0 => exact first
    | 1 => exact second
    | 2 => exact third
  · rw [wideNeeded, BitVec.toNat_add, three, wide_toNat (by omega), Nat.mod_eq_of_lt (by omega)]

/-- The sum is the end of the last element: its offset and the size of an element. -/
theorem needed_last (nonzero : NonzeroShape shape) (elementSize : UInt32) :
    (wideNeeded shape strides elementSize).toNat =
      lastOffset (imageDimensions shape strides) + elementSize.toNat := by
  rw [(noWrap nonzero strides elementSize).needed]
  simp only [imageDimensions, lastOffset_cons, lastOffset_nil]
  omega

/-- The elements of an image are those of its dimensions, so what holds of strided layouts holds
of it. -/
theorem elementsInside_iff (elementSize byteSize : Nat) :
    ElementsInside shape strides elementSize byteSize ↔
      ∀ index, Inside (imageDimensions shape strides) index →
        offset (imageDimensions shape strides) index + elementSize ≤ byteSize := by
  constructor
  · intro fits index inside
    obtain ⟨row, _, rowInside, rows, rfl⟩ := List.forall₂_cons_left_iff.mp inside
    obtain ⟨column, _, columnInside, columns, rfl⟩ := List.forall₂_cons_left_iff.mp rows
    obtain ⟨channel, _, channelInside, channels, rfl⟩ := List.forall₂_cons_left_iff.mp columns
    have element := fits row column channel rowInside columnInside channelInside
    simp only [imageDimensions, offset_cons, offset_nil]
    omega
  · intro fits row column channel rowInside columnInside channelInside
    have element := fits [row, column, channel]
      (by simp [imageDimensions, rowInside, columnInside, channelInside])
    simp only [imageDimensions, offset_cons, offset_nil] at element
    omega

/-- The comparison of the sum with the largest word and with a size decides
whether every element is inside. -/
theorem needed_fits (nonzero : NonzeroShape shape) (strides : Vector UInt64 3)
    (elementSize : UInt32) (byteSize : UInt64) :
    (wideNeeded shape strides elementSize ≤ wideMax ∧
        wideNeeded shape strides elementSize ≤ wide byteSize.toNat) ↔
      ElementsInside shape strides elementSize.toNat byteSize.toNat := by
  have sized := byteSize.toNat_lt
  have word : wideMax.toNat = 2 ^ 64 - 1 := by decide
  have nonempty : ∀ dimension ∈ imageDimensions shape strides, dimension.extent ≠ 0 := by
    obtain ⟨rows, columns, channels⟩ := nonzero
    simp only [ne_eq, ← UInt32.toNat_inj, UInt32.toNat_zero] at rows columns channels
    simp [imageDimensions, rows, columns, channels]
  rw [elementsInside_iff, fits_iff nonempty, BitVec.le_def, BitVec.le_def, needed_last nonzero,
    word, wide_toNat (by omega)]
  omega

/-- `ImageReadHandle`: the read of the buffer together with the layout of the message, checked
against each other. -/
structure ImageReadHandle where
  header : Header
  read : ReadHandle
  shape : Vector UInt32 3
  strides : Vector UInt64 3
  dtype : DType
  encoding : String
deriving DecidableEq, Repr

namespace ImageReadHandle

/-- `ImageReadHandle::rows`, the first dimension of the shape. -/
def rows (image : ImageReadHandle) : UInt32 := image.shape[0]

/-- `ImageReadHandle::cols`, the second dimension of the shape. -/
def cols (image : ImageReadHandle) : UInt32 := image.shape[1]

/-- `ImageReadHandle::channels`, the third dimension of the shape. -/
def channels (image : ImageReadHandle) : UInt32 := image.shape[2]

/-- `ImageReadHandle::strideH`, the bytes from a row to the next. -/
def strideH (image : ImageReadHandle) : UInt64 := image.strides[0]

/-- `ImageReadHandle::strideW`, the bytes from a column to the next. -/
def strideW (image : ImageReadHandle) : UInt64 := image.strides[1]

/-- `ImageReadHandle::strideC`, the bytes from a channel to the next. -/
def strideC (image : ImageReadHandle) : UInt64 := image.strides[2]

/-- `ImageReadHandle::valid`: a valid read, and a shape without a zero. It says nothing about
bounds. -/
def valid (image : ImageReadHandle) : Bool :=
  image.read.valid && image.shape[0] > 0 && image.shape[1] > 0 && image.shape[2] > 0

/-- `sanity_check`: the sum of 128 bits is compared with the largest 64-bit word and with the size
of the buffer. -/
def sanityCheck (image : ImageReadHandle) : Bool :=
  if image.valid = false ∨ image.dtype.elemSizeBytes = 0 then false
  else
    let needed := wideNeeded image.shape image.strides image.dtype.elemSizeBytes
    needed ≤ wideMax && needed ≤ wide image.read.byteSize.toNat

/-- `ImageReadHandle::from_message`: the fields are copied, and the handle is returned when it
passes its own check. -/
def fromMessage (message : GpuImage) (read : ReadHandle) : Option ImageReadHandle :=
  let result : ImageReadHandle :=
    { header := message.header
      read := read
      dtype := DType.ofCode message.dtype
      shape := message.shape
      strides := message.strides
      encoding := message.encoding }
  if result.sanityCheck = false then none else some result

/-- An accepted image owns the read handle it was made of, and no copy of it. -/
theorem fromMessage_read {message : GpuImage} {read : ReadHandle} {image : ImageReadHandle}
    (made : fromMessage message read = some image) : image.read = read := by
  simp only [fromMessage] at made
  split at made
  · cases made
  · exact Option.some.inj made ▸ rfl

/-- A valid image has a valid read and no empty dimension, and every such image is valid. -/
theorem valid_iff (image : ImageReadHandle) :
    image.valid = true ↔ image.read.valid = true ∧ NonzeroShape image.shape := by
  simp [valid, NonzeroShape, UInt32.pos_iff_ne_zero, and_assoc]

/-- The check accepts exactly the images whose elements are inside. The last element bounds all
others, as every stride is nonnegative. -/
theorem sanityCheck_iff (image : ImageReadHandle) :
    image.sanityCheck = true ↔ image.read.valid = true ∧ NonzeroShape image.shape ∧
      image.dtype.elemSizeBytes ≠ 0 ∧ ElementsInside image.shape image.strides
        image.dtype.elemSizeBytes.toNat image.read.byteSize.toNat := by
  unfold sanityCheck
  by_cases valid : image.valid = true
  · obtain ⟨readValid, nonzero⟩ := (valid_iff image).mp valid
    by_cases sized : image.dtype.elemSizeBytes = 0
    · simp [valid, sized]
    · simp only [valid, sized, Bool.true_eq_false, or_self, if_false, Bool.and_eq_true,
        decide_eq_true_eq, needed_fits nonzero, readValid, nonzero, ne_eq, not_false_eq_true,
        true_and]
  · have invalid : ¬ (image.read.valid = true ∧ NonzeroShape image.shape) :=
      fun both => valid ((valid_iff image).mpr both)
    rw [Bool.not_eq_true] at valid
    simp only [valid, true_or, if_true, Bool.false_eq_true, false_iff]
    exact fun all => invalid ⟨all.1, all.2.1⟩

/-- A checked image has no empty dimension, and its elements lie in the buffer. -/
theorem sanityCheck_elements {image : ImageReadHandle} (checked : image.sanityCheck = true) :
    (image.rows.toNat ≠ 0 ∧ image.cols.toNat ≠ 0 ∧ image.channels.toNat ≠ 0) ∧
      ∀ row column channel, row < image.rows.toNat → column < image.cols.toNat →
        channel < image.channels.toNat →
          row * image.strideH.toNat + column * image.strideW.toNat +
            channel * image.strideC.toNat + image.dtype.elemSizeBytes.toNat ≤
              image.read.byteSize.toNat := by
  obtain ⟨-, nonzero, -, inside⟩ := (sanityCheck_iff image).mp checked
  simp only [NonzeroShape, ne_eq, ← UInt32.toNat_inj, UInt32.toNat_zero] at nonzero
  exact ⟨nonzero, inside⟩

/-- A message is accepted exactly when the read is valid and the elements it describes are inside
the buffer of the read. -/
theorem fromMessage_isSome (message : GpuImage) (read : ReadHandle) :
    (fromMessage message read).isSome = true ↔
      read.valid = true ∧ NonzeroShape message.shape ∧
        (DType.ofCode message.dtype).elemSizeBytes ≠ 0 ∧
          ElementsInside message.shape message.strides
            (DType.ofCode message.dtype).elemSizeBytes.toNat read.byteSize.toNat := by
  have checked := sanityCheck_iff ⟨message.header, read, message.shape, message.strides,
    DType.ofCode message.dtype, message.encoding⟩
  rw [← checked]
  simp only [fromMessage]
  split
  · next rejected => simp [rejected]
  · next accepted => simpa using accepted

/-- A message is accepted exactly when the read is valid, no dimension is empty,
the dtype is one of the eight codes and every element lies in the buffer; nothing
in the check of a nonempty shape wraps. -/
theorem fromMessage_exact (message : GpuImage) (read : ReadHandle) :
    ((fromMessage message read).isSome = true ↔
      read.valid = true ∧ NonzeroShape message.shape ∧ message.dtype < 8 ∧
        ElementsInside message.shape message.strides
          (DType.ofCode message.dtype).elemSizeBytes.toNat read.byteSize.toNat) ∧
    (NonzeroShape message.shape → NoWrap message.shape message.strides
      (DType.ofCode message.dtype).elemSizeBytes) := by
  refine ⟨?_, fun nonzero => noWrap nonzero _ _⟩
  rw [← DType.ofCode_sized]
  exact fromMessage_isSome message read

end ImageReadHandle

/-- The type codes of a DLPack dtype which are used here; the standard has more. -/
inductive DLDataTypeCode where
  | kDLInt
  | kDLUInt
  | kDLFloat
deriving DecidableEq, Repr

/-- `DLDataType`: the type code, the bits of a lane and the number of lanes. -/
structure DLDataType where
  code : DLDataTypeCode
  bits : UInt8
  lanes : UInt16
deriving DecidableEq, Repr

/-- `ImageTensorDescriptor`: what the projection returns, with the strides in elements as DLPack
counts them. -/
structure ImageTensorDescriptor where
  data : UInt64
  deviceId : Int32
  allocationSize : UInt64
  byteOffset : UInt64
  rank : Int32
  shape : Vector Int64 3
  elementStrides : Vector Int64 3
  dlDtype : DLDataType
deriving DecidableEq, Repr

/-- The fields of a `DLTensor` on a CUDA device, with the arrays in place of the pointers to them.
-/
structure DLTensor where
  data : UInt64
  deviceId : Int32
  ndim : Int32
  dtype : DLDataType
  shape : Vector Int64 3
  strides : Vector Int64 3
  byteOffset : UInt64
deriving DecidableEq, Repr

namespace Dlpack

/-- `tensor_dl_dtype`: the DLPack dtype of an image's, each of one lane; other values are refused.
-/
def tensorDlDtype : DType → Except String DLDataType
  | .u8 => .ok ⟨.kDLUInt, 8, 1⟩
  | .u16 => .ok ⟨.kDLUInt, 16, 1⟩
  | .f16 => .ok ⟨.kDLFloat, 16, 1⟩
  | .f32 => .ok ⟨.kDLFloat, 32, 1⟩
  | .f64 => .ok ⟨.kDLFloat, 64, 1⟩
  | .s16 => .ok ⟨.kDLInt, 16, 1⟩
  | .s32 => .ok ⟨.kDLInt, 32, 1⟩
  | .u32 => .ok ⟨.kDLUInt, 32, 1⟩
  | .unnamed _ => .error "unsupported ros2_cuda_ipc image dtype"

/-- `static_cast<uint64_t>(bits / 8) * lanes`, the bytes of an element as DLPack states them. -/
def elementSize (dtype : DLDataType) : UInt64 := (dtype.bits / 8).toUInt64 * dtype.lanes.toUInt64

/-- `std::numeric_limits<int64_t>::max()` as a 64-bit word, the largest stride and extent DLPack
can state. -/
def int64Max : UInt64 := 9223372036854775807

/-- `std::numeric_limits<uintptr_t>::max()`, the last address a pointer can have. -/
def uintptrMax : UInt64 := 18446744073709551615

/-- The loop over the dimensions at one index, with the descriptor and `last_byte`
it has come to. -/
def projectAxis (elementSize : UInt64) (shape : Vector UInt32 3) (strides : Vector UInt64 3)
    (reached : ImageTensorDescriptor × WideUnsigned) (index : Fin 3) :
    Except String (ImageTensorDescriptor × WideUnsigned) :=
  if shape[index] = 0 then .error "Image dimensions must be positive"
  else if strides[index] % elementSize ≠ 0 then
    .error "Image byte strides must be divisible by the dtype size"
  else if 1 < shape[index] ∧ strides[index] < elementSize then
    .error "Image strides overlap elements for a non-singleton dimension"
  else if int64Max < strides[index] / elementSize then
    .error "Image element stride exceeds the DLPack int64 range"
  else
    .ok ({ reached.1 with
      shape := reached.1.shape.set index shape[index].toUInt64.toInt64
      elementStrides :=
        reached.1.elementStrides.set index (strides[index] / elementSize).toInt64 },
      reached.2 + wideTerm shape[index] strides[index])

/-- `project_to_tensor`; a null pointer is zero. The checks stand in the order of the source, each
with its own text. -/
def projectToTensor (dtype : DType) (shape : Vector UInt32 3) (strides : Vector UInt64 3)
    (data allocationSize : UInt64) (deviceId : Int32) : Except String ImageTensorDescriptor :=
  if data = 0 then .error "cannot export a null GPU allocation"
  else
    match tensorDlDtype dtype with
    | .error message => .error message
    | .ok dlDtype =>
      if elementSize dlDtype = 0 then .error "image dtype has zero-sized elements"
      else
        let result : ImageTensorDescriptor :=
          ⟨data, deviceId, allocationSize, 0, 3, Vector.replicate 3 0, Vector.replicate 3 0,
            dlDtype⟩
        match (List.finRange 3).foldlM (projectAxis (elementSize dlDtype) shape strides)
            (result, 0) with
        | .error message => .error message
        | .ok (result, reached) =>
          let lastByte := reached + wide (elementSize dlDtype).toNat
          if wideMax < lastByte ∨ wide allocationSize.toNat < lastByte then
            .error "Image shape/strides exceed the mapped allocation"
          else if uintptrMax - data < allocationSize ∨
              wide (uintptrMax - data).toNat < lastByte then
            .error "Image pointer arithmetic overflows"
          else .ok result

/-- `populate_dlpack_tensor`: the tensor a consumer is given, with the descriptor's shape and
element strides. -/
def populateDlpackTensor (tensor : ImageTensorDescriptor) : DLTensor :=
  { data := tensor.data
    deviceId := tensor.deviceId
    ndim := tensor.rank
    dtype := tensor.dlDtype
    shape := tensor.shape
    strides := tensor.elementStrides
    byteOffset := tensor.byteOffset }

/-- The address of an element as a DLPack consumer computes it, from the strides in elements and
the bits of an element. -/
def elementAddress (tensor : DLTensor) (index : Vector Nat 3) : Int :=
  tensor.data.toNat + tensor.byteOffset.toNat +
    (index[0] * tensor.strides[0].toInt + index[1] * tensor.strides[1].toInt +
      index[2] * tensor.strides[2].toInt) * tensor.dtype.bits.toNat / 8

/-- The address of an element by the byte strides of the image, as the producer of the message
meant it. -/
def byteAddress (data : UInt64) (strides : Vector UInt64 3) (index : Vector Nat 3) : Nat :=
  data.toNat + (index[0] * strides[0].toNat + index[1] * strides[1].toNat +
    index[2] * strides[2].toNat)

variable {dtype : DType} {data allocationSize : UInt64} {deviceId : Int32}

/-- A word below 2^63 keeps its value as a signed one, which DLPack needs of extents and strides. -/
theorem toInt64_toInt {word : UInt64} (small : word ≤ int64Max) :
    word.toInt64.toInt = word.toNat := by
  have below : word.toNat < 2 ^ 63 := by
    have bounded := UInt64.le_iff_toNat_le.mp small
    have limit : int64Max.toNat = 2 ^ 63 - 1 := by decide
    omega
  have signed : 2 * word.toBitVec.toNat < 2 ^ 64 := by
    have same : word.toBitVec.toNat = word.toNat := rfl
    omega
  exact BitVec.toInt_eq_toNat_of_lt signed

/-- The dtypes of an image have as many bytes in DLPack as in the image. -/
theorem tensorDlDtype_size {dlDtype : DLDataType} (typed : tensorDlDtype dtype = .ok dlDtype) :
    (elementSize dlDtype).toNat = dtype.elemSizeBytes.toNat ∧
      dlDtype.bits.toNat = 8 * dtype.elemSizeBytes.toNat ∧ 0 < dtype.elemSizeBytes.toNat := by
  cases dtype with
  | unnamed code => simp [tensorDlDtype] at typed
  | _ =>
    obtain rfl := Except.ok.inj typed
    decide

/-- What one step of the loop demands of its dimension: a nonzero extent, and a stride which is a
whole number of elements and fits a signed word. -/
structure AxisFits (elementSize : UInt64) (extent : UInt32) (stride : UInt64) : Prop where
  positive : extent ≠ 0
  divisible : elementSize.toNat ∣ stride.toNat
  covers : 1 < extent.toNat → elementSize.toNat ≤ stride.toNat
  signed : stride / elementSize ≤ int64Max

/-- A step which does not throw stores the extent and the quotient of the stride. -/
theorem projectAxis_ok {elementSize : UInt64} {reached after : ImageTensorDescriptor × WideUnsigned}
    {index : Fin 3} (stepped : projectAxis elementSize shape strides reached index = .ok after) :
    AxisFits elementSize shape[index] strides[index] ∧
      after = ({ reached.1 with
        shape := reached.1.shape.set index shape[index].toUInt64.toInt64
        elementStrides :=
          reached.1.elementStrides.set index (strides[index] / elementSize).toInt64 },
        reached.2 + wideTerm shape[index] strides[index]) := by
  unfold projectAxis at stepped
  split at stepped
  · simp at stepped
  · next positive =>
    split at stepped
    · simp at stepped
    · next divides =>
      split at stepped
      · simp at stepped
      · next covers =>
        split at stepped
        · simp at stepped
        · next signed =>
          refine ⟨⟨positive, ?_, ?_, ?_⟩, (Except.ok.inj stepped).symm⟩
          · simp only [ne_eq, Decidable.not_not, ← UInt64.toNat_inj, UInt64.toNat_mod,
              UInt64.toNat_zero] at divides
            exact Nat.dvd_of_mod_eq_zero divides
          · intro many
            by_contra below
            refine covers ⟨UInt32.lt_iff_toNat_lt.mpr many, UInt64.lt_iff_toNat_lt.mpr ?_⟩
            omega
          · exact UInt64.not_lt.mp signed

/-- The conditions under which the projection returns, with what it returns. They are read off its
checks in their order. -/
structure Projected (dtype : DType) (shape : Vector UInt32 3) (strides : Vector UInt64 3)
    (data allocationSize : UInt64) (tensor : ImageTensorDescriptor) : Prop where
  sized : 0 < dtype.elemSizeBytes.toNat
  bits : tensor.dlDtype.bits.toNat = 8 * dtype.elemSizeBytes.toNat
  axes : ∀ axis : Fin 3, AxisFits dtype.elemSizeBytes.toUInt64 shape[axis] strides[axis]
  last : lastOffset (imageDimensions shape strides) + dtype.elemSizeBytes.toNat ≤
    allocationSize.toNat
  addressable : data.toNat + allocationSize.toNat ≤ uintptrMax.toNat
  data : tensor.data = data
  byteOffset : tensor.byteOffset = 0
  shape : ∀ axis : Fin 3, tensor.shape[axis] = shape[axis].toUInt64.toInt64
  strides : ∀ axis : Fin 3,
    tensor.elementStrides[axis] = (strides[axis] / dtype.elemSizeBytes.toUInt64).toInt64

/-- A shape whose dimensions all fit has no empty dimension, since each step of the loop refuses
an extent of zero. -/
theorem nonzero_of_axes {elementSize : UInt64}
    (axes : ∀ axis : Fin 3, AxisFits elementSize shape[axis] strides[axis]) : NonzeroShape shape :=
  ⟨(axes 0).positive, (axes 1).positive, (axes 2).positive⟩

/-- The loop runs through its three dimensions, each of which fits, and adds up the end of the
last element. -/
theorem projectAxes_ok {elementSize : UInt64} {result tensor : ImageTensorDescriptor}
    {sum : WideUnsigned} (looped : (List.finRange 3).foldlM (projectAxis elementSize shape strides)
      (result, 0) = .ok (tensor, sum)) :
    (∀ axis : Fin 3, AxisFits elementSize shape[axis] strides[axis]) ∧
      tensor = { result with
        shape := ((result.shape.set 0 shape[0].toUInt64.toInt64).set 1
          shape[1].toUInt64.toInt64).set 2 shape[2].toUInt64.toInt64
        elementStrides := ((result.elementStrides.set 0 (strides[0] / elementSize).toInt64).set 1
          (strides[1] / elementSize).toInt64).set 2 (strides[2] / elementSize).toInt64 } ∧
      sum = wideTerm shape[0] strides[0] + wideTerm shape[1] strides[1] +
        wideTerm shape[2] strides[2] := by
  have axes : List.finRange 3 = [0, 1, 2] := by decide
  rw [axes] at looped
  simp only [List.foldlM_cons, List.foldlM_nil, bind, Except.bind] at looped
  split at looped
  · simp at looped
  next one first =>
  obtain ⟨fitsFirst, rfl⟩ := projectAxis_ok first
  split at looped
  · simp at looped
  next two second =>
  obtain ⟨fitsSecond, rfl⟩ := projectAxis_ok second
  split at looped
  · simp at looped
  next three third =>
  obtain ⟨fitsThird, rfl⟩ := projectAxis_ok third
  obtain ⟨rfl, rfl⟩ := Prod.mk.inj (Except.ok.inj looped)
  refine ⟨fun axis => ?_, rfl, by simp⟩
  match axis with
  | 0 => exact fitsFirst
  | 1 => exact fitsSecond
  | 2 => exact fitsThird

/-- A projection which does not throw meets the conditions. The proof follows its checks one by
one. -/
theorem projectToTensor_ok {tensor : ImageTensorDescriptor}
    (projected : projectToTensor dtype shape strides data allocationSize deviceId = .ok tensor) :
    Projected dtype shape strides data allocationSize tensor := by
  unfold projectToTensor at projected
  split at projected
  · simp at projected
  split at projected
  · simp at projected
  next dlDtype typed =>
  obtain ⟨sizes, bits, sized⟩ := tensorDlDtype_size typed
  have same : elementSize dlDtype = dtype.elemSizeBytes.toUInt64 := by
    rw [← UInt64.toNat_inj, sizes, UInt32.toNat_toUInt64]
  rw [same] at projected
  split at projected
  · simp at projected
  dsimp only at projected
  split at projected
  · simp at projected
  next result sum looped =>
  obtain ⟨axes, rfl, rfl⟩ := projectAxes_ok looped
  have nonzero := nonzero_of_axes axes
  have whole : wideTerm shape[0] strides[0] + wideTerm shape[1] strides[1] +
      wideTerm shape[2] strides[2] + wide dtype.elemSizeBytes.toUInt64.toNat =
        wideNeeded shape strides dtype.elemSizeBytes := by
    rw [wideNeeded, UInt32.toNat_toUInt64]
  rw [whole] at projected
  split at projected
  · simp at projected
  next inside =>
  split at projected
  · simp at projected
  next addressable =>
  obtain rfl := Except.ok.inj projected
  have size := allocationSize.toNat_lt
  have base := data.toNat_lt
  have room : (uintptrMax - data).toNat = uintptrMax.toNat - data.toNat := by
    refine UInt64.toNat_sub_of_le _ _ (UInt64.le_iff_toNat_le.mpr ?_)
    have limit : uintptrMax.toNat = 2 ^ 64 - 1 := by decide
    omega
  simp only [not_or, BitVec.lt_def, needed_last nonzero] at inside
  simp only [not_or, UInt64.lt_iff_toNat_lt, room] at addressable
  rw [wide_toNat (by omega)] at inside
  refine ⟨sized, bits, axes, by omega, ?_, rfl, rfl, fun axis => ?_, fun axis => ?_⟩
  · have limit : uintptrMax.toNat = 2 ^ 64 - 1 := by decide
    omega
  · match axis with
    | 0 | 1 | 2 => rfl
  · match axis with
    | 0 | 1 | 2 => rfl

/-- An index inside a shape: each of its coordinates is below the extent of its dimension. -/
def IndexInside (shape : Vector UInt32 3) (index : Vector Nat 3) : Prop :=
  ∀ axis : Fin 3, index[axis] < shape[axis].toNat

/-- The tensor given to a consumer addresses the bytes of the image: each element at the same
address, inside the allocation, and apart from those behind it along each dimension. -/
structure SameBytes (size : Nat) (shape : Vector UInt32 3) (strides : Vector UInt64 3)
    (data allocationSize : UInt64) (tensor : DLTensor) : Prop where
  address : ∀ index, IndexInside shape index →
    elementAddress tensor index = byteAddress data strides index
  inside : ∀ index, IndexInside shape index → data.toNat ≤ byteAddress data strides index ∧
    byteAddress data strides index + size ≤ data.toNat + allocationSize.toNat
  addressable : data.toNat + allocationSize.toNat < 2 ^ 64
  extents : ∀ axis : Fin 3, 0 ≤ tensor.shape[axis].toInt ∧
    tensor.shape[axis].toInt = shape[axis].toNat
  quotients : ∀ axis : Fin 3, 0 ≤ tensor.strides[axis].toInt ∧
    tensor.strides[axis].toInt * size = strides[axis].toNat
  apart : ∀ index, IndexInside shape index → ∀ (axis : Fin 3) (entry : Nat), index[axis] < entry →
    entry < shape[axis].toNat → byteAddress data strides index + size ≤
      byteAddress data strides (index.set axis entry)

/-- An element stride is the exact quotient of its byte stride, and is not negative. -/
theorem Projected.quotient {tensor : ImageTensorDescriptor}
    (projected : Projected dtype shape strides data allocationSize tensor) (axis : Fin 3) :
    0 ≤ tensor.elementStrides[axis].toInt ∧
      tensor.elementStrides[axis].toInt * dtype.elemSizeBytes.toNat = strides[axis].toNat := by
  have fits := projected.axes axis
  have value := toInt64_toInt fits.signed
  have divisible := fits.divisible
  rw [UInt64.toNat_div, UInt32.toNat_toUInt64] at value
  rw [UInt32.toNat_toUInt64] at divisible
  rw [projected.strides axis, value]
  refine ⟨Int.natCast_nonneg _, ?_⟩
  exact_mod_cast Nat.div_mul_cancel divisible

/-- An extent keeps its value as a signed word, because it has 32 bits only. -/
theorem extent_toInt (extent : UInt32) : extent.toUInt64.toInt64.toInt = extent.toNat := by
  rw [toInt64_toInt, UInt32.toNat_toUInt64]
  have sized := extent.toNat_lt
  have limit : int64Max.toNat = 2 ^ 63 - 1 := by decide
  rw [UInt64.le_iff_toNat_le, UInt32.toNat_toUInt64]
  omega

/-- Every element ends inside the allocation, since the last one does and no stride is negative. -/
theorem Projected.inside {tensor : ImageTensorDescriptor}
    (projected : Projected dtype shape strides data allocationSize tensor) {index : Vector Nat 3}
    (inside : IndexInside shape index) :
    byteAddress data strides index + dtype.elemSizeBytes.toNat ≤
      data.toNat + allocationSize.toNat := by
  have last := projected.last
  have within : Inside (imageDimensions shape strides) [index[0], index[1], index[2]] := by
    simpa [imageDimensions] using ⟨inside 0, inside 1, inside 2⟩
  have before := offset_le_last within
  simp only [imageDimensions, offset_cons, offset_nil] at before last
  unfold byteAddress
  omega

/-- The projected tensor addresses, with exact signed strides, the image's bytes, all of them
inside the allocation and the address space and apart along every dimension.

Proof: the tensor's elements are measured in bits, eight to a byte, so the division which yields
the byte address is exact. -/
theorem projectToTensor_sameBytes (tensor : ImageTensorDescriptor)
    (projected : projectToTensor dtype shape strides data allocationSize deviceId = .ok tensor) :
    SameBytes dtype.elemSizeBytes.toNat shape strides data allocationSize
      (populateDlpackTensor tensor) := by
  have conditions := projectToTensor_ok projected
  have limit : uintptrMax.toNat = 2 ^ 64 - 1 := by decide
  have addressable := conditions.addressable
  refine ⟨fun index _ => ?_, fun index inside => ?_, by omega, fun axis => ?_, ?_, ?_⟩
  · have first : tensor.elementStrides[0].toInt * dtype.elemSizeBytes.toNat = strides[0].toNat :=
      (conditions.quotient 0).2
    have second : tensor.elementStrides[1].toInt * dtype.elemSizeBytes.toNat = strides[1].toNat :=
      (conditions.quotient 1).2
    have third : tensor.elementStrides[2].toInt * dtype.elemSizeBytes.toNat = strides[2].toNat :=
      (conditions.quotient 2).2
    simp only [elementAddress, populateDlpackTensor, byteAddress, conditions.data,
      conditions.byteOffset, conditions.bits]
    generalize tensor.elementStrides[0].toInt = stride0 at *
    generalize tensor.elementStrides[1].toInt = stride1 at *
    generalize tensor.elementStrides[2].toInt = stride2 at *
    push_cast
    rw [← first, ← second, ← third]
    generalize dtype.elemSizeBytes.toNat = size at *
    have scaled : ((index[0] : Int) * stride0 + index[1] * stride1 + index[2] * stride2) *
        ((8 : Int) * (size : Int)) = ((index[0] : Int) * (stride0 * size) +
          index[1] * (stride1 * size) + index[2] * (stride2 * size)) * 8 := by ring
    rw [Int.add_zero]
    refine congrArg (fun sum : Int => (data.toNat : Int) + sum) ?_
    exact (congrArg (fun sum : Int => sum / 8) scaled).trans (Int.mul_ediv_cancel _ (by decide))
  · exact ⟨Nat.le_add_right _ _, conditions.inside inside⟩
  · simp only [populateDlpackTensor, conditions.shape axis, extent_toInt]
    exact ⟨Int.natCast_nonneg _, trivial⟩
  · exact conditions.quotient
  · intro index inside axis entry later below
    have covers := (conditions.axes axis).covers (by omega)
    rw [UInt32.toNat_toUInt64] at covers
    have along := apart_along covers later
    unfold byteAddress
    match axis with
    | 0 | 1 | 2 =>
      simp at along ⊢
      omega

/-- Two rows of three 16-bit elements with a padded row and an unused stride. -/
theorem projectToTensor_sameBytes_padded :
    projectToTensor .u16 #v[2, 3, 1] #v[8, 2, 0] 0x100000 16 0 =
        .ok ⟨0x100000, 0, 16, 0, 3, #v[2, 3, 1], #v[4, 1, 0], ⟨.kDLUInt, 16, 1⟩⟩ ∧
      SameBytes 2 #v[2, 3, 1] #v[8, 2, 0] 0x100000 16 (populateDlpackTensor
        ⟨0x100000, 0, 16, 0, 3, #v[2, 3, 1], #v[4, 1, 0], ⟨.kDLUInt, 16, 1⟩⟩) :=
  have projected : projectToTensor .u16 #v[2, 3, 1] #v[8, 2, 0] 0x100000 16 0 =
      .ok ⟨0x100000, 0, 16, 0, 3, #v[2, 3, 1], #v[4, 1, 0], ⟨.kDLUInt, 16, 1⟩⟩ := by decide
  ⟨projected, projectToTensor_sameBytes _ projected⟩

end Dlpack

end Ros2CudaIpc
