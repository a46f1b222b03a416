import Ros2CudaIpc.ImageReadHandle

/-!
# Typed point-cloud reads

A GpuPointCloud2 message lays its points out in rows of `row_step` bytes and cells
of `point_step` bytes, and lists the fields inside a cell. The check compares the
row with its cells in 64 bits and the end of the last row's cells with the buffer
in 128 bits, then each field with its cell. The codes of the field datatypes belong
to another package and are a parameter.
-/

namespace Ros2CudaIpc

open StridedLayout

/-- The datatype constants of `sensor_msgs::msg::PointField`. Their values are left open, so
nothing depends on them. -/
structure PointFieldCodes where
  int8 : UInt8
  uint8 : UInt8
  int16 : UInt8
  uint16 : UInt8
  int32 : UInt8
  uint32 : UInt8
  float32 : UInt8
  float64 : UInt8
deriving DecidableEq, Repr

/-- The size the switch over the datatype chooses; `none` is its default, which refuses the field.
-/
def PointFieldCodes.elementSize (codes : PointFieldCodes) (datatype : UInt8) : Option UInt32 :=
  if datatype = codes.int8 ∨ datatype = codes.uint8 then some 1
  else if datatype = codes.int16 ∨ datatype = codes.uint16 then some 2
  else if datatype = codes.int32 ∨ datatype = codes.uint32 ∨ datatype = codes.float32 then some 4
  else if datatype = codes.float64 then some 8
  else none

/-- `sensor_msgs::msg::PointField`, and `PointCloud2ReadHandle::Field` copied from it. The name is
not checked. -/
structure PointField where
  name : String
  offset : UInt32
  datatype : UInt8
  count : UInt32
deriving DecidableEq, Repr

/-- `GpuPointCloud2`: the message of a cloud, with the fields of a cell and the steps in bytes. -/
structure GpuPointCloud2 where
  header : Header
  height : UInt32
  width : UInt32
  fields : List PointField
  pointStep : UInt32
  rowStep : UInt32
  core : BufferCore
  isDense : Bool
deriving DecidableEq, Repr

/-- `PointCloud2ReadHandle`: the read of the buffer together with the layout of the message,
checked against each other. -/
structure PointCloud2ReadHandle where
  header : Header
  read : ReadHandle
  height : UInt32
  width : UInt32
  pointStep : UInt32
  rowStep : UInt32
  isDense : Bool
  fields : List PointField
deriving DecidableEq, Repr

namespace PointCloud2ReadHandle

/-- `PointCloud2ReadHandle::valid`: a valid read, and cells of at least one byte. It says nothing
about bounds. -/
def valid (cloud : PointCloud2ReadHandle) : Bool := cloud.read.valid && cloud.pointStep > 0

/-- The end of the cells of the last row in 128 bits. The padding behind these cells is not part
of it. -/
def wideNeeded (cloud : PointCloud2ReadHandle) : WideUnsigned :=
  wide cloud.rowStep.toNat * wide (cloud.height - 1).toNat +
    wide cloud.pointStep.toNat * wide cloud.width.toNat

/-- The check of one field against its cell, in the order of the source. The
difference is a 32-bit one, and only reached behind the offset's comparison. -/
def fieldFits (codes : PointFieldCodes) (pointStep : UInt32) (field : PointField) : Bool :=
  match codes.elementSize field.datatype with
  | none => false
  | some elementSize =>
    let fieldBytes : UInt64 := elementSize.toUInt64 * field.count.toUInt64
    if field.count = 0 ∨ pointStep ≤ field.offset ∨
        (pointStep - field.offset).toUInt64 < fieldBytes then false
    else true

/-- The loop over the fields: the first which does not fit ends it, and a cloud without fields
passes. -/
def fieldsFit (codes : PointFieldCodes) (pointStep : UInt32) : List PointField → Bool
  | [] => true
  | field :: fields =>
    if fieldFits codes pointStep field = false then false else fieldsFit codes pointStep fields

/-- The handle whose fields `from_message` copies before its checks, from the message and the
read. -/
def copied (message : GpuPointCloud2) (read : ReadHandle) : PointCloud2ReadHandle :=
  { header := message.header
    read := read
    height := message.height
    width := message.width
    pointStep := message.pointStep
    rowStep := message.rowStep
    isDense := message.isDense
    fields := message.fields.map fun field =>
      ⟨field.name, field.offset, field.datatype, field.count⟩ }

/-- `PointCloud2ReadHandle::from_message`: the copy, when it passes the checks in the order of the
source. -/
def fromMessage (codes : PointFieldCodes) (message : GpuPointCloud2) (read : ReadHandle) :
    Option PointCloud2ReadHandle :=
  let result := copied message read
  if result.valid = false ∨ result.height = 0 ∨
      result.rowStep.toUInt64 < result.pointStep.toUInt64 * result.width.toUInt64 then none
  else if wideMax < result.wideNeeded ∨ wide result.read.byteSize.toNat < result.wideNeeded then
    none
  else if fieldsFit codes result.pointStep result.fields = false then none
  else some result

/-- An accepted cloud owns the read handle it was made of, and no copy of it. -/
theorem fromMessage_read {codes : PointFieldCodes} {message : GpuPointCloud2} {read : ReadHandle}
    {cloud : PointCloud2ReadHandle} (made : fromMessage codes message read = some cloud) :
    cloud.read = read := by
  simp only [fromMessage] at made
  split at made
  · cases made
  split at made
  · cases made
  split at made
  · cases made
  · exact Option.some.inj made ▸ rfl

variable {codes : PointFieldCodes} {cloud : PointCloud2ReadHandle} {field : PointField}
  {message : GpuPointCloud2} {read : ReadHandle} {pointStep : UInt32}

/-- A product of two 32-bit words does not leave 64 bits, so the comparison of a row with its
cells is exact. -/
theorem mul_words (left right : UInt32) :
    (left.toUInt64 * right.toUInt64).toNat = left.toNat * right.toNat := by
  have bounded : left.toNat * right.toNat < 2 ^ 64 :=
    lt_of_lt_of_eq (Nat.mul_lt_mul'' left.toNat_lt right.toNat_lt) (by decide)
  rw [UInt64.toNat_mul, UInt32.toNat_toUInt64, UInt32.toNat_toUInt64, Nat.mod_eq_of_lt bounded]

/-- Nor does it in 128 bits, where the product still leaves room for a sum of two. -/
theorem wide_mul_words (left right : UInt32) :
    (wide left.toNat * wide right.toNat).toNat = left.toNat * right.toNat ∧
      left.toNat * right.toNat < 2 ^ 64 := by
  have leftSized := left.toNat_lt
  have rightSized := right.toNat_lt
  have bounded : left.toNat * right.toNat < 2 ^ 32 * 2 ^ 32 :=
    Nat.mul_lt_mul'' leftSized rightSized
  refine ⟨?_, bounded⟩
  rw [BitVec.toNat_mul, wide_toNat (by omega), wide_toNat (by omega), Nat.mod_eq_of_lt (by omega)]

/-- The 128-bit sum is the one in unbounded integers, for a cloud with at least one row. -/
theorem wideNeeded_toNat (tall : cloud.height ≠ 0) : cloud.wideNeeded.toNat =
    cloud.rowStep.toNat * (cloud.height.toNat - 1) + cloud.pointStep.toNat * cloud.width.toNat := by
  obtain ⟨rows, rowsSmall⟩ := wide_mul_words cloud.rowStep (cloud.height - 1)
  obtain ⟨cells, cellsSmall⟩ := wide_mul_words cloud.pointStep cloud.width
  rw [wideNeeded, BitVec.toNat_add, rows, cells, Nat.mod_eq_of_lt (by omega), pred_toNat tall]

/-- A datatype's elements have at least one and at most eight bytes. -/
theorem elementSize_le {datatype : UInt8} {elementSize : UInt32}
    (known : codes.elementSize datatype = some elementSize) :
    0 < elementSize.toNat ∧ elementSize.toNat ≤ 8 := by
  unfold PointFieldCodes.elementSize at known
  repeat' split at known
  all_goals first
    | (obtain rfl := Option.some.inj known; decide)
    | simp at known

/-- A field fits when its datatype is known, it has an element, and its elements
lie in the cell. -/
theorem fieldFits_iff (codes : PointFieldCodes) (pointStep : UInt32) (field : PointField) :
    fieldFits codes pointStep field = true ↔ ∃ elementSize,
      codes.elementSize field.datatype = some elementSize ∧ field.count ≠ 0 ∧
        field.offset.toNat + elementSize.toNat * field.count.toNat ≤ pointStep.toNat := by
  unfold fieldFits
  cases known : codes.elementSize field.datatype with
  | none => simp
  | some elementSize =>
    simp only [Option.some.injEq, exists_eq_left']
    have positive := (elementSize_le known).1
    by_cases empty : field.count = 0
    · simp [empty]
    have count : field.count.toNat ≠ 0 := fun zero => empty (UInt32.toNat_inj.mp zero)
    have bytes : 0 < elementSize.toNat * field.count.toNat := Nat.mul_pos positive (by omega)
    by_cases outside : pointStep ≤ field.offset
    · rw [UInt32.le_iff_toNat_le] at outside
      have behind : ¬ field.offset.toNat + elementSize.toNat * field.count.toNat ≤
          pointStep.toNat := by omega
      simp [UInt32.le_iff_toNat_le, outside, behind]
    · have inside : field.offset ≤ pointStep := by
        rw [UInt32.le_iff_toNat_le] at outside ⊢
        omega
      have difference := UInt32.toNat_sub_of_le _ _ inside
      rw [UInt32.le_iff_toNat_le] at inside
      simp only [empty, outside, false_or, UInt64.lt_iff_toNat_lt, mul_words,
        UInt32.toNat_toUInt64, difference, ne_eq, not_false_eq_true, true_and]
      split
      · simp only [Bool.false_eq_true, false_iff]
        omega
      · simp only [true_iff]
        omega

/-- The loop accepts exactly when every field fits, in whichever order the fields are listed. -/
theorem fieldsFit_iff (codes : PointFieldCodes) (pointStep : UInt32) (fields : List PointField) :
    fieldsFit codes pointStep fields = true ↔
      ∀ field ∈ fields, fieldFits codes pointStep field = true := by
  induction fields with
  | nil => simp [fieldsFit]
  | cons field fields inductionHypothesis =>
    cases fits : fieldFits codes pointStep field with
    | false => simp [fieldsFit, fits]
    | true => simp [fieldsFit, fits, inductionHypothesis]

/-- The copy has the message's fields, in their order. -/
theorem copied_fields (message : GpuPointCloud2) (read : ReadHandle) :
    (copied message read).fields = message.fields :=
  List.map_id' _

/-- The checks in unbounded integers, as the comparisons they are meant to be. -/
structure Checked (codes : PointFieldCodes) (message : GpuPointCloud2) (read : ReadHandle) :
    Prop where
  valid : read.valid = true
  stepped : message.pointStep ≠ 0
  tall : message.height ≠ 0
  rows : message.pointStep.toNat * message.width.toNat ≤ message.rowStep.toNat
  last : message.rowStep.toNat * (message.height.toNat - 1) +
    message.pointStep.toNat * message.width.toNat ≤ read.byteSize.toNat
  fields : ∀ field ∈ message.fields, ∃ elementSize,
    codes.elementSize field.datatype = some elementSize ∧ field.count ≠ 0 ∧
      field.offset.toNat + elementSize.toNat * field.count.toNat ≤ message.pointStep.toNat

/-- A message is accepted exactly when it passes the checks in unbounded integers,
and the handle is the copy of it. -/
theorem fromMessage_iff (codes : PointFieldCodes) (message : GpuPointCloud2) (read : ReadHandle)
    (cloud : PointCloud2ReadHandle) : fromMessage codes message read = some cloud ↔
      Checked codes message read ∧ cloud = copied message read := by
  have sized := read.byteSize.toNat_lt
  have word : wideMax.toNat = 2 ^ 64 - 1 := by decide
  have rows : (message.rowStep.toUInt64 < message.pointStep.toUInt64 * message.width.toUInt64) ↔
      message.rowStep.toNat < message.pointStep.toNat * message.width.toNat := by
    rw [UInt64.lt_iff_toNat_lt, mul_words, UInt32.toNat_toUInt64]
  have fields : fieldsFit codes message.pointStep message.fields = true ↔
      ∀ field ∈ message.fields, ∃ elementSize,
        codes.elementSize field.datatype = some elementSize ∧ field.count ≠ 0 ∧
          field.offset.toNat + elementSize.toNat * field.count.toNat ≤ message.pointStep.toNat := by
    simp only [fieldsFit_iff, fieldFits_iff]
  have valid : (copied message read).valid = true ↔ read.valid = true ∧ message.pointStep ≠ 0 := by
    simp [PointCloud2ReadHandle.valid, copied, UInt32.pos_iff_ne_zero]
  constructor
  · intro accepted
    simp only [fromMessage, copied_fields] at accepted
    split at accepted
    · simp at accepted
    · next shaped =>
      split at accepted
      · simp at accepted
      · next inside =>
        split at accepted
        · simp at accepted
        · next fitting =>
          simp only [not_or, Bool.not_eq_false] at shaped fitting
          obtain ⟨isValid, tall, covered⟩ := shaped
          obtain ⟨readValid, stepped⟩ := valid.mp isValid
          simp only [not_or, BitVec.lt_def, word, wideNeeded_toNat tall] at inside
          rw [wide_toNat (by simp only [copied]; omega)] at inside
          refine ⟨⟨readValid, stepped, tall, ?_, ?_, fields.mp fitting⟩,
            (Option.some.inj accepted).symm⟩
          · have within := mt rows.mpr covered
            omega
          · simp only [copied] at inside
            omega
  · rintro ⟨checked, rfl⟩
    have tall : (copied message read).height ≠ 0 := checked.tall
    have isValid := valid.mpr ⟨checked.valid, checked.stepped⟩
    have covered : ¬ (copied message read).rowStep.toUInt64 <
        (copied message read).pointStep.toUInt64 * (copied message read).width.toUInt64 := by
      refine mt rows.mp ?_
      have within := checked.rows
      omega
    have last := checked.last
    have inside : ¬ (wideMax < (copied message read).wideNeeded ∨
        wide (copied message read).read.byteSize.toNat < (copied message read).wideNeeded) := by
      rw [BitVec.lt_def, BitVec.lt_def, word, wideNeeded_toNat tall,
        wide_toNat (by simp only [copied]; omega)]
      simp only [copied]
      omega
    have fitting := fields.mpr checked.fields
    simp only [fromMessage, copied_fields]
    rw [if_neg, if_neg inside, if_neg]
    · simpa [copied] using fitting
    · simp only [not_or, Bool.not_eq_false]
      exact ⟨isValid, tall, covered⟩

/-- Where the point in a row and a column begins, in bytes from the start of the data. -/
def pointAt (message : GpuPointCloud2) (row column : Nat) : Nat :=
  row * message.rowStep.toNat + column * message.pointStep.toNat

/-- Every element of a field of every point lies in the point and in the buffer. -/
def ElementsCovered (codes : PointFieldCodes) (message : GpuPointCloud2) (byteSize : Nat) : Prop :=
  ∀ row column, row < message.height.toNat → column < message.width.toNat →
    ∀ field ∈ message.fields, ∃ elementSize, codes.elementSize field.datatype = some elementSize ∧
      ∀ element < field.count.toNat,
        pointAt message row column + field.offset.toNat + element * elementSize.toNat +
            elementSize.toNat ≤ pointAt message row column + message.pointStep.toNat ∧
          pointAt message row column + field.offset.toNat + element * elementSize.toNat +
            elementSize.toNat ≤ byteSize

/-- The cells of different points have no byte in common, whichever rows and columns they are in. -/
def PointsApart (message : GpuPointCloud2) : Prop :=
  ∀ row column otherRow otherColumn, column < message.width.toNat →
    otherColumn < message.width.toNat → (row, column) ≠ (otherRow, otherColumn) →
      pointAt message row column + message.pointStep.toNat ≤
          pointAt message otherRow otherColumn ∨
        pointAt message otherRow otherColumn + message.pointStep.toNat ≤ pointAt message row column

/-- Every point of a checked cloud ends before the buffer does, because the last one does. -/
theorem Checked.point_inside (checked : Checked codes message read) {row column : Nat}
    (rowInside : row < message.height.toNat) (columnInside : column < message.width.toNat) :
    pointAt message row column + message.pointStep.toNat ≤ read.byteSize.toNat := by
  have last := checked.last
  have rows : row * message.rowStep.toNat ≤ (message.height.toNat - 1) * message.rowStep.toNat :=
    Nat.mul_le_mul_right _ (by omega)
  have cells := apart_along (Nat.le_refl message.pointStep.toNat) columnInside
  rw [Nat.mul_comm message.rowStep.toNat, Nat.mul_comm message.pointStep.toNat] at last
  unfold pointAt
  omega

/-- The elements of a checked cloud are covered: each lies in its point, and the point in the
buffer. -/
theorem Checked.covered (checked : Checked codes message read) :
    ElementsCovered codes message read.byteSize.toNat := by
  intro row column rowInside columnInside field member
  obtain ⟨elementSize, known, -, fits⟩ := checked.fields field member
  refine ⟨elementSize, known, fun element inside => ?_⟩
  have point := checked.point_inside rowInside columnInside
  have elements := apart_along (Nat.le_refl elementSize.toNat) inside
  rw [Nat.mul_comm elementSize.toNat] at fits
  omega

/-- The points of a checked cloud are apart, since a row holds its cells and the next one begins
behind them. -/
theorem Checked.apart (checked : Checked codes message read) : PointsApart message := by
  intro row column otherRow otherColumn columnInside otherInside different
  have covers := checked.rows
  have cases_ : (row < otherRow ∨ row = otherRow ∧ column < otherColumn) ∨
      otherRow < row ∨ otherRow = row ∧ otherColumn < column := by
    by_cases same : row = otherRow
    · have other : column ≠ otherColumn := fun equal => different (by rw [same, equal])
      omega
    · omega
  cases cases_ with
  | inl ordered => exact .inl (cells_apart covers columnInside ordered)
  | inr ordered => exact .inr (cells_apart covers otherInside ordered)

/-- What a rejected message violates, each alternative being one check of the source in unbounded
integers. -/
def Rejects (codes : PointFieldCodes) (message : GpuPointCloud2) (read : ReadHandle) : Prop :=
  read.valid = false ∨ message.pointStep = 0 ∨ message.height = 0 ∨
    message.rowStep.toNat < message.pointStep.toNat * message.width.toNat ∨
    read.byteSize.toNat < message.rowStep.toNat * (message.height.toNat - 1) +
      message.pointStep.toNat * message.width.toNat ∨
    ∃ field ∈ message.fields, codes.elementSize field.datatype = none ∨ field.count = 0 ∨
      ∃ elementSize, codes.elementSize field.datatype = some elementSize ∧
        message.pointStep.toNat < field.offset.toNat + elementSize.toNat * field.count.toNat

/-- An accepted message has its fields in order, every element inside its point and
the buffer, and points apart; a rejected one violates a check. -/
theorem fromMessage_sound (codes : PointFieldCodes) (message : GpuPointCloud2) (read : ReadHandle) :
    (∀ cloud, fromMessage codes message read = some cloud →
      ElementsCovered codes message read.byteSize.toNat ∧ PointsApart message ∧
        cloud.fields = message.fields) ∧
    (fromMessage codes message read = none → Rejects codes message read) := by
  constructor
  · intro cloud accepted
    obtain ⟨checked, rfl⟩ := (fromMessage_iff codes message read cloud).mp accepted
    exact ⟨checked.covered, checked.apart, copied_fields message read⟩
  · intro rejected
    by_contra passes
    simp only [Rejects, not_or, not_exists, not_and, Bool.not_eq_false, Nat.not_lt] at passes
    obtain ⟨valid, stepped, tall, rows, last, fields⟩ := passes
    have checked : Checked codes message read := by
      refine ⟨valid, stepped, tall, rows, last, fun field member => ?_⟩
      obtain ⟨known, counted, fits⟩ := fields field member
      obtain ⟨elementSize, found⟩ := Option.ne_none_iff_exists'.mp known
      exact ⟨elementSize, found, counted, fits elementSize found⟩
    have accepted := (fromMessage_iff codes message read _).mpr ⟨checked, rfl⟩
    rw [rejected] at accepted
    simp at accepted

end PointCloud2ReadHandle

end Ros2CudaIpc
