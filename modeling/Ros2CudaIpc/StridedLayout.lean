import Mathlib.Data.List.Forall2

/-!
# Strided arrays

An array gives every dimension an extent and a stride, and an index has one entry
for each dimension. The element at an index lies at the sum of the strides, each
taken as often as its entry says. Strides may be zero, may overlap and may come in
any order.

One sum, over the last entry of each dimension, bounds every element: an array
without an empty dimension fits a buffer exactly when the element at its last
index does. Extents and strides are numbers without a width.
-/

namespace Ros2CudaIpc.StridedLayout

/-- One dimension of an array: how many entries it has, and how far they lie apart. -/
structure Dimension where
  extent : Nat
  stride : Nat
deriving DecidableEq, Repr

/-- Where the element at an index begins, each entry taken with the stride of its dimension. -/
def offset : List Dimension → List Nat → Nat
  | dimension :: dimensions, entry :: index => entry * dimension.stride + offset dimensions index
  | _, _ => 0

/-- An index with one entry below the extent of each dimension, and with no further entries. -/
def Inside (dimensions : List Dimension) (index : List Nat) : Prop :=
  List.Forall₂ (fun dimension entry => entry < dimension.extent) dimensions index

/-- The index with the last entry of every dimension, which exists where no dimension is empty. -/
def lastIndex (dimensions : List Dimension) : List Nat :=
  dimensions.map fun dimension => dimension.extent - 1

/-- Where the last element begins, the largest offset of all. -/
def lastOffset (dimensions : List Dimension) : Nat := offset dimensions (lastIndex dimensions)

variable {dimensions : List Dimension} {index : List Nat} {size limit : Nat}

/-- Without dimensions there is one element, at the start. -/
@[simp] theorem offset_nil (index : List Nat) : offset [] index = 0 := by
  cases index <;> rfl

/-- The first entry adds its share to the offset of the others. -/
@[simp] theorem offset_cons (dimension : Dimension) (entry : Nat) :
    offset (dimension :: dimensions) (entry :: index) =
      entry * dimension.stride + offset dimensions index := rfl

/-- Without dimensions the one element is the last, at the start. -/
@[simp] theorem lastOffset_nil : lastOffset [] = 0 := rfl

/-- The last entry of the first dimension adds its share to the last offset of the others. -/
@[simp] theorem lastOffset_cons (dimension : Dimension) :
    lastOffset (dimension :: dimensions) =
      (dimension.extent - 1) * dimension.stride + lastOffset dimensions := rfl

/-- Without dimensions the empty index is inside. -/
@[simp] theorem inside_nil : Inside [] [] := .nil

/-- An index is inside when its first entry is below the first extent and the others are inside. -/
@[simp] theorem inside_cons (dimension : Dimension) (entry : Nat) :
    Inside (dimension :: dimensions) (entry :: index) ↔
      entry < dimension.extent ∧ Inside dimensions index :=
  List.forall₂_cons

/-- No element begins behind the last one, as strides are not negative. By induction on the
dimensions. -/
theorem offset_le_last (inside : Inside dimensions index) :
    offset dimensions index ≤ lastOffset dimensions := by
  induction inside with
  | nil => exact Nat.le_refl 0
  | @cons dimension entry dimensions index below rest inductionHypothesis =>
    rw [offset_cons, lastOffset_cons]
    have last : entry ≤ dimension.extent - 1 := by omega
    exact Nat.add_le_add (Nat.mul_le_mul_right _ last) inductionHypothesis

/-- Without an empty dimension the last index is one of the array's. -/
theorem lastIndex_inside (nonempty : ∀ dimension ∈ dimensions, dimension.extent ≠ 0) :
    Inside dimensions (lastIndex dimensions) := by
  induction dimensions with
  | nil => exact .nil
  | cons dimension dimensions inductionHypothesis =>
    refine .cons ?_ (inductionHypothesis fun other member =>
      nonempty other (List.mem_cons_of_mem _ member))
    have positive := nonempty dimension (List.mem_cons_self ..)
    exact Nat.sub_one_lt positive

/-- Every element fits exactly when the last one does, for an array without an empty dimension. -/
theorem fits_iff (nonempty : ∀ dimension ∈ dimensions, dimension.extent ≠ 0) :
    (∀ index, Inside dimensions index → offset dimensions index + size ≤ limit) ↔
      lastOffset dimensions + size ≤ limit := by
  constructor
  · intro fits
    exact fits _ (lastIndex_inside nonempty)
  · intro last index inside
    have before := offset_le_last inside
    omega

/-- Along a dimension whose stride covers an element, a later element begins
behind the end of an earlier one. -/
theorem apart_along {stride entry later : Nat} (covers : size ≤ stride) (ordered : entry < later) :
    entry * stride + size ≤ later * stride := by
  have next : (entry + 1) * stride ≤ later * stride := Nat.mul_le_mul_right _ ordered
  rw [Nat.succ_mul] at next
  omega

/-- In rows which hold all their cells, a cell of an earlier row, or an earlier one
of the same row, ends before a later cell begins. -/
theorem cells_apart {columns rowStep row column laterRow laterColumn : Nat}
    (covers : size * columns ≤ rowStep) (inside : column < columns)
    (ordered : row < laterRow ∨ row = laterRow ∧ column < laterColumn) :
    row * rowStep + column * size + size ≤ laterRow * rowStep + laterColumn * size := by
  cases ordered with
  | inl earlier =>
    have cell : (column + 1) * size ≤ columns * size := Nat.mul_le_mul_right _ inside
    have rows := apart_along (Nat.le_refl rowStep) earlier
    rw [Nat.succ_mul] at cell
    rw [Nat.mul_comm] at covers
    omega
  | inr same =>
    obtain ⟨rfl, earlier⟩ := same
    have cells := apart_along (Nat.le_refl size) earlier
    omega

end Ros2CudaIpc.StridedLayout
