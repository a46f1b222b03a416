import Ros2CudaIpc.MemoryImporter
import Mathlib.Algebra.Order.Group.Nat

/-!
# One allocation size for both sides

The publisher rounds a block's byte size up to the granularity before it allocates;
the importer rounds the message's byte size with its own copy of the function and
puts one granule in place of zero. Both add in 64 bits. Where the sum stays inside
the word the two sizes are the least multiple which covers the request; where it
wraps, neither covers it.
-/

namespace Ros2CudaIpc

variable {value byteSize granularity : UInt64}

/-- `align_up` of the publisher's backend, the same function over `uint64_t` as the importer's
copy. -/
def alignUp (value alignment : UInt64) : UInt64 :=
  if alignment = 0 then value
  else if value % alignment = 0 then value
  else value + alignment - value % alignment

/-- The two copies compute one function, word for word. A change to only one of them would be
found here. -/
theorem alignUp_eq (value alignment : UInt64) :
    alignUp value alignment = alignUpSize value alignment := rfl

/-- What the importer's size owes a request: whole granules, no fewer bytes than
asked for, less than one granule more, and the publisher's own size. -/
structure CoversRequest (byteSize granularity : UInt64) : Prop where
  whole : granularity.toNat ∣ (mappedSize byteSize granularity).toNat
  requested : byteSize.toNat ≤ (mappedSize byteSize granularity).toNat
  tight : 0 < byteSize →
    (mappedSize byteSize granularity).toNat < byteSize.toNat + granularity.toNat
  shared : 0 < byteSize → mappedSize byteSize granularity = alignUp byteSize granularity

/-- A word which is not zero is positive as a number, so divisions by it can be reasoned about
there. -/
theorem toNat_pos_of_ne_zero (nonzero : value ≠ 0) : 0 < value.toNat := by
  have other : value.toNat ≠ 0 := fun zero => nonzero (UInt64.toNat_inj.mp zero)
  omega

/-- Rounding inside the word lands on whole granules, between the request and one
granule behind it. -/
theorem alignUpSize_least (nonzero : granularity ≠ 0)
    (fits : RoundsWithoutWrap byteSize granularity) :
    granularity.toNat ∣ (alignUpSize byteSize granularity).toNat ∧
      byteSize.toNat ≤ (alignUpSize byteSize granularity).toNat ∧
      (alignUpSize byteSize granularity).toNat < byteSize.toNat + granularity.toNat := by
  have positive := toNat_pos_of_ne_zero nonzero
  by_cases remains : byteSize % granularity = 0
  · have same : alignUpSize byteSize granularity = byteSize := by
      simp [alignUpSize, remains]
    have divides : granularity.toNat ∣ byteSize.toNat := by
      refine Nat.dvd_of_mod_eq_zero ?_
      rw [← UInt64.toNat_mod, remains]
      rfl
    rw [same]
    exact ⟨divides, Nat.le_of_eq rfl, by omega⟩
  · have sum : byteSize.toNat + granularity.toNat - byteSize.toNat % granularity.toNat < 2 ^ 64 :=
      (fits.resolve_left nonzero).resolve_left remains
    have below : byteSize.toNat % granularity.toNat ≤ byteSize.toNat := Nat.mod_le _ _
    have smaller : byteSize.toNat % granularity.toNat < granularity.toNat := Nat.mod_lt _ positive
    have remainder : 0 < byteSize.toNat % granularity.toNat := by
      rw [← UInt64.toNat_mod]
      exact toNat_pos_of_ne_zero remains
    rw [alignUpSize_toNat byteSize granularity nonzero remains, Nat.mod_eq_of_lt sum]
    refine ⟨?_, by omega, by omega⟩
    have split : byteSize.toNat + granularity.toNat - byteSize.toNat % granularity.toNat =
        (byteSize.toNat - byteSize.toNat % granularity.toNat) + granularity.toNat := by omega
    rw [split]
    exact Nat.dvd_add (Nat.dvd_sub_mod _) (Nat.dvd_refl _)

/-- A request for bytes which rounds inside the word is not rounded to nothing, so
the importer keeps the rounded size. -/
theorem mappedSize_of_pos (nonzero : granularity ≠ 0) (asked : 0 < byteSize)
    (fits : RoundsWithoutWrap byteSize granularity) :
    mappedSize byteSize granularity = alignUpSize byteSize granularity := by
  have covered := (alignUpSize_least nonzero fits).2.1
  have positive : 0 < byteSize.toNat := UInt64.lt_iff_toNat_lt.mp asked
  refine if_neg fun zero => ?_
  rw [zero] at covered
  simp at covered
  omega

/-- A request for no bytes maps one granule, because the rounded size is zero and is replaced. -/
theorem mappedSize_zero (granularity : UInt64) : mappedSize 0 granularity = granularity := by
  simp [mappedSize, alignUpSize]

/-- The importer's size covers the request, tightly and in agreement with the
publisher, exactly when the rounding does not wrap. -/
theorem coversRequest_iff (byteSize granularity : UInt64) (nonzero : 1 ≤ granularity) :
    CoversRequest byteSize granularity ↔ RoundsWithoutWrap byteSize granularity := by
  have granule : granularity ≠ 0 := by
    rintro rfl
    exact absurd nonzero (by decide)
  constructor
  · intro covers
    exact (le_mappedSize_iff byteSize granularity).mp (UInt64.le_iff_toNat_le.mpr covers.requested)
  · intro fits
    by_cases bytes : byteSize = 0
    · subst bytes
      have nothing : ¬ (0 : UInt64) < 0 := by decide
      have granules : granularity.toNat ∣ (mappedSize 0 granularity).toNat :=
        (mappedSize_zero granularity).symm ▸ Nat.dvd_refl _
      exact ⟨granules, Nat.zero_le _, fun asked => absurd asked nothing,
        fun asked => absurd asked nothing⟩
    have asked : 0 < byteSize := UInt64.pos_iff_ne_zero.mpr bytes
    have same := mappedSize_of_pos granule asked fits
    obtain ⟨whole, requested, tight⟩ := alignUpSize_least granule fits
    exact ⟨same ▸ whole, same ▸ requested, fun _ => same ▸ tight,
      fun _ => same.trans (alignUp_eq byteSize granularity).symm⟩

/-- Three bytes in granules of two are covered, by two granules and one byte to spare. -/
theorem coversRequest_three : 1 ≤ (2 : UInt64) ∧ CoversRequest 3 2 :=
  ⟨by decide, (coversRequest_iff 3 2 (by decide)).mpr (by decide)⟩

/-- Near the top of the word the rounding wraps: of a request for all but one byte
of the address space in granules of 2 MiB one granule is mapped. -/
theorem wrapped_request_uncovered :
    1 ≤ (2097152 : UInt64) ∧ ¬ CoversRequest 18446744073709551615 2097152 := by
  refine ⟨by decide, fun covers => ?_⟩
  have requested := covers.requested
  revert requested
  decide

end Ros2CudaIpc
