import TritonBackend.CommonCore
import Mathlib.Algebra.Order.BigOperators.GroupWithZero.List
import Mathlib.Algebra.Order.Ring.Int

/-!
The byte size of a shape that is known and fits in 63 bits is the product of its
dimensions times the size of an element.
-/

namespace TritonBackend

/-- The number of elements of a shape; a shape without dimensions holds none. -/
def shapeElementCount (dims : List Int) : Int := if dims = [] then 0 else dims.prod

def shapeByteSize (dtype : DataType) (dims : List Int) : Int :=
  shapeElementCount dims * dataTypeByteSize dtype

/-- Elements have a fixed size, no dimension is a wildcard and the size does not overflow. -/
structure KnownShape (dtype : DataType) (dims : List Int) : Prop where
  fixed : 0 < dataTypeByteSize dtype
  nonneg : ∀ dim ∈ dims, 0 ≤ dim
  fits : shapeByteSize dtype dims < 2 ^ 63

instance (dtype : DataType) (dims : List Int) : Decidable (KnownShape dtype dims) :=
  decidable_of_iff (0 < dataTypeByteSize dtype ∧ (∀ dim ∈ dims, 0 ≤ dim) ∧
      shapeByteSize dtype dims < 2 ^ 63)
    ⟨fun ⟨fixed, nonneg, fits⟩ => ⟨fixed, nonneg, fits⟩,
      fun ⟨fixed, nonneg, fits⟩ => ⟨fixed, nonneg, fits⟩⟩

theorem toInt64_mul (first second : Int) :
    toInt64 (toInt64 first * second) = toInt64 (first * second) := Int.bmod_mul_bmod

theorem toInt64_of_fits {value : Int} (nonneg : 0 ≤ value) (fits : value < 2 ^ 63) :
    toInt64 value = value := by
  simp only [toInt64, Int.bmod_def]
  omega

theorem toSize_of_fits {value : Int} (nonneg : 0 ≤ value) (fits : value < 2 ^ 63) :
    toSize value = value.toNat := by
  simp only [toSize]
  omega

/-- Up to overflow the count is the product. -/
theorem elementCountFrom_prod {dims : List Int} (nonneg : ∀ dim ∈ dims, 0 ≤ dim) (cnt : Int) :
    toInt64 (elementCountFrom false cnt dims) = toInt64 (cnt * dims.prod) := by
  induction dims generalizing cnt with
  | nil => simp [elementCountFrom]
  | cons dim rest ih =>
      have known : dim ≠ wildcardDim := by
        have lower := nonneg dim List.mem_cons_self
        simp only [wildcardDim]
        omega
      have later := ih (fun other member => nonneg other (List.mem_cons_of_mem _ member))
        (toInt64 (cnt * dim))
      simp only [elementCountFrom, known, if_false, Bool.false_eq_true, later, toInt64_mul,
        List.prod_cons, Int.mul_assoc]

theorem getElementCount_prod {dims : List Int} (nonneg : ∀ dim ∈ dims, 0 ≤ dim) :
    toInt64 (getElementCount dims) = toInt64 (shapeElementCount dims) := by
  cases dims with
  | nil => rfl
  | cons dim rest =>
      have known : dim ≠ wildcardDim := by
        have lower := nonneg dim List.mem_cons_self
        simp only [wildcardDim]
        omega
      have later := elementCountFrom_prod
        (fun other member => nonneg other (List.mem_cons_of_mem dim member)) dim
      simp only [getElementCount, elementCountFrom, known, if_false, if_true, later, shapeElementCount,
        List.prod_cons, reduceCtorEq]

theorem elementCount_nonneg {dims : List Int} (nonneg : ∀ dim ∈ dims, 0 ≤ dim) :
    0 ≤ shapeElementCount dims := by
  rw [shapeElementCount]
  split
  · exact Int.le_refl 0
  · exact List.prod_nonneg nonneg

theorem getByteSize_known {dtype : DataType} {dims : List Int} (known : KnownShape dtype dims) :
    getByteSize dtype dims = shapeByteSize dtype dims := by
  obtain ⟨fixed, nonneg, fits⟩ := known
  have count := elementCount_nonneg nonneg
  have same := getElementCount_prod nonneg
  have size : 0 ≤ shapeByteSize dtype dims := Int.mul_nonneg count (Int.natCast_nonneg _)
  have small : shapeElementCount dims < 2 ^ 63 := by
    have grows : shapeElementCount dims * 1 ≤ shapeElementCount dims * (dataTypeByteSize dtype : Int) :=
      Int.mul_le_mul_of_nonneg_left (by omega) count
    simp only [shapeByteSize] at fits
    omega
  have counted : getElementCount dims ≠ -1 := by
    intro wildcard
    rw [wildcard, toInt64_of_fits count small] at same
    have minus : toInt64 (-1) = -1 := by decide
    omega
  simp only [getByteSize, Nat.pos_iff_ne_zero.mp fixed, counted, if_false]
  rw [← toInt64_mul, same, toInt64_mul]
  exact toInt64_of_fits size fits

theorem getByteSize_toSize {dtype : DataType} {dims : List Int} (known : KnownShape dtype dims) :
    toSize (getByteSize dtype dims) = (shapeByteSize dtype dims).toNat := by
  rw [getByteSize_known known]
  exact toSize_of_fits (Int.mul_nonneg (elementCount_nonneg known.nonneg) (Int.natCast_nonneg _))
    known.fits

/-! Shapes whose size may not fit. -/

@[simp] theorem toInt64_toInt64 (value : Int) : toInt64 (toInt64 value) = toInt64 value := by
  simp [toInt64]

theorem elementCountFrom_wrapped {dims : List Int} {cnt : Int} (held : toInt64 cnt = cnt) :
    toInt64 (elementCountFrom false cnt dims) = elementCountFrom false cnt dims := by
  induction dims generalizing cnt with
  | nil => exact held
  | cons dim rest ih =>
      simp only [elementCountFrom]
      split
      · decide
      · exact ih (toInt64_toInt64 _)

theorem getElementCount_eq {dims : List Int} (some : dims ≠ [])
    (held : ∀ dim ∈ dims, 0 ≤ dim ∧ dim < 2 ^ 63) :
    getElementCount dims = toInt64 dims.prod := by
  have count := getElementCount_prod fun dim member => (held dim member).1
  rw [shapeElementCount, if_neg some] at count
  rw [← count]
  cases dims with
  | nil => exact absurd rfl some
  | cons dim rest =>
      obtain ⟨nonneg, fits⟩ := held dim List.mem_cons_self
      simp only [getElementCount, elementCountFrom]
      split
      · rfl
      · exact (elementCountFrom_wrapped (toInt64_of_fits nonneg fits)).symm

theorem toInt64_lt (value : Int) : toInt64 value < 2 ^ 63 := by
  simp only [toInt64, Int.bmod_def]
  omega

theorem toInt64_minus_one {value : Int} : toInt64 value = -1 ↔ value % 2 ^ 64 = 2 ^ 64 - 1 := by
  simp only [toInt64, Int.bmod_def]
  omega

/-- Elements of one byte are counted once; a count of others is even. -/
theorem size_minus_one {dtype : DataType} {count : Int}
    (minus : toInt64 (count * dataTypeByteSize dtype) = -1) : toInt64 count = -1 := by
  rw [toInt64_minus_one] at minus ⊢
  cases dtype <;> simp only [dataTypeByteSize] at minus <;> omega

/-- The byte size is the product or unknown exactly if the product fits in 63 bits or its low
64 bits are all set, which is the count of a wildcard. -/
theorem getByteSize_exact_iff {dtype : DataType} {dims : List Int}
    (fixed : 0 < dataTypeByteSize dtype) (some : dims ≠ [])
    (held : ∀ dim ∈ dims, 0 ≤ dim ∧ dim < 2 ^ 63) :
    getByteSize dtype dims = dims.prod * dataTypeByteSize dtype ∨ getByteSize dtype dims = -1 ↔
      dims.prod * dataTypeByteSize dtype < 2 ^ 63 ∨ dims.prod % 2 ^ 64 = 2 ^ 64 - 1 := by
  have nonneg : 0 ≤ dims.prod * dataTypeByteSize dtype :=
    Int.mul_nonneg (List.prod_nonneg fun dim member => (held dim member).1) (Int.natCast_nonneg _)
  rw [← toInt64_minus_one, getByteSize, getElementCount_eq some held]
  simp only [Nat.pos_iff_ne_zero.mp fixed, if_false]
  by_cases wildcard : toInt64 dims.prod = -1
  · simp only [wildcard, if_true, or_true]
  · simp only [wildcard, if_false, or_false, toInt64_mul]
    constructor
    · rintro (exactly | minus)
      · rw [← exactly]
        exact toInt64_lt _
      · exact absurd (size_minus_one minus) wildcard
    · intro fits
      exact Or.inl (toInt64_of_fits nonneg fits)

theorem getByteSize_exact_image : getByteSize .fp32 [3, 224, 224] = [3, 224, 224].prod * 4 ∨
    getByteSize .fp32 [3, 224, 224] = -1 :=
  (getByteSize_exact_iff (by decide) (by decide) (by decide)).mpr (Or.inl (by decide))

/-- 2^62 by 4 elements: the count wraps to 0. -/
theorem not_getByteSize_exact_wrapped :
    ¬ (getByteSize .fp32 [2 ^ 62, 4] = [2 ^ 62, 4].prod * dataTypeByteSize .fp32 ∨
      getByteSize .fp32 [2 ^ 62, 4] = -1) := by
  decide

end TritonBackend
