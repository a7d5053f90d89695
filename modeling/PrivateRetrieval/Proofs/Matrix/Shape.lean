import Mathlib.Algebra.Group.Nat.Defs
import PrivateRetrieval.Database
import PrivateRetrieval.Matrix.Entry

namespace PrivateRetrieval
namespace Matrix

/-!
# Which entries have which shape

Entries are accepted as a matrix if they are as many as rows times columns.  The product is that of the
numbers, not that of words: entries in memory are fewer than `2 ^ 64`, so if they are as many as the
product, the product is a word.  Every row of an accepted matrix is therefore a piece of its entries.

Entries of another number are refused by name of the shape, but only if the product is a word.  If it is
not, there is no refusal: the product itself breaks off.  A database does not have this gap, since its rows
are counted by division.
-/

variable {α : Type} {data : Array α} {rows cols : Nat}

theorem of_ofArray_eq_ok {matrix : Matrix α} (accepted : ofArray data rows cols = .ok matrix) :
    matrix.shape = ⟨rows, cols⟩ ∧ matrix.data = data := by
  unfold ofArray at accepted
  split at accepted
  · split at accepted
    · cases accepted
      exact ⟨rfl, rfl⟩
    · cases accepted
  · cases accepted

theorem ofArray_eq_refusal_iff :
    ofArray data rows cols = .error (.aggregation (.matrixShape rows cols data.size)) ↔
      data.size ≠ rows * cols ∧ rows * cols < Size.limit := by
  unfold ofArray
  by_cases fits : rows * cols < Size.limit
  · by_cases whole : data.size = rows * cols <;> simp [fits, whole]
  · simp [fits]

theorem ofArray_eq_overflow_iff :
    ofArray data rows cols = .error (.fault .sizeOverflow) ↔ Size.limit ≤ rows * cols := by
  unfold ofArray
  by_cases fits : rows * cols < Size.limit
  · by_cases whole : data.size = rows * cols <;> simp [fits, whole]
  · simp [fits, Nat.le_of_not_gt fits]

/-- A row of a matrix ends within its entries. -/
theorem row_inside (matrix : Matrix α) {index : Nat} (inside : index < matrix.rows) :
    (index + 1) * matrix.cols ≤ matrix.data.size := by
  rw [matrix.size_eq]
  exact Nat.mul_le_mul_right _ inside

theorem exists_row (matrix : Matrix α) {index : Nat} (inside : index < matrix.rows) :
    ∃ entries, matrix.row index = .ok entries ∧ entries.size = matrix.cols := by
  refine ⟨_, row_eq_ok inside, ?_⟩
  rw [Array.size_extract, Nat.min_eq_left (matrix.row_inside inside), Nat.succ_mul,
    Nat.add_sub_cancel_left]

/-- What becomes of entries that are to have a shape. -/
structure Admits (data : Array α) (rows cols : Nat) : Prop where
  accepts_iff : (∃ matrix, ofArray data rows cols = .ok matrix) ↔ data.size = rows * cols
  shape_eq : ∀ matrix, ofArray data rows cols = .ok matrix →
    matrix.shape = ⟨rows, cols⟩ ∧ matrix.data = data
  /-- No row of an accepted matrix reaches beyond the entries. -/
  rows_inside : ∀ matrix, ofArray data rows cols = .ok matrix → ∀ index, index < rows →
    (index + 1) * cols ≤ data.size ∧
      ∃ entries, matrix.row index = .ok entries ∧ entries.size = cols
  refuses_iff :
    ofArray data rows cols = .error (.aggregation (.matrixShape rows cols data.size)) ↔
      data.size ≠ rows * cols ∧ rows * cols < Size.limit
  /-- The product of the shape is where it ends if that is no word. -/
  overflows_iff : ofArray data rows cols = .error (.fault .sizeOverflow) ↔ Size.limit ≤ rows * cols

/-- **Shapes of matrices.**  Entries in memory are accepted exactly if they are as many as the shape says,
without any wrapping, and the rows of what is accepted lie within the entries.  All other entries are
refused as long as the number that the shape asks for is a word. -/
theorem admits_exact_shapes (inMemory : data.size < Size.limit) (rows cols : Nat) :
    Admits data rows cols where
  accepts_iff := by
    rw [ofArray_isOk_iff]
    exact ⟨And.right, fun whole => ⟨whole ▸ inMemory, whole⟩⟩
  shape_eq _ accepted := of_ofArray_eq_ok accepted
  rows_inside matrix accepted index inside := by
    rcases matrix with ⟨shape, entries, size, fits⟩
    rcases of_ofArray_eq_ok accepted with ⟨rfl, rfl⟩
    exact ⟨row_inside ⟨_, _, size, fits⟩ inside, exists_row ⟨_, _, size, fits⟩ inside⟩
  refuses_iff := ofArray_eq_refusal_iff
  overflows_iff := ofArray_eq_overflow_iff

/-- Six entries have two rows of three columns and not four of two.  They are refused for a shape whose
product just fits in 64 bits. -/
theorem admits_six_entries :
    (#[3, 1, 4, 1, 5, 9] : Array (BitVec 32)).size < Size.limit ∧
      (∃ matrix, ofArray (#[3, 1, 4, 1, 5, 9] : Array (BitVec 32)) 2 3 = .ok matrix) ∧
      ofArray (#[3, 1, 4, 1, 5, 9] : Array (BitVec 32)) 4 2 =
        .error (.aggregation (.matrixShape 4 2 6)) ∧
      ofArray (#[3, 1, 4, 1, 5, 9] : Array (BitVec 32)) (2 ^ 32 - 1) (2 ^ 32 + 1) =
        .error (.aggregation (.matrixShape (2 ^ 32 - 1) (2 ^ 32 + 1) 6)) := by
  have short : (#[3, 1, 4, 1, 5, 9] : Array (BitVec 32)).size < Size.limit := by decide
  exact ⟨short, (admits_exact_shapes short 2 3).accepts_iff.mpr rfl,
    (admits_exact_shapes short 4 2).refuses_iff.mpr ⟨by decide, by decide⟩,
    (admits_exact_shapes short (2 ^ 32 - 1) (2 ^ 32 + 1)).refuses_iff.mpr
      ⟨by decide, by decide⟩⟩

/-- No entries at all are not refused for a shape of `2 ^ 32` rows and as many columns, and no bytes at
all are refused as a database of that shape. -/
theorem large_shape_is_not_refused :
    (#[] : Array (BitVec 32)).size ≠ 2 ^ 32 * 2 ^ 32 ∧
      ofArray (#[] : Array (BitVec 32)) (2 ^ 32) (2 ^ 32) = .error (.fault .sizeOverflow) ∧
      Database.ofRows #[] (2 ^ 32) (2 ^ 32) =
        .error (.aggregation (.databaseShape 0 (2 ^ 32) (2 ^ 32))) :=
  ⟨by decide, ofArray_eq_overflow_iff.mpr (Nat.le_refl _), rfl⟩

end Matrix
end PrivateRetrieval
