import PrivateRetrieval.Matrix.Shape

namespace PrivateRetrieval
namespace Matrix

/-!
# Entries of a matrix and of a product

The entry in a row and a column, and the entry of a product as a plain sum over the inner dimension.
The kernels of `Product` reach the same sums by adding whole rows.
-/

variable {w : Nat}

/-- The entry in a row and a column. -/
def entry (matrix : Matrix (BitVec w)) (i j : Nat) : BitVec w :=
  matrix.data.getD (i * matrix.cols + j) 0

/-- An entry plus the product's entry in a row and a column. -/
def productEntry (left right : Matrix (BitVec w)) (i j : Nat) (start : BitVec w) : BitVec w :=
  (List.range left.cols).foldl (fun sum k => sum + left.entry i k * right.entry k j) start

theorem row_eq_ok {α : Type} {matrix : Matrix α} {index : Nat} (inside : index < matrix.rows) :
    matrix.row index =
      .ok (matrix.data.extract (index * matrix.cols) ((index + 1) * matrix.cols)) :=
  if_pos inside

/-- A matrix is accepted exactly when its entries are as many as its shape asks for and that number
fits in 64 bits. -/
theorem ofArray_isOk_iff {α : Type} {data : Array α} {rows cols : Nat} :
    (∃ matrix, ofArray data rows cols = .ok matrix) ↔
      rows * cols < Size.limit ∧ data.size = rows * cols := by
  unfold ofArray
  by_cases fits : rows * cols < Size.limit
  · by_cases whole : data.size = rows * cols
    · simp [fits, whole]
    · simp [fits, whole]
  · simp [fits]

end Matrix
end PrivateRetrieval
