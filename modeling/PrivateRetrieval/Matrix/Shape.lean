import PrivateRetrieval.Size

namespace PrivateRetrieval

/-!
# Row-major matrices

A matrix is an array of entries, row after row, with a shape.  The number of entries is the product of
the numbers of rows and columns, and that product fits in 64 bits; both are part of the type.
-/

/-- The numbers of rows and columns of a matrix. -/
structure Shape where
  rows : Nat
  cols : Nat
  deriving DecidableEq

/-- A matrix with its entries row after row. -/
structure Matrix (α : Type) where
  /-- The shape of the matrix. -/
  shape : Shape
  /-- The entries, row after row. -/
  data : Array α
  size_eq : data.size = shape.rows * shape.cols
  fits : shape.rows * shape.cols < Size.limit

namespace Matrix

variable {α : Type}

/-- The number of rows. -/
def rows (matrix : Matrix α) : Nat := matrix.shape.rows

/-- The number of columns. -/
def cols (matrix : Matrix α) : Nat := matrix.shape.cols

/-- The matrix of a given shape with given entries. -/
def ofArray (data : Array α) (rows cols : Nat) : Outcome (Matrix α) :=
  if fits : rows * cols < Size.limit then
    if whole : data.size = rows * cols then .ok ⟨⟨rows, cols⟩, data, whole, fits⟩
    else .error (.aggregation (.matrixShape rows cols data.size))
  else .error (.fault .sizeOverflow)

/-- One row of a matrix. -/
def row (matrix : Matrix α) (index : Nat) : Outcome (Array α) :=
  if index < matrix.rows then
    .ok (matrix.data.extract (index * matrix.cols) ((index + 1) * matrix.cols))
  else .error (.fault .sliceOutOfRange)

end Matrix
end PrivateRetrieval
