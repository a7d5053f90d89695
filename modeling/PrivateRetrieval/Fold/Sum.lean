import PrivateRetrieval.Field.Element
import PrivateRetrieval.Database

namespace PrivateRetrieval

/-!
# Plain sums over rows

What a fold adds into its output, said position by position and without a buffer: at each byte the
exclusive or of that byte in the chosen rows, and at each block the field sum of that block in all rows
times their weights.  The folds walk a packed selection or a list of weights, pass over what adds
nothing, and may share the work; the sums here do none of that.
-/

namespace Database

/-- The bytes of a row. -/
def rowBytes (database : Database) (index : Nat) : Bytes :=
  database.data.extract (index * database.rowLength) ((index + 1) * database.rowLength)

/-- One byte of a row. -/
def byteAt (database : Database) (index position : Nat) : UInt8 :=
  database.data.getD (index * database.rowLength + position) 0

/-- One block of a row, as a field element. -/
def elementAt (database : Database) (index block : Nat) : Element :=
  ⟨Block.ofByteAt fun j => database.byteAt index (Block.byteCount * block + j)⟩

/-- A byte plus the bytes of the chosen rows at one position. -/
def selectedSum (database : Database) (chosen : Nat → Bool) (position : Nat) (start : UInt8) :
    UInt8 :=
  (List.range database.rows).foldl
    (fun sum index => if chosen index then sum ^^^ database.byteAt index position else sum) start

/-- An element plus the weighted elements of all rows at one block. -/
def weightedSum (database : Database) (weight : Nat → Element) (block : Nat) (start : Element) :
    Element :=
  (List.range database.rows).foldl
    (fun sum index => sum + weight index * database.elementAt index block) start

theorem row_eq_ok {database : Database} {index : Nat} (inside : index < database.rows) :
    database.row index = .ok (database.rowBytes index) :=
  if_pos inside

theorem row_eq_error {database : Database} {index : Nat} (outside : database.rows ≤ index) :
    database.row index = .error (.fault (.rowOutOfRange index database.rows)) :=
  if_neg (Nat.not_lt_of_ge outside)

theorem size_rowBytes {database : Database} {index : Nat} (inside : index < database.rows) :
    (database.rowBytes index).size = database.rowLength := by
  have bound : (index + 1) * database.rowLength ≤ database.data.size := by
    rw [database.size_eq]
    exact Nat.mul_le_mul_right _ inside
  rw [rowBytes, Array.size_extract, Nat.min_eq_left bound, Nat.succ_mul, Nat.add_sub_cancel_left]

/-- A row has the bytes of the database from its offset on. -/
theorem getD_rowBytes {database : Database} {index position : Nat} (inside : index < database.rows)
    (inRow : position < database.rowLength) :
    (database.rowBytes index).getD position 0 = database.byteAt index position := by
  have bound : (index + 1) * database.rowLength ≤ database.data.size := by
    rw [database.size_eq]
    exact Nat.mul_le_mul_right _ inside
  rw [Nat.succ_mul] at bound
  rw [rowBytes, byteAt, Array.getD_eq_getD_getElem?, Array.getElem?_extract, Nat.succ_mul,
    if_pos (by omega), Array.getD_eq_getD_getElem?]

end Database
end PrivateRetrieval
