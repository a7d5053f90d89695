import PrivateRetrieval.Bytes

namespace PrivateRetrieval

/-!
# Row-major databases

A database is a byte string cut into rows of one positive length.  That the string is a whole number
of rows is part of the type, so a row that exists lies inside the string and no offset can exceed its
length.  A range of rows is a database again, with bounds of its own: rows outside the range are gone,
even though their bytes were in the string that it came from.
-/

/-- The rows from `start` up to but not including `stop`. -/
structure RowRange where
  start : Nat
  stop : Nat
  deriving DecidableEq

/-- The number of rows in a range, zero if it ends before it starts. -/
def RowRange.length (range : RowRange) : Nat := range.stop - range.start

/-- Test whether a range has no rows. -/
def RowRange.isEmpty (range : RowRange) : Bool := decide (range.stop ≤ range.start)

/-- A byte string that is a whole number of rows. -/
structure Database where
  /-- The bytes of all rows. -/
  data : Bytes
  /-- The number of rows. -/
  rows : Nat
  /-- The number of bytes in a row. -/
  rowLength : Nat
  rowLength_pos : 0 < rowLength
  size_eq : data.size = rows * rowLength

namespace Database

/-- The rows of a given length that a byte string consists of. -/
def ofBytes (data : Bytes) (rowLength : Nat) : Outcome Database :=
  if positive : 0 < rowLength then
    if whole : data.size % rowLength = 0 then
      .ok
        { data
          rows := data.size / rowLength
          rowLength
          rowLength_pos := positive
          size_eq := (Nat.div_mul_cancel (Nat.dvd_of_mod_eq_zero whole)).symm }
    else .error (.aggregation (.raggedDatabase data.size rowLength))
  else .error (.aggregation .emptyRow)

theorem rowLength_of_ofBytes {data : Bytes} {rowLength : Nat} {database : Database}
    (built : ofBytes data rowLength = .ok database) : database.rowLength = rowLength := by
  unfold ofBytes at built
  split at built
  · split at built
    · cases built
      rfl
    · cases built
  · cases built

theorem data_of_ofBytes {data : Bytes} {rowLength : Nat} {database : Database}
    (built : ofBytes data rowLength = .ok database) : database.data = data := by
  unfold ofBytes at built
  split at built
  · split at built
    · cases built
      rfl
    · cases built
  · cases built

/-- A database is what its own bytes are cut into. -/
theorem ofBytes_eq_ok (database : Database) :
    ofBytes database.data database.rowLength = .ok database := by
  rcases database with ⟨data, rows, rowLength, positive, size⟩
  have whole : data.size % rowLength = 0 := by
    rw [size]
    exact Nat.mul_mod_left rows rowLength
  have count : data.size / rowLength = rows := by
    rw [size]
    exact Nat.mul_div_cancel rows positive
  subst count
  exact (dif_pos positive).trans (dif_pos whole)

/-- The rows of a byte string that must be a given number. -/
def ofRows (data : Bytes) (rows rowLength : Nat) : Outcome Database := do
  let database ← ofBytes data rowLength
  require (database.rows = rows) (.aggregation (.databaseShape data.size rows rowLength))
  return database

/-- One row. -/
def row (database : Database) (index : Nat) : Outcome Bytes :=
  if index < database.rows then
    .ok (database.data.extract (index * database.rowLength) ((index + 1) * database.rowLength))
  else .error (.fault (.rowOutOfRange index database.rows))

/-- The rows of a range, as a database with bounds of its own. -/
def sliceRows (database : Database) (range : RowRange) : Outcome Database :=
  if inside : range.start ≤ range.stop ∧ range.stop ≤ database.rows then
    .ok
      { data :=
          database.data.extract (range.start * database.rowLength) (range.stop * database.rowLength)
        rows := range.length
        rowLength := database.rowLength
        rowLength_pos := database.rowLength_pos
        size_eq := by
          have bound : range.stop * database.rowLength ≤ database.data.size := by
            rw [database.size_eq]
            exact Nat.mul_le_mul_right _ inside.2
          rw [Array.size_extract, Nat.min_eq_left bound, RowRange.length, Nat.sub_mul] }
  else .error (.fault .sliceOutOfRange)

end Database
end PrivateRetrieval
