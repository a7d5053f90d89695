import Mathlib.Algebra.BigOperators.Ring.Finset
import PrivateRetrieval.Fold.Sum
import PrivateRetrieval.Proofs.Workers.Partition

namespace PrivateRetrieval
namespace Database

/-!
# Databases cut out of databases

A range of rows of a database is a database, from which a range can be cut again, and so on.  However
often that is done, what is left is a stretch of the rows of the first database, as long as the last
range, and it begins where the starts of all ranges add up to.  Its bytes are exactly its rows, one after
the other.

Every database polices its own rows.  A row that was cut off cannot be read, and a range that reaches
beyond the rows that are left is refused, although the first database still has the bytes.
-/

/-! ## Stretches of rows -/

/-- A view is the stretch of `count` rows of a database from row `first` on. -/
structure IsStretch (database : Database) (first count : Nat) (view : Database) : Prop where
  rows_eq : view.rows = count
  rowLength_eq : view.rowLength = database.rowLength
  within : first + count ≤ database.rows
  data_eq : view.data = database.data.extract (first * database.rowLength)
    ((first + count) * database.rowLength)

namespace IsStretch

variable {database view : Database} {first count : Nat}

/-- A database is the stretch of all its rows. -/
theorem whole (database : Database) : database.IsStretch 0 database.rows database where
  rows_eq := rfl
  rowLength_eq := rfl
  within := Nat.le_of_eq (Nat.zero_add _)
  data_eq := by
    rw [Nat.zero_mul, Nat.zero_add, ← database.size_eq, Array.extract_size]

/-- Rows of a stretch are cut out of the database. -/
theorem extract_eq (stretch : database.IsStretch first count view) (start : Nat) {stop : Nat}
    (inside : stop ≤ count) :
    view.data.extract (start * view.rowLength) (stop * view.rowLength) =
      database.data.extract ((first + start) * database.rowLength)
        ((first + stop) * database.rowLength) := by
  have clipped : (first + stop) * database.rowLength ≤ (first + count) * database.rowLength :=
    Nat.mul_le_mul_right _ (Nat.add_le_add_left inside first)
  rw [stretch.data_eq, stretch.rowLength_eq, Array.extract_extract, ← Nat.add_mul, ← Nat.add_mul,
    Nat.min_eq_left clipped]

/-- A range of a stretch is a stretch again, further on by the start of the range. -/
theorem slice (stretch : database.IsStretch first count view) {range : RowRange}
    (ordered : range.start ≤ range.stop) (inside : range.stop ≤ count) :
    ∃ part, view.sliceRows range = .ok part ∧
      database.IsStretch (first + range.start) range.length part := by
  have bound : range.stop ≤ view.rows := stretch.rows_eq.symm ▸ inside
  have length : range.start + range.length = range.stop := Nat.add_sub_of_le ordered
  have within := stretch.within
  refine ⟨_, dif_pos ⟨ordered, bound⟩, rfl, stretch.rowLength_eq, by omega, ?_⟩
  rw [Nat.add_assoc, length]
  exact stretch.extract_eq range.start inside

/-- A row of a stretch is a row of the database. -/
theorem rowBytes_eq (stretch : database.IsStretch first count view) {index : Nat}
    (inside : index < count) : view.rowBytes index = database.rowBytes (first + index) :=
  stretch.extract_eq index inside

theorem byteAt_eq (stretch : database.IsStretch first count view) {index position : Nat}
    (inside : index < count) (inRow : position < database.rowLength) :
    view.byteAt index position = database.byteAt (first + index) position := by
  have present : first + index < database.rows :=
    Nat.lt_of_lt_of_le (Nat.add_lt_add_left inside first) stretch.within
  rw [← getD_rowBytes (stretch.rows_eq.symm ▸ inside) (stretch.rowLength_eq.symm ▸ inRow),
    ← getD_rowBytes present inRow, stretch.rowBytes_eq inside]

end IsStretch

/-! ## Rows and bytes -/

theorem flatMap_rowBytes_of_le (database : Database) {count : Nat} (few : count ≤ database.rows) :
    ((List.range count).flatMap fun index => (database.rowBytes index).toList) =
      (database.data.extract 0 (count * database.rowLength)).toList := by
  induction count with
  | zero => rw [Nat.zero_mul, Array.extract_zero]; rfl
  | succ count earlier =>
      have forward : count * database.rowLength ≤ (count + 1) * database.rowLength :=
        Nat.mul_le_mul_right _ count.le_succ
      rw [List.range_succ, List.flatMap_append, List.flatMap_singleton,
        earlier (Nat.le_of_succ_le few), rowBytes, ← Array.toList_append,
        Array.extract_append_extract, Nat.zero_min, Nat.max_eq_right forward]

/-- The rows of a database, one after the other, are its bytes. -/
theorem exists_mapM_row (database : Database) :
    ∃ rows, (List.range database.rows).mapM database.row = .ok rows ∧
      rows.flatMap Array.toList = database.data.toList := by
  refine ⟨_, mapM_eq_ok fun index member => row_eq_ok (List.mem_range.mp member), ?_⟩
  rw [List.flatMap_map, database.flatMap_rowBytes_of_le (Nat.le_refl _), ← database.size_eq,
    Array.extract_size]

/-! ## Range after range -/

/-- Cut out a range of rows, a range of what is left, and so on. -/
def sliceAll (database : Database) (ranges : List RowRange) : Outcome Database :=
  ranges.foldlM sliceRows database

/-- Every range lies within the rows that are left by the one before it. -/
def Nested : (rows : Nat) → List RowRange → Prop
  | _, [] => True
  | rows, range :: later =>
      (range.start ≤ range.stop ∧ range.stop ≤ rows) ∧ Nested range.length later

instance Nested.decidable : (rows : Nat) → (ranges : List RowRange) → Decidable (Nested rows ranges)
  | _, [] => isTrue trivial
  | _, range :: later => @instDecidableAnd _ _ _ (Nested.decidable range.length later)

/-- The number of rows that the last range leaves, all of them if there is no range. -/
def rowsLeft (rows : Nat) (ranges : List RowRange) : Nat :=
  (ranges.getLast?.map RowRange.length).getD rows

/-- The row of the first database with which the rows that are left begin. -/
def firstLeft (ranges : List RowRange) : Nat :=
  (ranges.map RowRange.start).sum

theorem rowsLeft_cons (rows : Nat) (range : RowRange) (later : List RowRange) :
    rowsLeft rows (range :: later) = rowsLeft range.length later := by
  rw [rowsLeft, rowsLeft, List.getLast?_cons]
  cases later.getLast? <;> rfl

theorem sliceRows_eq_error {database : Database} {range : RowRange}
    (outside : ¬ (range.start ≤ range.stop ∧ range.stop ≤ database.rows)) :
    database.sliceRows range = .error (.fault .sliceOutOfRange) :=
  dif_neg outside

/-- Nested ranges cut a stretch down to a stretch of the same database. -/
theorem IsStretch.sliceAll_eq_ok {database view : Database} {first count : Nat} {ranges : List RowRange}
    (stretch : database.IsStretch first count view) (nested : Nested count ranges) :
    ∃ part, view.sliceAll ranges = .ok part ∧
      database.IsStretch (first + firstLeft ranges) (rowsLeft count ranges) part := by
  induction ranges generalizing first count view with
  | nil => exact ⟨view, rfl, stretch⟩
  | cons range later following =>
      rcases nested with ⟨⟨ordered, inside⟩, rest⟩
      rcases stretch.slice ordered inside with ⟨next, cut, shorter⟩
      rcases following shorter rest with ⟨part, done, final⟩
      refine ⟨part, ?_, ?_⟩
      · rw [Database.sliceAll, List.foldlM_cons, bind_of_eq_ok cut]
        exact done
      · rw [rowsLeft_cons, firstLeft, List.map_cons, List.sum_cons, ← Nat.add_assoc]
        exact final

/-- The first range that does not lie within the rows that are left ends it. -/
theorem sliceAll_eq_error {database : Database} {ranges : List RowRange}
    (broken : ¬ Nested database.rows ranges) :
    database.sliceAll ranges = .error (.fault .sliceOutOfRange) := by
  induction ranges generalizing database with
  | nil => exact absurd trivial broken
  | cons range later following =>
      rw [sliceAll, List.foldlM_cons]
      by_cases inside : range.start ≤ range.stop ∧ range.stop ≤ database.rows
      · rcases (IsStretch.whole database).slice inside.1 inside.2 with ⟨next, cut, stretch⟩
        rw [bind_of_eq_ok cut]
        apply following
        rw [stretch.rows_eq]
        exact fun rest => broken ⟨inside, rest⟩
      · exact bind_of_eq_error (sliceRows_eq_error inside) _

/-! ## Databases from byte strings -/

theorem ofBytes_of_ofRows {data : Bytes} {rows rowLength : Nat} {database : Database}
    (built : ofRows data rows rowLength = .ok database) : ofBytes data rowLength = .ok database := by
  cases cut : ofBytes data rowLength with
  | error failure =>
      rw [ofRows, bind_of_eq_error cut] at built
      cases built
  | ok all =>
      rw [ofRows, bind_of_eq_ok cut] at built
      rcases check_bind_eq_ok_iff.mp built with ⟨_, same⟩
      exact same

/-- What is left of a database after a list of ranges. -/
structure IsLeft (database : Database) (ranges : List RowRange) (view : Database) : Prop where
  rowLength_eq : view.rowLength = database.rowLength
  size_eq : view.data.size = view.rows * database.rowLength
  rows_eq : view.rows = rowsLeft database.rows ranges
  row_eq : ∀ index, index < view.rows → ∃ bytes, bytes.size = database.rowLength ∧
    view.row index = .ok bytes ∧ database.row (firstLeft ranges + index) = .ok bytes
  /-- All rows, one after the other, are all bytes. -/
  join_rows : ∃ rows, (List.range view.rows).mapM view.row = .ok rows ∧
    rows.flatMap Array.toList = view.data.toList
  /-- A row that was cut off is gone. -/
  row_refused : ∀ index, view.rows ≤ index →
    view.row index = .error (.fault (.rowOutOfRange index view.rows))
  /-- No range gets rows back that were cut off. -/
  range_refused : ∀ range : RowRange, ¬ (range.start ≤ range.stop ∧ range.stop ≤ view.rows) →
    view.sliceRows range = .error (.fault .sliceOutOfRange)

theorem IsStretch.isLeft {database view : Database} {ranges : List RowRange}
    (stretch : database.IsStretch (firstLeft ranges) (rowsLeft database.rows ranges) view) :
    database.IsLeft ranges view where
  rowLength_eq := stretch.rowLength_eq
  size_eq := stretch.rowLength_eq ▸ view.size_eq
  rows_eq := stretch.rows_eq
  row_eq index inside := by
    have below : index < rowsLeft database.rows ranges := stretch.rows_eq ▸ inside
    have present : firstLeft ranges + index < database.rows :=
      Nat.lt_of_lt_of_le (Nat.add_lt_add_left below _) stretch.within
    refine ⟨_, size_rowBytes present, ?_, row_eq_ok present⟩
    rw [row_eq_ok inside, stretch.rowBytes_eq below]
  join_rows := view.exists_mapM_row
  row_refused _ outside := row_eq_error outside
  range_refused _ outside := sliceRows_eq_error outside

/-- **Views stay faithful.**  A database that is made of a byte string has these bytes, in rows of the
length that was asked for.  Ranges that lie one within the other leave the rows of the last range, which
begin where all starts add up to; and if one of them does not lie within the rows that are left, no
database is left. -/
theorem slices_stay_faithful {data : Bytes} {rowLength : Nat} {database : Database}
    (built : ofBytes data rowLength = .ok database ∨
      ∃ rows, ofRows data rows rowLength = .ok database) (ranges : List RowRange) :
    (0 < database.rowLength ∧ database.rowLength = rowLength ∧ database.data = data) ∧
      (Nested database.rows ranges →
        ∃ view, database.sliceAll ranges = .ok view ∧ database.IsLeft ranges view) ∧
      (¬ Nested database.rows ranges →
        database.sliceAll ranges = .error (.fault .sliceOutOfRange)) := by
  have cut : ofBytes data rowLength = .ok database := by
    rcases built with cut | ⟨_, counted⟩
    · exact cut
    · exact ofBytes_of_ofRows counted
  refine ⟨⟨database.rowLength_pos, rowLength_of_ofBytes cut, data_of_ofBytes cut⟩, ?_,
    sliceAll_eq_error⟩
  intro nested
  rcases (IsStretch.whole database).sliceAll_eq_ok nested with ⟨view, left, stretch⟩
  rw [Nat.zero_add] at stretch
  exact ⟨view, left, stretch.isLeft⟩

/-- Six rows of two bytes. -/
def sixRows : Database where
  data := #[3, 1, 4, 1, 5, 9, 2, 6, 5, 3, 5, 8]
  rows := 6
  rowLength := 2
  rowLength_pos := Nat.two_pos
  size_eq := rfl

/-- Of six rows three ranges leave the fourth and the fifth.  The sixth is still a row of the first
database, but it is not read as the row after those two, and no range brings it back. -/
theorem slices_stay_faithful_of_six_rows :
    ofRows sixRows.data 6 2 = .ok sixRows ∧ Nested 6 [⟨1, 6⟩, ⟨1, 5⟩, ⟨1, 3⟩] ∧
      (∃ view, sixRows.sliceAll [⟨1, 6⟩, ⟨1, 5⟩, ⟨1, 3⟩] = .ok view ∧ view.rows = 2 ∧
        view.row 0 = .ok #[2, 6] ∧ sixRows.row 5 = .ok #[5, 8] ∧
        view.row 2 = .error (.fault (.rowOutOfRange 2 2)) ∧
        view.sliceRows ⟨1, 3⟩ = .error (.fault .sliceOutOfRange)) ∧
      ¬ Nested 6 [⟨1, 6⟩, ⟨1, 5⟩, ⟨1, 5⟩] ∧
      sixRows.sliceAll [⟨1, 6⟩, ⟨1, 5⟩, ⟨1, 5⟩] = .error (.fault .sliceOutOfRange) := by
  have built : ofRows sixRows.data 6 2 = .ok sixRows := rfl
  have nested : Nested 6 [⟨1, 6⟩, ⟨1, 5⟩, ⟨1, 3⟩] := by decide
  have broken : ¬ Nested 6 [⟨1, 6⟩, ⟨1, 5⟩, ⟨1, 5⟩] := by decide
  rcases (slices_stay_faithful (Or.inr ⟨6, built⟩) [⟨1, 6⟩, ⟨1, 5⟩, ⟨1, 3⟩]).2.1 nested with
    ⟨view, left, isLeft⟩
  have rows : view.rows = 2 := isLeft.rows_eq
  rcases isLeft.row_eq 0 (by rw [rows]; decide) with ⟨bytes, _, read, same⟩
  have fourth : sixRows.row 3 = .ok #[2, 6] := rfl
  cases fourth.symm.trans same
  refine ⟨built, nested, ⟨view, left, rows, read, rfl, ?_, ?_⟩, broken, ?_⟩
  · rw [isLeft.row_refused 2 (Nat.le_of_eq rows), rows]
  · exact isLeft.range_refused ⟨1, 3⟩ (by rw [rows]; decide)
  · exact (slices_stay_faithful (Or.inr ⟨6, built⟩) [⟨1, 6⟩, ⟨1, 5⟩, ⟨1, 5⟩]).2.2 broken

end Database
end PrivateRetrieval
