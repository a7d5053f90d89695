import PrivateRetrieval.Proofs.Fold.Selected
import PrivateRetrieval.Proofs.Slicing
import PrivateRetrieval.Proofs.Workers.Rows

namespace PrivateRetrieval

/-!
# The parallel fold of selected rows is the same sum

Each worker folds a range of rows that starts at a whole byte of the selection, so its part of the
selection speaks of its part of the rows.  Into a row of zeros it adds the plain sum over its range.  The
ranges tile the rows, and adding up the sums over all ranges is the sum over all rows.  An empty range
has no task; its row stays zero, which is the sum over no rows.
-/

namespace Database

/-! ## Sums over ranges -/

/-- A byte plus the bytes of the chosen rows of a range at one position. -/
def rangeSum (database : Database) (chosen : Nat → Bool) (position : Nat) (range : RowRange)
    (start : UInt8) : UInt8 :=
  (List.range' range.start range.length).foldl
    (fun sum index => if chosen index then sum ^^^ database.byteAt index position else sum) start

variable (database : Database) (chosen : Nat → Bool) (position : Nat)

theorem rangeSum_of_isEmpty {range : RowRange} (empty : range.isEmpty = true) (start : UInt8) :
    database.rangeSum chosen position range start = start := by
  have none : range.length = 0 := Nat.sub_eq_zero_of_le (of_decide_eq_true empty)
  rw [rangeSum, none]
  rfl

/-- A sum can be taken from zero and added later. -/
theorem rangeSum_eq_xor (range : RowRange) (start : UInt8) :
    database.rangeSum chosen position range start =
      start ^^^ database.rangeSum chosen position range 0 := by
  unfold rangeSum
  generalize List.range' range.start range.length = rows
  induction rows generalizing start with
  | nil => exact UInt8.xor_zero.symm
  | cons row rest later =>
      rw [List.foldl_cons, List.foldl_cons, later]
      conv => rhs; rw [later]
      cases chosen row with
      | true => simp only [if_true, UInt8.zero_xor, UInt8.xor_assoc]
      | false => simp only [Bool.false_eq_true, if_false, UInt8.zero_xor]

/-- The sums over consecutive ranges add up to the sum over all rows. -/
theorem foldl_rangeSum {ranges : List RowRange}
    (tiles : Workers.Tiles 0 ranges database.rows) (start : UInt8) :
    ranges.foldl (fun sum range => sum ^^^ database.rangeSum chosen position range 0) start =
      database.selectedSum chosen position start := by
  simp only [← rangeSum_eq_xor]
  unfold rangeSum
  rw [tiles.foldl_eq, Nat.sub_zero, ← List.range_eq_range']
  rfl

end Database

namespace Fold

open Update

/-! ## One worker -/

/-- A worker adds the chosen rows of its range. -/
theorem selectedRange_computes {selection : Bytes} {database : Database} {range : RowRange}
    (short : selection.size * 8 < Size.limit) (covers : database.rows ≤ selection.size * 8)
    (ordered : range.start ≤ range.stop) (inside : range.stop ≤ database.rows)
    (aligned : 8 ∣ range.start) :
    (selectedRange selection database range).Computes database.rowLength fun buffer =>
      buffer.mapIdx fun position byte =>
        database.rangeSum selection.bit position range byte := by
  rcases aligned with ⟨first, begins⟩
  have place : range.start / 8 = first := by omega
  have forward : first ≤ Size.ceilDiv range.stop 8 := by
    unfold Size.ceilDiv
    split <;> omega
  have enough : Size.ceilDiv range.stop 8 ≤ selection.size := by
    unfold Size.ceilDiv
    split <;> omega
  have covered := Size.le_mul_ceilDiv range.stop
  let bytes : Bytes := selection.extract first (Size.ceilDiv range.stop 8)
  have count : bytes.size = Size.ceilDiv range.stop 8 - first := by
    rw [Array.size_extract, Nat.min_eq_left enough]
  rcases (Database.IsStretch.whole database).slice ordered inside with ⟨part, cut, stretch⟩
  rw [Nat.zero_add] at stretch
  have length : range.length = range.stop - range.start := rfl
  have rows := stretch.rows_eq
  have folded := @selected_computes bytes part (by omega) (by omega)
  rw [stretch.rowLength_eq] at folded
  rw [selectedRange, place]
  refine Computes.afterCheck (Bytes.slice_eq_ok forward enough) ?_
  refine Computes.afterCheck cut ?_
  refine folded.congr ?_
  intro buffer fits
  apply mapIdx_congr
  intro position byte inRow
  rw [fits] at inRow
  rw [Database.selectedSum, Database.rangeSum, stretch.rows_eq, List.range'_eq_map_range, List.foldl_map]
  apply List.foldl_ext
  intro sum index member
  have within := List.mem_range.mp member
  have bit : bytes.bit index = selection.bit (range.start + index) := by
    rw [Bytes.bit_extract enough (by omega), begins]
  rw [bit, stretch.byteAt_eq within inRow]

/-! ## The rows of all workers -/

/-- The sums of all workers, one row for each. -/
def partialRows (selection : Bytes) (database : Database) (workers : Nat) : Bytes :=
  Array.ofFn fun place : Fin (workers * database.rowLength) =>
    database.rangeSum selection.bit (place % database.rowLength)
      (Workers.share database.rows workers 8 (place / database.rowLength)) 0

/-- The row of one worker in the buffer of all. -/
def workerSlice (database : Database) (worker : Nat) : Slice :=
  ⟨worker * database.rowLength, database.rowLength⟩

variable {selection : Bytes} {database : Database} {workers : Nat}

theorem workerSlice_inside {worker : Nat} (below : worker < workers) :
    (workerSlice database worker).offset + (workerSlice database worker).length ≤
      workers * database.rowLength :=
  Workers.rowSlice_end_le below

@[simp]
theorem size_partialRows (selection : Bytes) (database : Database) (workers : Nat) :
    (partialRows selection database workers).size = workers * database.rowLength :=
  Array.size_ofFn

theorem size_read_workerSlice {worker : Nat} (below : worker < workers) {rows : Bytes}
    (size : rows.size = workers * database.rowLength) :
    ((workerSlice database worker).read rows).size = database.rowLength :=
  Workers.size_read_rowSlice below size

theorem getElem?_read_partialRows (selection : Bytes) {worker position : Nat}
    (below : worker < workers) (inRow : position < database.rowLength) :
    ((workerSlice database worker).read (partialRows selection database workers))[position]? =
      some (database.rangeSum selection.bit position
        (Workers.share database.rows workers 8 worker) 0) := by
  have inside := @workerSlice_inside database workers worker below
  change worker * database.rowLength + database.rowLength ≤ _ at inside
  have quotient : (worker * database.rowLength + position) / database.rowLength = worker := by
    rw [Nat.mul_comm, Nat.mul_add_div database.rowLength_pos, Nat.div_eq_of_lt inRow, Nat.add_zero]
  have remainder : (worker * database.rowLength + position) % database.rowLength = position := by
    rw [Nat.mul_comm, Nat.mul_add_mod, Nat.mod_eq_of_lt inRow]
  rw [Slice.getElem?_read _ _ inRow]
  change (partialRows selection database workers)[worker * database.rowLength + position]? = _
  rw [partialRows, Array.getElem?_ofFn, dif_pos (by omega)]
  simp only [quotient, remainder]

/-- A worker's task. -/
def workerTask (selection : Bytes) (database : Database) (workers worker : Nat) :
    Workers.Task UInt8 where
  slice := workerSlice database worker
  update := selectedRange selection database (Workers.share database.rows workers 8 worker)

theorem partialTasks_shares :
    partialTasks selection database (Workers.shares database.rows workers 8) =
      ((List.range workers).filter fun worker =>
        !(Workers.share database.rows workers 8 worker).isEmpty).map
          (workerTask selection database workers) := by
  have numbered : (Workers.shares database.rows workers 8).zipIdx =
      (List.range workers).map fun worker =>
        (Workers.share database.rows workers 8 worker, worker) := by
    apply List.ext_getElem
    · simp
    · intro worker inShares inRange
      simp [Workers.shares]
  rw [partialTasks, numbered, List.filter_map, List.map_map]
  rfl

theorem mem_partialTasks {task : Workers.Task UInt8} :
    task ∈ partialTasks selection database (Workers.shares database.rows workers 8) ↔
      ∃ worker, worker < workers ∧
        (Workers.share database.rows workers 8 worker).isEmpty = false ∧
        workerTask selection database workers worker = task := by
  simp [partialTasks_shares, and_assoc]

theorem separate_partialTasks :
    Workers.Separate (partialTasks selection database (Workers.shares database.rows workers 8))
      (workers * database.rowLength) := by
  rw [partialTasks_shares]
  apply Workers.separate_rowTasks _ (List.pairwise_lt_range.filter _)
  intro worker member
  exact List.mem_range.mp (List.mem_of_mem_filter member)

theorem selectedRange_run_zeros (short : selection.size * 8 < Size.limit)
    (covers : database.rows ≤ selection.size * 8) {worker : Nat} (below : worker < workers) :
    (selectedRange selection database (Workers.share database.rows workers 8 worker)).run
        ((workerSlice database worker).read (Bytes.zeros (workers * database.rowLength))) =
      .ok () ((workerSlice database worker).read (partialRows selection database workers)) := by
  have listed : Workers.share database.rows workers 8 worker ∈
      Workers.shares database.rows workers 8 :=
    List.mem_map_of_mem (List.mem_range.mpr below)
  have bounds := (Workers.tiles_shares database.rows 8 (Nat.zero_lt_of_lt below)).of_mem listed
  have folds := selectedRange_computes short covers bounds.2.1 bounds.2.2
    (Workers.dvd_start_of_mem_shares listed)
  have fits := size_read_workerSlice below (Bytes.size_zeros (workers * database.rowLength))
  have after := size_read_workerSlice below (size_partialRows selection database workers)
  refine (folds _ fits).1.trans (congrArg _ ?_)
  apply eq_of_getElem?_eq
  · rw [Array.size_mapIdx, fits, after]
  · intro position inRow
    rw [Array.size_mapIdx, fits] at inRow
    have zero : (Bytes.zeros (workers * database.rowLength))[
        (workerSlice database worker).offset + position]? = some 0 :=
      Bytes.getElem?_zeros
        (Nat.lt_of_lt_of_le (Nat.add_lt_add_left inRow _) (workerSlice_inside below))
    rw [Array.getElem?_mapIdx, getElem?_read_partialRows selection below inRow,
      Slice.getElem?_read _ _ inRow, zero]
    rfl

/-- In every order the workers leave their sums in a buffer of zeros. -/
theorem run_partialTasks (scheduler : Workers.Scheduler)
    (short : selection.size * 8 < Size.limit) (covers : database.rows ≤ selection.size * 8) :
    (scheduler.run
      (partialTasks selection database (Workers.shares database.rows workers 8))).run
        (Bytes.zeros (workers * database.rowLength)) =
      .ok () (partialRows selection database workers) := by
  have sizes : (partialRows selection database workers).size =
      (Bytes.zeros (workers * database.rowLength)).size := by
    rw [size_partialRows, Bytes.size_zeros]
  apply scheduler.run_eq_ok sizes
  · rw [Bytes.size_zeros]
    exact separate_partialTasks
  · intro task member
    rcases mem_partialTasks.mp member with ⟨worker, below, _, rfl⟩
    exact selectedRange_run_zeros short covers below
  · intro position inside free
    rw [Bytes.size_zeros] at inside
    -- The worker whose row this is has no task, so its range is empty.
    have below : position / database.rowLength < workers :=
      (Nat.div_lt_iff_lt_mul database.rowLength_pos).mpr inside
    have empty : (Workers.share database.rows workers 8
        (position / database.rowLength)).isEmpty = true := by
      apply Bool.eq_true_of_not_eq_false
      intro filled
      exact free _ (mem_partialTasks.mpr ⟨_, below, filled, rfl⟩)
        (Workers.rowSlice_holds database.rowLength_pos position)
    rw [Bytes.getElem?_zeros inside, partialRows, Array.getElem?_ofFn, dif_pos inside]
    simp only [Database.rangeSum_of_isEmpty _ _ _ empty]

/-- To add the row of one worker is to add the rows of its range. -/
theorem addPartialRow_computes {worker : Nat} (below : worker < workers) :
    (Bytes.addInto ((workerSlice database worker).read
      (partialRows selection database workers))).Computes database.rowLength fun buffer =>
        buffer.mapIdx fun position byte => byte ^^^
          database.rangeSum selection.bit position
            (Workers.share database.rows workers 8 worker) 0 := by
  have fits := size_read_workerSlice below (size_partialRows selection database workers)
  refine (Bytes.addInto_computes fits).congr ?_
  intro buffer same
  apply mapIdx_congr
  intro position byte inRow
  rw [Array.getD_eq_getD_getElem?, getElem?_read_partialRows selection below (same ▸ inRow)]
  rfl

/-- **The parallel fold.**  For every number of workers and in every order it adds the same rows as the
sequential fold. -/
theorem selectedParallel_computes (scheduler : Workers.Scheduler)
    (short : selection.size * 8 < Size.limit) (covers : database.rows ≤ selection.size * 8)
    (some_worker : 0 < workers) (few : workers < Workers.maxShares) :
    (selectedParallel scheduler selection database workers).Computes database.rowLength
      (database.addSelected selection.bit) := by
  have partials : Update.apply
      (scheduler.run (partialTasks selection database (Workers.shares database.rows workers 8)))
      (Bytes.zeros ((Workers.shares database.rows workers 8).length * database.rowLength)) =
        .ok (partialRows selection database workers) := by
    rw [Workers.length_shares, Update.apply, run_partialTasks scheduler short covers]
  have each : ∀ worker ∈ List.range (Workers.shares database.rows workers 8).length,
      (Bytes.addInto ((workerSlice database worker).read
        (partialRows selection database workers))).Computes database.rowLength fun buffer =>
          buffer.mapIdx fun position byte => byte ^^^
            database.rangeSum selection.bit position
              (Workers.share database.rows workers 8 worker) 0 := by
    intro worker member
    rw [Workers.length_shares, List.mem_range] at member
    exact addPartialRow_computes member
  refine Computes.afterGet fun output fits => ?_
  refine Computes.afterCheck (require_eq_ok_iff.mpr fits) ?_
  refine Computes.afterCheck (Size.mul_eq_ok short) ?_
  refine Computes.afterCheck (require_eq_ok_iff.mpr covers) ?_
  refine Computes.afterCheck (require_eq_ok_iff.mpr some_worker) ?_
  refine Computes.afterCheck (Workers.partitionAligned_eq_ok some_worker few (by decide)
    (Nat.lt_of_le_of_lt covers short)) ?_
  refine Computes.afterCheck partials ?_
  refine (Computes.loop each).congr ?_
  intro buffer _
  have read := foldl_mapIdx (List.range (Workers.shares database.rows workers 8).length)
    (fun worker position byte => byte ^^^
      database.rangeSum selection.bit position (Workers.share database.rows workers 8 worker) 0)
    buffer
  refine read.trans (mapIdx_congr ?_)
  intro position byte _
  rw [← database.foldl_rangeSum selection.bit position
    (Workers.tiles_shares database.rows 8 some_worker), Workers.length_shares, Workers.shares,
    List.foldl_map]

end Fold
end PrivateRetrieval
