import PrivateRetrieval.Proofs.Workers.Schedule

namespace PrivateRetrieval
namespace Workers

open Update

/-!
# Buffers that are changed row by row

A buffer of rows of one width has its entry of row `i` and column `j` at position `i * width + j`.  Where
every entry is changed by its row, its column and itself alone, a range of rows can be cut out before or
after the change, as long as the piece remembers the number of its first row.  A loop that gives each row
to an update of its own makes such a change.

Rows may have no entries; then there is nothing to change.
-/

variable {α : Type} {act : Nat → Nat → α → α} {width : Nat}

/-- Change every entry of a buffer by its row and its column, where the buffer begins with row
`first`. -/
def changeRows (act : Nat → Nat → α → α) (width first : Nat) (buffer : Array α) : Array α :=
  buffer.mapIdx fun position entry => act (first + position / width) (position % width) entry

@[simp]
theorem size_changeRows (act : Nat → Nat → α → α) (width first : Nat) (buffer : Array α) :
    (changeRows act width first buffer).size = buffer.size :=
  Array.size_mapIdx

theorem getElem?_changeRows (first : Nat) (buffer : Array α) (position : Nat) :
    (changeRows act width first buffer)[position]? =
      buffer[position]?.map (act (first + position / width) (position % width)) :=
  Array.getElem?_mapIdx

/-- An entry of one of the rows lies in the buffer. -/
theorem position_lt {rows row column : Nat} (inside : row < rows) (within : column < width) :
    row * width + column < rows * width := by
  refine Nat.lt_of_lt_of_le (Nat.add_lt_add_left within _) ?_
  rw [← Nat.succ_mul]
  exact Nat.mul_le_mul_right _ inside

/-- The entry of a row and a column is changed by them. -/
theorem getD_changeRows {first row column : Nat} (within : column < width) {buffer : Array α}
    (present : row * width + column < buffer.size) (spare : α) :
    (changeRows act width first buffer).getD (row * width + column) spare =
      act (first + row) column (buffer.getD (row * width + column) spare) := by
  have positive : 0 < width := Nat.zero_lt_of_lt within
  have quotient : (row * width + column) / width = row := by
    rw [Nat.mul_comm, Nat.mul_add_div positive, Nat.div_eq_of_lt within, Nat.add_zero]
  have remainder : (row * width + column) % width = column := by
    rw [Nat.mul_comm, Nat.mul_add_mod, Nat.mod_eq_of_lt within]
  rw [Array.getD_eq_getD_getElem?, getElem?_changeRows, quotient, remainder,
    Array.getElem?_eq_getElem present, Array.getD_eq_getD_getElem?, Array.getElem?_eq_getElem present]
  rfl

theorem changeRows_of_size_eq_zero {first : Nat} {buffer : Array α} (empty : buffer.size = 0) :
    changeRows act width first buffer = buffer := by
  apply eq_of_getElem?_eq (size_changeRows act width first buffer)
  intro position inside
  rw [size_changeRows, empty] at inside
  exact absurd inside (Nat.not_lt_zero position)

/-- In a single row every entry is changed by its position. -/
theorem changeRows_of_size_eq_width {first : Nat} {buffer : Array α} (single : buffer.size = width) :
    changeRows act width first buffer = buffer.mapIdx (act first) := by
  apply mapIdx_congr
  intro position entry inside
  rw [single] at inside
  rw [Nat.div_eq_of_lt inside, Nat.mod_eq_of_lt inside, Nat.add_zero]

/-- A range of changed rows is the changed range. -/
theorem read_changeRows (first : Nat) (range : RowRange) (buffer : Array α) :
    (rowsSlice width range).read (changeRows act width first buffer) =
      changeRows act width (first + range.start) ((rowsSlice width range).read buffer) := by
  apply eq_of_getElem?_eq
  · rw [size_changeRows, Slice.read, Slice.read, Array.size_extract, Array.size_extract,
      size_changeRows]
  · intro position inside
    have within : position < range.length * width := by
      rw [Slice.read, Array.size_extract, size_changeRows] at inside
      have bound := Nat.lt_of_lt_of_le inside (Nat.sub_le_sub_right (Nat.min_le_left _ _) _)
      rw [Nat.add_sub_cancel_left] at bound
      exact bound
    have positive : 0 < width := Nat.pos_of_lt_mul_left within
    have row : (range.start * width + position) / width = range.start + position / width := by
      rw [Nat.mul_comm, Nat.mul_add_div positive]
    have column : (range.start * width + position) % width = position % width := by
      rw [Nat.mul_comm, Nat.mul_add_mod]
    have place : (rowsSlice width range).offset + position = range.start * width + position := rfl
    rw [Slice.getElem?_read _ _ within, getElem?_changeRows, getElem?_changeRows,
      Slice.getElem?_read _ _ within, place, row, column, Nat.add_assoc]

/-! ## One row after the other -/

/-- The piece of a buffer that holds one row. -/
def rowSlice (width row : Nat) : Slice :=
  ⟨row * width, width⟩

theorem rowsSlice_single (width row : Nat) : rowsSlice width ⟨row, row + 1⟩ = rowSlice width row := by
  rw [rowsSlice, RowRange.length, Nat.add_sub_cancel_left, Nat.one_mul]
  rfl

/-- A row ends where the next one begins, or before. -/
theorem rowSlice_end_le {row later : Nat} (before : row < later) :
    (rowSlice width row).offset + (rowSlice width row).length ≤ later * width := by
  change row * width + width ≤ later * width
  rw [← Nat.succ_mul]
  exact Nat.mul_le_mul_right width before

theorem rowSlice_holds (positive : 0 < width) (position : Nat) :
    (rowSlice width (position / width)).Holds position :=
  ⟨Nat.div_mul_le_self _ _, Nat.lt_div_mul_add positive⟩

theorem size_read_rowSlice {row rows : Nat} (below : row < rows) {buffer : Array α}
    (fits : buffer.size = rows * width) : ((rowSlice width row).read buffer).size = width :=
  Slice.size_read (fits ▸ rowSlice_end_le below)

/-- A changed row is the row with every entry changed by its position. -/
theorem read_rowSlice_changeRows {first row rows : Nat} (below : row < rows) {buffer : Array α}
    (fits : buffer.size = rows * width) :
    (rowSlice width row).read (changeRows act width first buffer) =
      ((rowSlice width row).read buffer).mapIdx (act (first + row)) := by
  have changed := @read_changeRows α act width first ⟨row, row + 1⟩ buffer
  rw [rowsSlice_single, changeRows_of_size_eq_width (size_read_rowSlice below fits)] at changed
  exact changed

/-- Tasks for different rows do not overlap. -/
theorem separate_rowTasks (update : Nat → Update α Unit) {numbers : List Nat} {rows : Nat}
    (ascending : numbers.Pairwise (· < ·)) (below : ∀ row ∈ numbers, row < rows) :
    Separate (numbers.map fun row => ⟨rowSlice width row, update row⟩) (rows * width) := by
  constructor
  · intro task member
    rcases List.mem_map.mp member with ⟨row, listed, rfl⟩
    exact rowSlice_end_le (below row listed)
  · apply List.pairwise_map.mpr
    apply ascending.imp
    intro row later before
    exact Or.inl (rowSlice_end_le before)

/-- **Row by row.**  A loop that gives each row of a buffer to an update of its own changes every entry
by its row and its column, if the update of a row changes every entry of that row by its column. -/
theorem forM_rows_computes {rows first : Nat} {body : Nat → Update α Unit}
    (each : ∀ row, row < rows → (body row).Computes width fun piece =>
      piece.mapIdx (act (first + row))) :
    Computes ((List.range rows).forM fun row => (rowSlice width row).update (body row))
      (rows * width) (changeRows act width first) := by
  have unfolded : ((List.range rows).forM fun row => (rowSlice width row).update (body row)) =
      ((List.range rows).map fun row => (⟨rowSlice width row, body row⟩ : Task α)).forM
        fun task => task.slice.update task.update := by
    rw [List.forM_eq_forM, List.forM_eq_forM, List.forM_map]
  intro buffer fits
  have sizes := size_changeRows act width first buffer
  refine ⟨?_, sizes.trans fits⟩
  rw [unfolded]
  apply forM_update_run sizes
  · rw [fits]
    exact separate_rowTasks body List.pairwise_lt_range fun row => List.mem_range.mp
  · intro task member
    rcases List.mem_map.mp member with ⟨row, listed, rfl⟩
    have below := List.mem_range.mp listed
    rw [read_rowSlice_changeRows below fits]
    exact (each row below _ (size_read_rowSlice below fits)).1
  · intro position inside free
    rw [fits] at inside
    have positive : 0 < width := Nat.pos_of_lt_mul_left inside
    have below : position / width < rows := (Nat.div_lt_iff_lt_mul positive).mpr inside
    have listed := List.mem_map_of_mem (f := fun row => (⟨rowSlice width row, body row⟩ : Task α))
      (List.mem_range.mpr below)
    exact absurd (rowSlice_holds positive position) (free _ listed)

/-! ## Ranges of rows -/

/-- **Range by range.**  A kernel that changes every row by itself may be run on ranges of rows that tile
the buffer, one after the other and in any order.  Ranges without rows do no harm. -/
theorem forM_ranges_computes {kernel : RowRange → Update α Unit} {rows : Nat}
    {ranges order : List RowRange} (tiles : Tiles 0 ranges rows) (permuted : ranges.Perm order)
    (each : ∀ range : RowRange, range.start ≤ range.stop → range.stop ≤ rows →
      (kernel range).Computes (range.length * width) (changeRows act width range.start)) :
    Computes (order.forM fun range => (rowsSlice width range).update (kernel range))
      (rows * width) (changeRows act width 0) := by
  let task (range : RowRange) : Task α := ⟨rowsSlice width range, kernel range⟩
  have unfolded : (order.forM fun range => (rowsSlice width range).update (kernel range)) =
      (order.map task).forM fun task => task.slice.update task.update := by
    rw [List.forM_eq_forM, List.forM_eq_forM, List.forM_map]
  intro buffer fits
  have sizes := size_changeRows act width 0 buffer
  refine ⟨?_, sizes.trans fits⟩
  rw [unfolded]
  apply forM_update_run sizes
  · rw [fits]
    exact (separate_rowsSlices tiles kernel).perm (permuted.map task)
  · intro task member
    rcases List.mem_map.mp member with ⟨range, listed, rfl⟩
    have bounds := tiles.of_mem (permuted.mem_iff.mpr listed)
    rw [read_changeRows, Nat.zero_add]
    exact (each range bounds.2.1 bounds.2.2 _ (size_read_rowsSlice bounds.2.1 bounds.2.2 fits)).1
  · intro position inside free
    rw [fits] at inside
    rcases exists_mem_rangeTasks tiles kernel inside with ⟨covering, member, held⟩
    rcases mem_rangeTasks.mp member with ⟨range, listed, _, rfl⟩
    exact absurd held (free _ (List.mem_map_of_mem (permuted.mem_iff.mp listed)))

/-! ## Ranges of rows in the hands of workers -/

/-- A kernel that changes every row by itself makes the same change when its rows are shared. -/
theorem runPartitioned_computes_changeRows {kernel : RowRange → Update α Unit} (scheduler : Scheduler)
    {workers rows : Nat} (some_worker : 0 < workers) (few : workers < maxShares)
    (few_rows : rows < Size.limit) (small : rows * width < Size.limit)
    (each : ∀ range : RowRange, range.start ≤ range.stop → range.stop ≤ rows →
      (kernel range).Computes (range.length * width) (changeRows act width range.start)) :
    (runPartitioned scheduler workers rows width kernel).Computes (rows * width)
      (changeRows act width 0) := by
  refine runPartitioned_computes scheduler some_worker few few_rows small ?_ ?_
  · intro buffer fits
    rw [size_changeRows, fits]
  · intro range ordered inside buffer fits
    have piece := size_read_rowsSlice ordered inside fits
    rw [read_changeRows, Nat.zero_add]
    exact (each range ordered inside _ piece).1

end Workers
end PrivateRetrieval
