import PrivateRetrieval.Proofs.Workers.Rows

namespace PrivateRetrieval
namespace Workers

/-!
# Every row is visited once

A kernel is told a range of rows and changes the piece of the buffer that holds them.  Whatever it makes of
such a piece, as long as it keeps the length, the shared computation leaves in each piece what the kernel
makes of that piece as it was at the beginning; and each row lies in one piece.  So nothing depends on the
order of the workers, and a kernel whose ranges depend on each other gives another buffer than a single
call.

Where the kernel treats every row by itself, by its number in the whole buffer, the ranges cannot be seen in
the result, and one call on all rows does the same.
-/

variable {α : Type} {width : Nat}

/-! ## Pieces in place -/

/-- The buffer with the piece of every range replaced by what is made of it. -/
def replaceRanges (width : Nat) (result : RowRange → Array α → Array α) (ranges : List RowRange)
    (buffer : Array α) : Array α :=
  ranges.foldr
    (fun range written => (rowsSlice width range).write written
      (result range ((rowsSlice width range).read buffer)))
    buffer

section Replace

variable {result : RowRange → Array α → Array α} {start stop : Nat} {ranges : List RowRange}
  {buffer : Array α} (tiles : Tiles start ranges stop) (inside : stop * width ≤ buffer.size)
  (keeps : ∀ range ∈ ranges,
    (result range ((rowsSlice width range).read buffer)).size = range.length * width)

include tiles inside keeps

theorem size_replaceRanges : (replaceRanges width result ranges buffer).size = buffer.size := by
  induction ranges generalizing start with
  | nil => rfl
  | cons head rest later =>
      rcases tiles with ⟨_, forward, follows⟩
      have size := later follows fun range member => keeps range (List.mem_cons_of_mem _ member)
      have bound : (rowsSlice width head).offset + (rowsSlice width head).length ≤ buffer.size := by
        rw [rowsSlice_end forward]
        exact Nat.le_trans (Nat.mul_le_mul_right width follows.ordered) inside
      exact (Slice.size_write (size.symm ▸ bound) (keeps head List.mem_cons_self)).trans size

/-- The piece of each range is what is made of it, since the other pieces are written elsewhere. -/
theorem read_replaceRanges {range : RowRange} (member : range ∈ ranges) :
    (rowsSlice width range).read (replaceRanges width result ranges buffer) =
      result range ((rowsSlice width range).read buffer) := by
  induction ranges generalizing start with
  | nil => cases member
  | cons head rest later =>
      rcases tiles with ⟨_, forward, follows⟩
      have others := fun other listed => keeps other (List.mem_cons_of_mem _ listed)
      have fits := keeps head List.mem_cons_self
      have bound : (rowsSlice width head).offset + (rowsSlice width head).length ≤
          (replaceRanges width result rest buffer).size := by
        rw [rowsSlice_end forward, size_replaceRanges follows inside others]
        exact Nat.le_trans (Nat.mul_le_mul_right width follows.ordered) inside
      rcases List.mem_cons.mp member with rfl | inRest
      · exact Slice.read_write bound fits
      · have apart : (rowsSlice width head).Apart (rowsSlice width range) := by
          left
          rw [rowsSlice_end forward]
          exact Nat.mul_le_mul_right width (follows.of_mem inRest).1
        exact (Slice.read_write_of_apart bound fits apart).trans (later follows others inRest)

end Replace

/-! ## Rows of a piece -/

/-- A row of a piece is a row of the buffer. -/
theorem read_rowSlice_read_rowsSlice {range : RowRange} {row : Nat} (inside : row < range.length)
    (buffer : Array α) :
    (rowSlice width row).read ((rowsSlice width range).read buffer) =
      (rowSlice width (range.start + row)).read buffer := by
  have clipped : range.start * width + (row * width + width) ≤
      range.start * width + range.length * width := by
    rw [← Nat.succ_mul]
    exact Nat.add_le_add_left (Nat.mul_le_mul_right width inside) _
  rw [Slice.read, Slice.read, Slice.read, Array.extract_extract]
  change buffer.extract (range.start * width + row * width)
    (min (range.start * width + (row * width + width)) (range.start * width + range.length * width)) =
    buffer.extract ((range.start + row) * width) ((range.start + row) * width + width)
  rw [Nat.min_eq_left clipped, Nat.add_mul, Nat.add_assoc]

/-- Buffers with the same rows are equal. -/
theorem eq_of_read_rowSlice_eq {rows : Nat} {left right : Array α} (leftFits : left.size = rows * width)
    (rightFits : right.size = rows * width)
    (same : ∀ row, row < rows →
      (rowSlice width row).read left = (rowSlice width row).read right) : left = right := by
  apply eq_of_getElem?_eq (leftFits.trans rightFits.symm)
  intro position inside
  rw [leftFits] at inside
  have positive : 0 < width := Nat.pos_of_lt_mul_left inside
  have below : position / width < rows := (Nat.div_lt_iff_lt_mul positive).mpr inside
  have column : position % width < (rowSlice width (position / width)).length :=
    Nat.mod_lt position positive
  have place : (rowSlice width (position / width)).offset + position % width = position :=
    Nat.div_add_mod' position width
  have entry := congrArg (fun piece : Array α => piece[position % width]?) (same _ below)
  change _[position % width]? = _[position % width]? at entry
  rw [Slice.getElem?_read _ _ column, Slice.getElem?_read _ _ column, place] at entry
  exact entry

/-- What is made of a piece treats every row by itself, as a function of its number in the whole buffer. -/
def ActsOnRows (rows width : Nat) (act : Nat → Array α → Array α)
    (result : RowRange → Array α → Array α) : Prop :=
  ∀ range : RowRange, range.start ≤ range.stop → range.stop ≤ rows →
    ∀ piece : Array α, piece.size = range.length * width → ∀ row, row < range.length →
      (rowSlice width row).read (result range piece) =
        act (range.start + row) ((rowSlice width row).read piece)

/-- A change by row and column acts on rows. -/
theorem changeRows_actsOnRows (act : Nat → Nat → α → α) (rows width : Nat) :
    ActsOnRows rows width (fun row piece => piece.mapIdx (act row))
      fun range => changeRows act width range.start :=
  fun _ _ _ _ fits _ inside => read_rowSlice_changeRows inside fits

/-! ## Shared and undivided -/

/-- How a buffer changes if every row is visited once, in one of the given ranges. -/
structure VisitsOnce (rows width : Nat) (result : RowRange → Array α → Array α)
    (ranges : List RowRange) (before after : Array α) : Prop where
  within : ∀ range ∈ ranges, range.start ≤ range.stop ∧ range.stop ≤ rows
  /-- Every row lies in one of the ranges and in no other. -/
  once : ∀ row, row < rows →
    ranges.countP (fun range => range.start ≤ row ∧ row < range.stop) = 1
  size_eq : after.size = before.size
  /-- The kernel has seen the piece of the range as it was before, and nothing else. -/
  piece_eq : ∀ range ∈ ranges,
    after.extract (range.start * width) (range.stop * width) =
      result range (before.extract (range.start * width) (range.stop * width))

theorem read_rowsSlice_eq_extract {range : RowRange} (ordered : range.start ≤ range.stop)
    (buffer : Array α) :
    (rowsSlice width range).read buffer =
      buffer.extract (range.start * width) (range.stop * width) :=
  congrArg (fun stop => buffer.extract (range.start * width) stop) (rowsSlice_end ordered)

section Kernel

variable {kernel : RowRange → Update α Unit} {result : RowRange → Array α → Array α} {rows : Nat}
  (computes : ∀ range : RowRange, range.start ≤ range.stop → range.stop ≤ rows →
    (kernel range).Computes (range.length * width) (result range))

include computes

/-- Ranges that tile the rows, each with what the kernel makes of its piece. -/
theorem replaceRanges_visitsOnce {ranges : List RowRange} (tiles : Tiles 0 ranges rows)
    {buffer : Array α} (fits : buffer.size = rows * width) :
    VisitsOnce rows width result ranges buffer (replaceRanges width result ranges buffer) := by
  have keeps : ∀ range ∈ ranges,
      (result range ((rowsSlice width range).read buffer)).size = range.length * width := by
    intro range member
    have bounds := (tiles.of_mem member).2
    exact (computes range bounds.1 bounds.2 _ (size_read_rowsSlice bounds.1 bounds.2 fits)).2
  have inside := Nat.le_of_eq fits.symm
  refine ⟨fun range member => (tiles.of_mem member).2,
    fun row below => tiles.countP_eq_one (Nat.zero_le row) below,
    size_replaceRanges tiles inside keeps, ?_⟩
  intro range member
  have ordered := (tiles.of_mem member).2.1
  rw [← read_rowsSlice_eq_extract ordered, ← read_rowsSlice_eq_extract ordered]
  exact read_replaceRanges tiles inside keeps member

/-- Where rows are treated by themselves, it does not show in which range a row was visited. -/
theorem VisitsOnce.eq_result {act : Nat → Array α → Array α} (acts : ActsOnRows rows width act result)
    {ranges : List RowRange} {before after : Array α}
    (visits : VisitsOnce rows width result ranges before after) (fits : before.size = rows * width) :
    after = result ⟨0, rows⟩ before := by
  have whole := (computes ⟨0, rows⟩ (Nat.zero_le rows) (Nat.le_refl rows) before fits).2
  refine eq_of_read_rowSlice_eq (visits.size_eq.trans fits) whole ?_
  intro row below
  have found : 0 < ranges.countP (fun range => range.start ≤ row ∧ row < range.stop) :=
    Nat.lt_of_lt_of_eq Nat.one_pos (visits.once row below).symm
  rcases List.countP_pos_iff.mp found with ⟨range, member, holds⟩
  rcases of_decide_eq_true holds with ⟨after_start, before_stop⟩
  obtain ⟨place, rfl⟩ := Nat.exists_eq_add_of_le after_start
  have bounds := visits.within range member
  have inRange : place < range.length := Nat.lt_sub_iff_add_lt'.mpr before_stop
  have piece := visits.piece_eq range member
  rw [← read_rowsSlice_eq_extract bounds.1, ← read_rowsSlice_eq_extract bounds.1] at piece
  have undivided := acts ⟨0, rows⟩ (Nat.zero_le rows) (Nat.le_refl rows) before fits _ below
  rw [Nat.zero_add] at undivided
  rw [undivided, ← read_rowSlice_read_rowsSlice inRange after, piece,
    acts range bounds.1 bounds.2 _ (size_read_rowsSlice bounds.1 bounds.2 fits) place inRange,
    read_rowSlice_read_rowsSlice inRange before]

theorem runPartitioned_computes_replaceRanges (scheduler : Scheduler) {workers : Nat}
    (some_worker : 0 < workers) (few : workers < maxShares) (few_rows : rows < Size.limit)
    (small : rows * width < Size.limit) :
    (runPartitioned scheduler workers rows width kernel).Computes (rows * width)
      (replaceRanges width result (shares rows workers 1)) := by
  have tiles := tiles_shares rows 1 some_worker
  refine runPartitioned_computes_of_shares scheduler some_worker few few_rows small ?_ ?_
  · intro buffer fits
    exact ((replaceRanges_visitsOnce computes tiles fits).size_eq).trans fits
  · intro range member buffer fits
    have bounds := (tiles.of_mem member).2
    have piece := (replaceRanges_visitsOnce computes tiles fits).piece_eq range member
    rw [← read_rowsSlice_eq_extract bounds.1, ← read_rowsSlice_eq_extract bounds.1] at piece
    rw [piece]
    exact (computes range bounds.1 bounds.2 _ (size_read_rowsSlice bounds.1 bounds.2 fits)).1

end Kernel

/-- **Every row is visited once.**  A kernel that makes something of the same length of every range of rows
is run, among any positive number of workers and in every order of their tasks, on each range of the
partition once, with the entries that the buffer had there at the beginning.  If the kernel treats every row
by itself, that is one call on all rows. -/
theorem runPartitioned_visits_rows_once (scheduler : Scheduler) {workers rows : Nat}
    {kernel : RowRange → Update α Unit} {result : RowRange → Array α → Array α} {buffer : Array α}
    (some_worker : 0 < workers) (few : workers < maxShares) (few_rows : rows < Size.limit)
    (fits : buffer.size = rows * width) (small : buffer.size < Size.limit)
    (computes : ∀ range : RowRange, range.start ≤ range.stop → range.stop ≤ rows →
      (kernel range).Computes (range.length * width) (result range)) :
    (∃ ranges after, partition rows workers = .ok ranges ∧
        (runPartitioned scheduler workers rows width kernel).run buffer = .ok () after ∧
        VisitsOnce rows width result ranges buffer after) ∧
      ∀ act, ActsOnRows rows width act result →
        (runPartitioned scheduler workers rows width kernel).run buffer =
          (kernel ⟨0, rows⟩).run buffer := by
  have ran := (runPartitioned_computes_replaceRanges computes scheduler some_worker few few_rows
    (fits ▸ small) buffer fits).1
  have visits := replaceRanges_visitsOnce computes (tiles_shares rows 1 some_worker) fits
  constructor
  · exact ⟨_, _, partitionAligned_eq_ok some_worker few Nat.one_pos few_rows, ran, visits⟩
  · intro act acts
    have undivided := (computes ⟨0, rows⟩ (Nat.zero_le rows) (Nat.le_refl rows) buffer fits).1
    rw [ran, undivided, visits.eq_result computes acts fits]

/-- Five rows of two entries among three workers, the last of whom is the first to run.  Every entry is
raised once, by the number of its row plus one. -/
theorem runPartitioned_visits_rows_once_of_five_rows :
    let raise (row _column : Nat) (entry : UInt32) : UInt32 := entry + UInt32.ofNat row + 1
    let kernel (range : RowRange) : Update UInt32 Unit := modify (changeRows raise 2 range.start)
    0 < 3 ∧ 3 < maxShares ∧ 5 < Size.limit ∧
      (runPartitioned Scheduler.backwards 3 5 2 kernel).run #[0, 0, 10, 20, 0, 0, 0, 0, 7, 8] =
        .ok () #[1, 1, 12, 22, 3, 3, 4, 4, 12, 13] ∧
      ∃ ranges after, partition 5 3 = .ok ranges ∧
        VisitsOnce 5 2 (fun range => changeRows raise 2 range.start) ranges
          #[0, 0, 10, 20, 0, 0, 0, 0, 7, 8] after := by
  intro raise kernel
  have computes (range : RowRange) (_ : range.start ≤ range.stop) (_ : range.stop ≤ 5) :
      (kernel range).Computes (range.length * 2) (changeRows raise 2 range.start) :=
    Update.Computes.modify fun buffer fits => (size_changeRows _ _ _ buffer).trans fits
  have fits : (#[0, 0, 10, 20, 0, 0, 0, 0, 7, 8] : Array UInt32).size = 5 * 2 := rfl
  have few : 3 < maxShares := by decide
  have visited := runPartitioned_visits_rows_once Scheduler.backwards (by decide) few (by decide)
    fits (by decide) computes
  rcases visited.1 with ⟨ranges, after, shared, _, visits⟩
  refine ⟨by decide, by decide, by decide, ?_, ranges, after, shared, visits⟩
  rw [visited.2 _ (changeRows_actsOnRows raise 5 2)]
  rfl

end Workers
end PrivateRetrieval
