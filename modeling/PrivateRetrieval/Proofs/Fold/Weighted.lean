import PrivateRetrieval.Fold.Sum
import PrivateRetrieval.Fold.Weighted
import PrivateRetrieval.Proofs.Field.Blocks
import PrivateRetrieval.Proofs.Field.Ring
import PrivateRetrieval.Proofs.Workers.Schedule

namespace PrivateRetrieval

/-!
# The fold of weighted rows is the plain weighted sum

At every block of the output the fold is one loop over the rows.  A row of weight zero is passed over, and
zero times an element is zero.  A worker of the parallel fold sees a piece of the output and reads the
same piece of every row, so it computes a piece of the whole sum and nothing has to be combined.
-/

namespace Database

/-- An output row to which all rows are added, multiplied by their weights. -/
def addWeighted (database : Database) (weight : Nat → Element) (output : Bytes) : Bytes :=
  Element.mapBlocks (database.weightedSum weight) output

theorem getElem?_split_rowBytes {database : Database} {index : Nat} (inside : index < database.rows)
    {block : Nat} (within : block < database.rowLength / Block.byteCount) :
    (Element.split (database.rowBytes index))[block]? = some (database.elementAt index block) := by
  have size := Database.size_rowBytes inside
  rw [Element.getElem?_split _ (by rw [size]; exact within)]
  refine congrArg (fun bits => some (Element.mk bits)) (Block.ofByteAt_congr ?_)
  intro j small
  apply Database.getD_rowBytes inside
  change j < 16 at small
  change block < database.rowLength / 16 at within
  change 16 * block + j < database.rowLength
  omega

end Database

namespace Fold

open Update

/-! ## One row -/

theorem zipWith_split_eq_mapIdx (weight : Element) {buffer row : Bytes}
    (sizes : buffer.size = row.size) :
    Array.zipWith (fun sum entry => sum + weight * entry) (Element.split buffer) (Element.split row) =
      (Element.split buffer).mapIdx fun block element =>
        element + weight * (Element.split row).getD block 0 := by
  have blocks : (Element.split buffer).size = (Element.split row).size := by
    rw [Element.size_split, Element.size_split, sizes]
  exact zipWith_eq_mapIdx _ blocks 0

/-- Adding a multiple of a row acts on every block by itself. -/
theorem addScaled_computes (weight : Element) {row : Bytes} {size : Nat} (fits : row.size = size)
    (whole : size % Block.byteCount = 0) :
    (addScaled weight row).Computes size
      (Element.mapBlocks fun block element =>
        element + weight * (Element.split row).getD block 0) := by
  intro buffer same
  have sameSize : buffer.size = row.size := same.trans fits.symm
  constructor
  · have equal : require (buffer.size = row.size) (.fault .lengthMismatch) = .ok () :=
      require_eq_ok_iff.mpr sameSize
    have blocks : require (row.size % Block.byteCount = 0) (.fault .lengthMismatch) = .ok () :=
      require_eq_ok_iff.mpr (fits ▸ whole)
    change EStateM.run (liftM (require (buffer.size = row.size) (.fault .lengthMismatch)) >>=
      fun _ => liftM (require (row.size % Block.byteCount = 0) (.fault .lengthMismatch)) >>=
        fun _ => set (Element.concat (Array.zipWith _ _ _))) buffer = _
    rw [equal, blocks, zipWith_split_eq_mapIdx weight sameSize]
    rfl
  · rw [Element.size_mapBlocks _ (same ▸ whole), same]

theorem eq_zero_of_isZero {weight : Element} (zero : weight.isZero = true) : weight = 0 :=
  Element.eq_of_bits_eq (eq_of_beq zero)

/-! ## All rows -/

variable {weights : List Element} {database : Database}

/-- A loop over the weights adds the weighted sum at every block, if its body adds one row times its
weight.  The blocks of the buffer may be those of a row from some block on. -/
theorem forM_weighted_computes {body : Element → Nat → Update UInt8 Unit} {size first : Nat}
    (count : weights.length = database.rows) (whole : size % Block.byteCount = 0)
    (each : ∀ weight index, index < database.rows →
      (body weight index).Computes size (Element.mapBlocks fun block element =>
        element + weight * database.elementAt index (first + block))) :
    Computes
      (weights.zipIdx.forM fun (weight, index) =>
        if weight.isZero then pure () else body weight index)
      size
      (Element.mapBlocks fun block element =>
        database.weightedSum (weights.getD · 0) (first + block) element) := by
  have step : ∀ entry ∈ weights.zipIdx,
      Computes (if entry.1.isZero then pure () else body entry.1 entry.2) size
        (Element.mapBlocks fun block element =>
          element + entry.1 * database.elementAt entry.2 (first + block)) := by
    rintro ⟨weight, index⟩ member
    have inside : index < database.rows := by
      have within := List.snd_lt_of_mem_zipIdx member
      rw [Nat.add_zero, count] at within
      exact within
    by_cases zero : weight.isZero = true
    · rw [if_pos zero, eq_zero_of_isZero zero]
      refine Computes.done.congr ?_
      intro buffer fits
      refine (Element.mapBlocks_eq_self (fits ▸ whole) ?_).symm
      intro block element
      rw [zero_mul, add_zero]
    · rw [if_neg zero]
      exact each weight index inside
  refine (Computes.loop step).congr ?_
  intro buffer fits
  rw [Element.foldl_mapBlocks weights.zipIdx
    (fun entry block element => element + entry.1 * database.elementAt entry.2 (first + block))
    (fits ▸ whole)]
  apply Element.mapBlocks_congr
  intro block element _
  rw [zipIdx_eq_map weights 0, List.foldl_map, count]
  rfl

theorem requireWeighted_eq_ok_iff {outputSize : Nat} :
    requireWeighted weights database outputSize = .ok () ↔
      database.rowLength % Block.byteCount = 0 ∧ weights.length = database.rows ∧
        outputSize = database.rowLength := by
  rw [requireWeighted, check_bind_eq_ok_iff, check_bind_eq_ok_iff, require_eq_ok_iff,
    require_eq_ok_iff, require_eq_ok_iff]

/-- **The sequential fold.**  With one weight for each row the fold succeeds on every output of one row
and adds every row times its weight. -/
theorem weighted_computes (count : weights.length = database.rows)
    (whole : database.rowLength % Block.byteCount = 0) :
    (weighted weights database).Computes database.rowLength
      (database.addWeighted (weights.getD · 0)) := by
  have each : ∀ weight index, index < database.rows →
      Computes
        (do
          let row ← database.row index
          addScaled weight row)
        database.rowLength
        (Element.mapBlocks fun block element =>
          element + weight * database.elementAt index (0 + block)) := by
    intro weight index inside
    refine Computes.afterCheck (Database.row_eq_ok inside) ?_
    refine (addScaled_computes weight (Database.size_rowBytes inside) whole).congr ?_
    intro buffer fits
    apply Element.mapBlocks_congr
    intro block element within
    rw [fits] at within
    rw [Array.getD_eq_getD_getElem?, Database.getElem?_split_rowBytes inside within, Nat.zero_add]
    rfl
  refine Computes.afterGet fun output fits => ?_
  refine Computes.afterCheck (requireWeighted_eq_ok_iff.mpr ⟨whole, count, fits⟩) ?_
  refine (forM_weighted_computes count whole each).congr ?_
  intro buffer _
  apply Element.mapBlocks_congr
  intro block element _
  rw [Nat.zero_add]

/-! ## Shared blocks -/

theorem getElem?_split_rowPart {index : Nat} (below : index < database.rows) {range : RowRange}
    (inside : range.stop * Block.byteCount ≤ database.rowLength) {block : Nat}
    (within : block < range.length) :
    (Element.split ((database.rowBytes index).extract (range.start * Block.byteCount)
      (range.stop * Block.byteCount)))[block]? =
        some (database.elementAt index (range.start + block)) := by
  have row := Database.size_rowBytes below
  have blocks : range.stop ≤ database.rowLength / Block.byteCount :=
    (Nat.le_div_iff_mul_le Block.byteCount_pos).mpr inside
  have cut : block < min range.stop (database.rowLength / Block.byteCount) - range.start := by
    rw [Nat.min_eq_left blocks]
    exact within
  have inRow : range.start + block < database.rowLength / Block.byteCount := by
    omega
  rw [Element.split_extract (by rw [row]; exact inside), Array.getElem?_extract,
    Element.size_split, row, if_pos cut, Database.getElem?_split_rowBytes below inRow]

/-- A worker adds its part of one row. -/
theorem addScaledPart_computes (weight : Element) {index : Nat} (below : index < database.rows)
    {range : RowRange} (ordered : range.start ≤ range.stop)
    (inside : range.stop * Block.byteCount ≤ database.rowLength) :
    Computes
      (do
        let row ← database.row index
        let part ← Bytes.slice row (range.start * Block.byteCount) (range.stop * Block.byteCount)
        addScaled weight part)
      (range.length * Block.byteCount)
      (Element.mapBlocks fun block element =>
        element + weight * database.elementAt index (range.start + block)) := by
  have bound : range.stop * Block.byteCount ≤ (database.rowBytes index).size := by
    rw [Database.size_rowBytes below]
    exact inside
  have part : ((database.rowBytes index).extract (range.start * Block.byteCount)
      (range.stop * Block.byteCount)).size = range.length * Block.byteCount := by
    rw [Array.size_extract, Nat.min_eq_left bound, RowRange.length, Nat.sub_mul]
  refine Computes.afterCheck (Database.row_eq_ok below) ?_
  refine Computes.afterCheck (Bytes.slice_eq_ok (Nat.mul_le_mul_right _ ordered) bound) ?_
  refine (addScaled_computes weight part (Nat.mul_mod_left _ _)).congr ?_
  intro buffer fits
  apply Element.mapBlocks_congr
  intro block element within
  rw [fits, Nat.mul_div_cancel _ Block.byteCount_pos] at within
  rw [Array.getD_eq_getD_getElem?, getElem?_split_rowPart below inside within]
  rfl

/-- A worker adds the weighted sums of its blocks. -/
theorem weightedRange_computes (count : weights.length = database.rows)
    (short : database.rowLength < Size.limit) {range : RowRange}
    (ordered : range.start ≤ range.stop)
    (inside : range.stop * Block.byteCount ≤ database.rowLength) :
    (weightedRange weights database range).Computes (range.length * Block.byteCount)
      (Element.mapBlocks fun block element =>
        database.weightedSum (weights.getD · 0) (range.start + block) element) := by
  have forward : range.start * Block.byteCount ≤ range.stop * Block.byteCount :=
    Nat.mul_le_mul_right _ ordered
  have stopFits : range.stop * Block.byteCount < Size.limit := Nat.lt_of_le_of_lt inside short
  have startFits : range.start * Block.byteCount < Size.limit := Nat.lt_of_le_of_lt forward stopFits
  refine Computes.afterCheck (Size.mul_eq_ok startFits) ?_
  refine Computes.afterCheck (Size.mul_eq_ok stopFits) ?_
  exact forM_weighted_computes count (Nat.mul_mod_left _ _) fun weight _ below =>
    addScaledPart_computes weight below ordered inside

/-- **The parallel fold.**  For every number of workers and in every order it adds the same as the
sequential fold. -/
theorem weightedParallel_computes (scheduler : Workers.Scheduler) {workers : Nat}
    (count : weights.length = database.rows) (whole : database.rowLength % Block.byteCount = 0)
    (short : database.rowLength < Size.limit) (some_worker : 0 < workers)
    (few : workers < Workers.maxShares) :
    (weightedParallel scheduler weights database workers).Computes database.rowLength
      (database.addWeighted (weights.getD · 0)) := by
  have blocks : database.rowLength / Block.byteCount * Block.byteCount = database.rowLength :=
    Nat.div_mul_cancel (Nat.dvd_of_mod_eq_zero whole)
  have shared := @Workers.runPartitioned_computes UInt8 Block.byteCount
    (weightedRange weights database) scheduler workers (database.rowLength / Block.byteCount)
    (database.addWeighted (weights.getD · 0)) some_worker few
    (Nat.lt_of_le_of_lt (Nat.div_le_self _ _) short)
  rw [blocks] at shared
  refine Computes.afterGet fun output fits => ?_
  refine Computes.afterCheck (requireWeighted_eq_ok_iff.mpr ⟨whole, count, fits⟩) ?_
  apply shared short
  · intro buffer same
    rw [Database.addWeighted, Element.size_mapBlocks _ (same ▸ whole), same]
  · intro range ordered inside buffer same
    have within : range.stop * Block.byteCount ≤ database.rowLength :=
      (Nat.le_div_iff_mul_le Block.byteCount_pos).mp inside
    have piece := Workers.size_read_rowsSlice ordered inside (same.trans blocks.symm)
    rw [(weightedRange_computes count short ordered within _ piece).1, Slice.read, Slice.read,
      Workers.rowsSlice_end ordered]
    refine congrArg _ (Eq.symm ?_)
    exact Element.extract_mapBlocks _ (same ▸ whole) (same ▸ within)

end Fold
end PrivateRetrieval
