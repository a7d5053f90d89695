import PrivateRetrieval.Proofs.Fold.Rows
import PrivateRetrieval.Proofs.Workers.Rows

namespace PrivateRetrieval

/-!
# Every row on its own

The rebalanced fold cuts every row into blocks and lets the selection pick columns of blocks.  What it
does to the block of output that belongs to a row is the ordinary fold with the same selection, run over
that row alone: the row is a database, and its blocks are the rows of that database.

Nothing of another row, and nothing of another block of the output, has any influence on the block.
-/

open Update

namespace Database

variable (database : Database) {blockLength : Nat} (positive : 0 < blockLength)
  (whole : database.rowLength % blockLength = 0)

/-- A row as a database whose rows are the row's blocks. -/
def blocksOfRow {row : Nat} (inside : row < database.rows) : Database where
  data := database.rowBytes row
  rows := database.rowLength / blockLength
  rowLength := blockLength
  rowLength_pos := positive
  size_eq := by
    rw [size_rowBytes inside, Nat.div_mul_cancel (Nat.dvd_of_mod_eq_zero whole)]

/-- One byte of a row's block of output, with that byte of the row's chosen blocks added. -/
def addBlocks (chosen : Nat → Bool) (row position : Nat) (byte : UInt8) : UInt8 :=
  if inside : row < database.rows then
    (database.blocksOfRow positive whole inside).selectedSum chosen position byte
  else byte

end Database

namespace Fold

/-- The ordinary fold over one row of a database, whose blocks take the place of rows. -/
def selectedInRow (selection : Bytes) (database : Database) (blockLength row : Nat) :
    Update UInt8 Unit := do
  let bytes ← database.row row
  let blocks ← Database.ofBytes bytes blockLength
  selected selection blocks

/-- Each block of a buffer is what the ordinary fold over its own row makes of the block that was there
before. -/
structure FoldsRowByRow (selection : Bytes) (database : Database) (blockLength : Nat)
    (before after : Bytes) : Prop where
  size_eq : after.size = before.size
  block_eq : ∀ row, row < database.rows →
    (selectedInRow selection database blockLength row).run
        ((Workers.rowSlice blockLength row).read before) =
      .ok () ((Workers.rowSlice blockLength row).read after)

/-! ## One row -/

section Row

variable {selection : Bytes} {database : Database} {blockLength row : Nat}

/-- A block of the row is added if its column is selected. -/
theorem addIfSelected_computes {blocks : Database} (covers : blocks.rows ≤ selection.size * 8)
    {column : Nat} (inside : column < blocks.rows) :
    Computes
      (do
        let selected ← Selection.isSelected selection column
        if selected then do
          let block ← Bytes.slice blocks.data (column * blocks.rowLength)
            ((column + 1) * blocks.rowLength)
          Bytes.addInto block)
      blocks.rowLength fun buffer =>
        buffer.mapIdx fun position byte =>
          if selection.bit column then byte ^^^ blocks.byteAt column position else byte := by
  refine Computes.afterCheck (Selection.isSelected_eq_ok (Nat.lt_of_lt_of_le inside covers)) ?_
  cases selection.bit column with
  | true =>
      have ordered : column * blocks.rowLength ≤ (column + 1) * blocks.rowLength :=
        Nat.mul_le_mul_right _ column.le_succ
      have bound : (column + 1) * blocks.rowLength ≤ blocks.data.size := by
        rw [blocks.size_eq]
        exact Nat.mul_le_mul_right _ inside
      refine Computes.afterCheck (Bytes.slice_eq_ok ordered bound) ?_
      exact Database.addInto_rowBytes_computes inside
  | false =>
      refine Computes.done.congr ?_
      intro buffer _
      exact (mapIdx_eq_self fun _ _ => rfl).symm

/-- All columns add up to the plain sum over the blocks of the row. -/
theorem addSelectedBlocks_computes (blocks : Database) (covers : blocks.rows ≤ selection.size * 8) :
    (addSelectedBlocks selection blocks.rowLength blocks.rows blocks.data).Computes blocks.rowLength
      (blocks.addSelected selection.bit) := by
  refine (Computes.loop fun _ member =>
    addIfSelected_computes covers (List.mem_range.mp member)).congr ?_
  intro buffer _
  exact foldl_mapIdx (List.range blocks.rows)
    (fun column position byte =>
      if selection.bit column then byte ^^^ blocks.byteAt column position else byte) buffer

variable (positive : 0 < blockLength) (whole : database.rowLength % blockLength = 0)
  (inside : row < database.rows)

include positive whole inside

/-- The fold over a row alone is the fold over the database of its blocks. -/
theorem run_selectedInRow (block : Bytes) :
    (selectedInRow selection database blockLength row).run block =
      (selected selection (database.blocksOfRow positive whole inside)).run block := by
  have cut := (database.blocksOfRow positive whole inside).ofBytes_eq_ok
  change Database.ofBytes (database.rowBytes row) blockLength = _ at cut
  rw [selectedInRow, Database.row_eq_ok inside]
  change EStateM.run (liftM (Database.ofBytes (database.rowBytes row) blockLength) >>= _) block = _
  rw [cut]
  rfl

theorem selectedInRow_refuses {block : Bytes} (single : block.size = blockLength)
    (long : Size.limit ≤ selection.size * 8) :
    (selectedInRow selection database blockLength row).Refuses block (.fault .sizeOverflow) := by
  rw [Refuses, run_selectedInRow positive whole inside]
  exact selected_refuses single long

end Row

/-! ## All rows -/

section Rows

variable {selection : Bytes} {database : Database} {blockLength : Nat}
  (positive : 0 < blockLength) (whole : database.rowLength % blockLength = 0)

include positive whole

/-- The loop over the rows changes the block of every row by the sum of the row's selected blocks. -/
theorem selectedRebalanced_computes (covers : database.rowLength / blockLength ≤ selection.size * 8)
    (short : selection.size * 8 < Size.limit) (small : database.rows * blockLength < Size.limit) :
    (selectedRebalanced selection database blockLength).Computes (database.rows * blockLength)
      (Workers.changeRows (database.addBlocks positive whole selection.bit) blockLength 0) := by
  have each : ∀ row, row < database.rows →
      Computes
        (do
          let bytes ← database.row row
          addSelectedBlocks selection blockLength (database.rowLength / blockLength) bytes)
        blockLength fun block =>
          block.mapIdx (database.addBlocks positive whole selection.bit (0 + row)) := by
    intro row inside
    refine Computes.afterCheck (Database.row_eq_ok inside) ?_
    refine (addSelectedBlocks_computes (database.blocksOfRow positive whole inside) covers).congr ?_
    intro block _
    apply mapIdx_congr
    intro position byte _
    rw [Nat.zero_add, Database.addBlocks, dif_pos inside]
  refine Computes.afterCheck (require_eq_ok_iff.mpr ⟨positive, whole⟩) ?_
  refine Computes.afterCheck (Size.mul_eq_ok short) ?_
  refine Computes.afterCheck (require_eq_ok_iff.mpr covers) ?_
  refine Computes.afterGet fun output fits => ?_
  refine Computes.afterCheck (Size.mul_eq_ok small) ?_
  refine Computes.afterCheck (require_eq_ok_iff.mpr fits) ?_
  exact Workers.forM_rows_computes each

theorem selectedRebalanced_refuses {output : Bytes} (long : Size.limit ≤ selection.size * 8) :
    (selectedRebalanced selection database blockLength).Refuses output (.fault .sizeOverflow) := by
  refine Refuses.afterCheck (require_eq_ok_iff.mpr ⟨positive, whole⟩) ?_
  exact Refuses.atCheck (Size.mul_eq_error long) _

/-- What the loop leaves in the block of a row is the fold over that row alone. -/
theorem changeRows_foldsRowByRow (covers : database.rowLength / blockLength ≤ selection.size * 8)
    (short : selection.size * 8 < Size.limit) {output : Bytes}
    (fits : output.size = database.rows * blockLength) :
    FoldsRowByRow selection database blockLength output
      (Workers.changeRows (database.addBlocks positive whole selection.bit) blockLength 0
        output) where
  size_eq := Workers.size_changeRows _ _ _ _
  block_eq row inside := by
    have block := Workers.size_read_rowSlice inside fits
    have folded : (selected selection (database.blocksOfRow positive whole inside)).Computes blockLength
        ((database.blocksOfRow positive whole inside).addSelected selection.bit) :=
      selected_computes short covers
    rw [run_selectedInRow positive whole inside, (folded _ block).1,
      Workers.read_rowSlice_changeRows inside fits]
    refine congrArg (EStateM.Result.ok ()) (mapIdx_congr ?_)
    intro position byte _
    rw [Nat.zero_add, Database.addBlocks, dif_pos inside]

theorem run_selectedRebalanced_eq_ok (covers : database.rowLength / blockLength ≤ selection.size * 8)
    (short : selection.size * 8 < Size.limit) {output : Bytes}
    (fits : output.size = database.rows * blockLength) (small : output.size < Size.limit) :
    ∃ folded, (selectedRebalanced selection database blockLength).run output = .ok () folded ∧
      FoldsRowByRow selection database blockLength output folded :=
  ⟨_, (selectedRebalanced_computes positive whole covers short (fits ▸ small) output fits).1,
    changeRows_foldsRowByRow positive whole covers short fits⟩

end Rows

/-- A block of output comes from the block that was there before and from its own row. -/
theorem FoldsRowByRow.read_eq_read {selection : Bytes} {database other : Database} {blockLength : Nat}
    {before after otherBefore otherAfter : Bytes}
    (first : FoldsRowByRow selection database blockLength before after)
    (second : FoldsRowByRow selection other blockLength otherBefore otherAfter) {row : Nat}
    (inside : row < database.rows) (otherInside : row < other.rows)
    (sameRow : other.rowBytes row = database.rowBytes row)
    (sameBlock : (Workers.rowSlice blockLength row).read otherBefore =
      (Workers.rowSlice blockLength row).read before) :
    (Workers.rowSlice blockLength row).read otherAfter =
      (Workers.rowSlice blockLength row).read after := by
  have sameFold : selectedInRow selection other blockLength row =
      selectedInRow selection database blockLength row := by
    rw [selectedInRow, selectedInRow, Database.row_eq_ok inside, Database.row_eq_ok otherInside,
      sameRow]
  have folded := second.block_eq row otherInside
  rw [sameFold, sameBlock, first.block_eq row inside] at folded
  injection folded with _ same
  exact same.symm

/-- **Every row on its own.**  If the block length divides the rows and the selection covers the columns,
the rebalanced fold succeeds on every output of one block for each row, and leaves in each block what the
ordinary fold over the row of that block makes of it.  In another database and another output that agree in
one row and its block, that block is left the same, whatever the other rows and blocks are.

Only a selection so long that its bits cannot be counted is refused, by both folds, and then nothing is
written. -/
theorem run_selectedRebalanced_eq_rowwise {selection : Bytes} {database : Database}
    {blockLength : Nat} {output : Bytes} (positive : 0 < blockLength)
    (whole : database.rowLength % blockLength = 0)
    (covers : database.rowLength / blockLength ≤ selection.size * 8)
    (fits : output.size = database.rows * blockLength) (small : output.size < Size.limit) :
    (selection.size * 8 < Size.limit →
        ∃ folded, (selectedRebalanced selection database blockLength).run output = .ok () folded ∧
          FoldsRowByRow selection database blockLength output folded ∧
          ∀ (other : Database) (otherOutput : Bytes), other.rows = database.rows →
            other.rowLength = database.rowLength → otherOutput.size = output.size →
            ∃ otherFolded,
              (selectedRebalanced selection other blockLength).run otherOutput =
                .ok () otherFolded ∧
              ∀ row, row < database.rows → other.rowBytes row = database.rowBytes row →
                (Workers.rowSlice blockLength row).read otherOutput =
                  (Workers.rowSlice blockLength row).read output →
                (Workers.rowSlice blockLength row).read otherFolded =
                  (Workers.rowSlice blockLength row).read folded) ∧
      (Size.limit ≤ selection.size * 8 →
        (selectedRebalanced selection database blockLength).run output =
            .error (.fault .sizeOverflow) output ∧
          ∀ row, row < database.rows →
            (selectedInRow selection database blockLength row).run
                ((Workers.rowSlice blockLength row).read output) =
              .error (.fault .sizeOverflow) ((Workers.rowSlice blockLength row).read output)) := by
  constructor
  · intro short
    rcases run_selectedRebalanced_eq_ok positive whole covers short fits small with
      ⟨folded, ran, rowwise⟩
    refine ⟨folded, ran, rowwise, ?_⟩
    intro other otherOutput sameRows sameLength sameSize
    have otherFits : otherOutput.size = other.rows * blockLength := by
      rw [sameSize, fits, sameRows]
    rcases run_selectedRebalanced_eq_ok positive (sameLength ▸ whole) (sameLength ▸ covers) short
      otherFits (sameSize ▸ small) with ⟨otherFolded, otherRan, otherRowwise⟩
    exact ⟨otherFolded, otherRan, fun row inside sameRow sameBlock =>
      rowwise.read_eq_read otherRowwise inside (sameRows ▸ inside) sameRow sameBlock⟩
  · intro long
    refine ⟨selectedRebalanced_refuses positive whole long, ?_⟩
    intro row inside
    exact selectedInRow_refuses positive whole inside (Workers.size_read_rowSlice inside fits) long

/-- Three rows of six bytes. -/
def threeShortRows : Database where
  data := #[3, 1, 4, 1, 5, 9, 2, 6, 5, 3, 5, 8, 9, 7, 9, 3, 2, 3]
  rows := 3
  rowLength := 6
  rowLength_pos := by decide
  size_eq := rfl

/-- Three rows of six bytes of which the middle one is that of `threeShortRows`. -/
def threeOtherRows : Database where
  data := #[2, 7, 1, 8, 2, 8, 2, 6, 5, 3, 5, 8, 1, 8, 2, 8, 4, 5]
  rows := 3
  rowLength := 6
  rowLength_pos := threeShortRows.rowLength_pos
  size_eq := rfl

/-- Three rows of three blocks with two bytes each.  The selection has stray bits past the last column, and
a change of the outer rows and of their blocks of output does not show in the middle block. -/
theorem run_selectedRebalanced_eq_rowwise_of_three_rows :
    6 % 2 = 0 ∧ 6 / 2 ≤ 1 * 8 ∧ 6 = 3 * 2 ∧ 1 * 8 < Size.limit ∧
      ∃ folded otherFolded,
        (selectedRebalanced #[0xfd] threeShortRows 2).run #[10, 20, 30, 40, 50, 60] =
            .ok () folded ∧
          FoldsRowByRow #[0xfd] threeShortRows 2 #[10, 20, 30, 40, 50, 60] folded ∧
          (selectedRebalanced #[0xfd] threeOtherRows 2).run #[0, 0, 30, 40, 0, 0] =
            .ok () otherFolded ∧
          threeOtherRows.rowBytes 1 = threeShortRows.rowBytes 1 ∧
          otherFolded.extract 2 4 = folded.extract 2 4 := by
  rcases (@run_selectedRebalanced_eq_rowwise #[0xfd] threeShortRows 2 #[10, 20, 30, 40, 50, 60]
    (by decide) rfl (by decide) rfl (by decide)).1 (by decide) with ⟨folded, ran, rowwise, others⟩
  rcases others threeOtherRows #[0, 0, 30, 40, 0, 0] rfl rfl rfl with ⟨otherFolded, otherRan, same⟩
  have sameRow : threeOtherRows.rowBytes 1 = threeShortRows.rowBytes 1 := by decide
  exact ⟨rfl, by decide, rfl, by decide, folded, otherFolded, ran, rowwise, otherRan, sameRow,
    same 1 (by decide) sameRow rfl⟩

end Fold
end PrivateRetrieval
