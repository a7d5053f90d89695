import PrivateRetrieval.Fold.Selection
import PrivateRetrieval.Workers.Schedule

namespace PrivateRetrieval
namespace Fold

/-!
# Folding selected rows

The fold adds, by exclusive or, every selected row of a database into an output of one row, which is
not cleared first.  Bytes of the selection that are zero are passed over whole.

The parallel fold cuts the rows into ranges that start at whole bytes of the selection.  Every worker
folds its range into a row of its own, and these rows are added into the output when all workers are
done.

The rebalanced fold reads every row as a sequence of blocks.  The selection then picks columns of
blocks, and the output has one block for each row of the database.
-/

/-- Add the rows that one byte of a selection picks. -/
def addSelectedOfByte (database : Database) (byte : UInt8) (byteIndex : Nat) : Update UInt8 Unit :=
  (List.range 8).forM fun place =>
    if 8 * byteIndex + place < database.rows ∧ byte.toBitVec.getLsbD place = true then do
      let row ← database.row (8 * byteIndex + place)
      Bytes.addInto row
    else pure ()

/-- Add every selected row into the output. -/
def selected (selection : Bytes) (database : Database) : Update UInt8 Unit := do
  let output ← get
  require (output.size = database.rowLength) (.fault .outputNotOneRow)
  let covered ← Selection.coverage selection
  require (database.rows ≤ covered) (.fault (.selectionTooShort covered database.rows))
  let bytes ← Bytes.slice selection 0 (Size.ceilDiv database.rows 8)
  bytes.toList.zipIdx.forM fun (byte, byteIndex) =>
    if byte = 0 then pure () else addSelectedOfByte database byte byteIndex

/-- Fold one worker's range of rows. -/
def selectedRange (selection : Bytes) (database : Database) (range : RowRange) : Update UInt8 Unit := do
  let bytes ← Bytes.slice selection (range.start / 8) (Size.ceilDiv range.stop 8)
  let rows ← database.sliceRows range
  selected bytes rows

/-- The task of every worker whose range is not empty: to fold it into its own row of a buffer of
rows. -/
def partialTasks (selection : Bytes) (database : Database) (ranges : List RowRange) :
    List (Workers.Task UInt8) :=
  (ranges.zipIdx.filter fun (range, _) => !range.isEmpty).map fun (range, worker) =>
    { slice := ⟨worker * database.rowLength, database.rowLength⟩
      update := selectedRange selection database range }

/-- Add every selected row into the output, with the rows shared among workers. -/
def selectedParallel (scheduler : Workers.Scheduler) (selection : Bytes) (database : Database)
    (workers : Nat) : Update UInt8 Unit := do
  let output ← get
  require (output.size = database.rowLength) (.fault .outputNotOneRow)
  let covered ← Selection.coverage selection
  require (database.rows ≤ covered) (.fault .selectionExhausted)
  require (0 < workers) (.aggregation .noWorkers)
  let ranges ← Workers.partitionAligned database.rows workers 8
  let partialRows ← Update.apply
    (scheduler.run (partialTasks selection database ranges))
    (Bytes.zeros (ranges.length * database.rowLength))
  (List.range ranges.length).forM fun worker =>
    Bytes.addInto (Slice.read ⟨worker * database.rowLength, database.rowLength⟩ partialRows)

/-- Add the selected blocks of one row into a block of output. -/
def addSelectedBlocks (selection : Bytes) (blockLength columns : Nat) (row : Bytes) :
    Update UInt8 Unit :=
  (List.range columns).forM fun column => do
    let selected ← Selection.isSelected selection column
    if selected then do
      let block ← Bytes.slice row (column * blockLength) ((column + 1) * blockLength)
      Bytes.addInto block

/-- Add the selected blocks of every row into the row's own block of the output. -/
def selectedRebalanced (selection : Bytes) (database : Database) (blockLength : Nat) :
    Update UInt8 Unit := do
  require (0 < blockLength ∧ database.rowLength % blockLength = 0) (.fault .partialBlock)
  let columns := database.rowLength / blockLength
  let covered ← Selection.coverage selection
  require (columns ≤ covered) (.fault .selectionExhausted)
  let output ← get
  let expected ← Size.mul database.rows blockLength
  require (output.size = expected) (.fault .outputNotOneBlockPerRow)
  (List.range database.rows).forM fun index =>
    Slice.update ⟨index * blockLength, blockLength⟩ do
      let row ← database.row index
      addSelectedBlocks selection blockLength columns row

end Fold
end PrivateRetrieval
