import PrivateRetrieval.Fold.Selection
import PrivateRetrieval.Workers.Schedule

namespace PrivateRetrieval
namespace Fold

/-!
# Folding weighted rows

Rows are read as sequences of field elements.  The fold multiplies every row by its weight and adds
the products, element by element, into an output of one row.  A row of weight zero adds nothing and is
not read.

The parallel fold shares the elements of the output among workers; each reads its own part of every
row, so there is nothing to combine.
-/

/-- Add a multiple of a row to the buffer, element by element. -/
def addScaled (weight : Element) (row : Bytes) : Update UInt8 Unit := do
  let buffer ← get
  require (buffer.size = row.size) (.fault .lengthMismatch)
  require (row.size % Block.byteCount = 0) (.fault .lengthMismatch)
  set (Element.concat
    (Array.zipWith (fun sum entry => sum + weight * entry) (Element.split buffer)
      (Element.split row)))

/-- Check that weights and output fit a database of field elements. -/
def requireWeighted (weights : List Element) (database : Database) (outputSize : Nat) :
    Outcome Unit := do
  require (database.rowLength % Block.byteCount = 0) (.fault .partialElement)
  require (weights.length = database.rows) (.fault .weightCount)
  require (outputSize = database.rowLength) (.fault .outputNotOneRow)

/-- Add every row, multiplied by its weight, into the output. -/
def weighted (weights : List Element) (database : Database) : Update UInt8 Unit := do
  let output ← get
  requireWeighted weights database output.size
  weights.zipIdx.forM fun (weight, index) =>
    if weight.isZero then pure ()
    else do
      let row ← database.row index
      addScaled weight row

/-- One worker's part of the weighted fold: the elements of a range in every row. -/
def weightedRange (weights : List Element) (database : Database) (range : RowRange) :
    Update UInt8 Unit := do
  let start ← Size.mul range.start Block.byteCount
  let stop ← Size.mul range.stop Block.byteCount
  weights.zipIdx.forM fun (weight, index) =>
    if weight.isZero then pure ()
    else do
      let row ← database.row index
      let part ← Bytes.slice row start stop
      addScaled weight part

/-- Add every row, multiplied by its weight, into the output, with the elements of a row shared among
workers. -/
def weightedParallel (scheduler : Workers.Scheduler) (weights : List Element)
    (database : Database) (workers : Nat) : Update UInt8 Unit := do
  let output ← get
  requireWeighted weights database output.size
  Workers.runPartitioned scheduler workers (database.rowLength / Block.byteCount)
    Block.byteCount (weightedRange weights database)

end Fold
end PrivateRetrieval
