import PrivateRetrieval.Matrix.Shape
import PrivateRetrieval.Workers.Schedule

namespace PrivateRetrieval
namespace Matrix

/-!
# Matrix products

The product of two matrices is added into an output, in arithmetic that wraps at the width of the
entries.  A kernel computes the output rows for a range of rows of the left factor: for every entry of
such a row it adds a multiple of the matching row of the right factor.  The indicator product has a
byte mask in place of the right factor and adds the entry wherever the mask is one.

The sequential product runs the kernel once over all rows.  The parallel product shares the rows among
workers.
-/

variable {w : Nat}

/-- Check that two factors fit together and that the output has the shape of their product. -/
def requireProduct (left right output : Shape) : Outcome Unit := do
  require (left.cols = right.rows) (.aggregation (.innerDimension left.cols right.rows))
  require (output.rows = left.rows ∧ output.cols = right.cols)
    (.aggregation (.outputShape output.rows output.cols left.rows right.cols))

/-- Add one entry of the left factor times a row of the right factor to an output row. -/
def addMultiple (entry : BitVec w) (other : Array (BitVec w)) (output : Array (BitVec w)) :
    Array (BitVec w) :=
  Array.zipWith (fun sum factor => sum + entry * factor) output other

/-- Add one entry of the left factor to an output row wherever the mask is one. -/
def addWhereOne (entry : BitVec w) (mask : Array UInt8) (output : Array (BitVec w)) :
    Array (BitVec w) :=
  Array.zipWith (fun sum bit => if bit = 1 then sum + entry else sum) output mask

/-- The kernel of a product: the output rows for a range of rows of the left factor, where `add`
brings in one entry of the left factor and the matching row of the right one. -/
def productRows {β : Type} (add : BitVec w → Array β → Array (BitVec w) → Array (BitVec w))
    (left : Matrix (BitVec w)) (right : Matrix β) (range : RowRange) : Update (BitVec w) Unit := do
  require (left.cols = right.rows) (.fault .shapeMismatch)
  require (range.stop ≤ left.rows) (.fault .shapeMismatch)
  let output ← get
  let expected ← Size.mul range.length right.cols
  require (output.size = expected) (.fault .shapeMismatch)
  if right.cols = 0 then pure ()
  else
    (List.range range.length).forM fun step =>
      Slice.update ⟨step * right.cols, right.cols⟩ do
        let entries ← left.row (range.start + step)
        entries.toList.zipIdx.forM fun (entry, k) => do
          let other ← right.row k
          modify (add entry other)

/-- Add the product's rows for a range of rows of the left factor. -/
def multiplyRows (left right : Matrix (BitVec w)) (range : RowRange) : Update (BitVec w) Unit :=
  productRows addMultiple left right range

/-- Add the indicator product's rows for a range of rows of the left factor. -/
def indicateRows (left : Matrix (BitVec w)) (mask : Matrix UInt8) (range : RowRange) :
    Update (BitVec w) Unit :=
  productRows addWhereOne left mask range

/-- Run a kernel over all rows of the left factor.  Shapes that do not agree are the caller's fault. -/
def overAllRows {β : Type} (left : Matrix (BitVec w)) (right : Matrix β) (output : Shape)
    (kernel : RowRange → Update (BitVec w) Unit) : Update (BitVec w) Unit := do
  match requireProduct left.shape right.shape output with
  | .ok _ => kernel ⟨0, left.rows⟩
  | .error _ => throw (.fault .shapeMismatch)

/-- Add the product into an output of a given shape. -/
def multiply (left right : Matrix (BitVec w)) (output : Shape) : Update (BitVec w) Unit :=
  overAllRows left right output (multiplyRows left right)

/-- Add the indicator product into an output of a given shape. -/
def indicate (left : Matrix (BitVec w)) (mask : Matrix UInt8) (output : Shape) :
    Update (BitVec w) Unit :=
  overAllRows left mask output (indicateRows left mask)

/-- Share the rows of the output among workers.  Shapes that do not agree are refused. -/
def shareRows {β : Type} (scheduler : Workers.Scheduler) (workers : Nat)
    (left : Matrix (BitVec w)) (right : Matrix β) (output : Shape)
    (kernel : RowRange → Update (BitVec w) Unit) : Update (BitVec w) Unit := do
  requireProduct left.shape right.shape output
  Workers.runPartitioned scheduler workers output.rows output.cols kernel

/-- Add the product into an output of a given shape, with the rows shared among workers. -/
def multiplyParallel (scheduler : Workers.Scheduler) (left right : Matrix (BitVec w))
    (output : Shape) (workers : Nat) : Update (BitVec w) Unit :=
  shareRows scheduler workers left right output (multiplyRows left right)

/-- Add the indicator product into an output of a given shape, with the rows shared among workers. -/
def indicateParallel (scheduler : Workers.Scheduler) (left : Matrix (BitVec w))
    (mask : Matrix UInt8) (output : Shape) (workers : Nat) : Update (BitVec w) Unit :=
  shareRows scheduler workers left mask output (indicateRows left mask)

end Matrix
end PrivateRetrieval
