import PrivateRetrieval.Field.Element
import PrivateRetrieval.Size

namespace PrivateRetrieval
namespace Selection

/-!
# Packed selections

A selection says for each row whether it takes part in a fold.  It is packed into bytes: row `r` is
bit `r % 8` of byte `r / 8`.  Bits past the last row may have any value.
-/

/-- Test whether a row is selected. -/
def isSelected (selection : Bytes) (row : Nat) : Outcome Bool :=
  match selection[row / 8]? with
  | some byte => .ok (byte.toBitVec.getLsbD (row % 8))
  | none => .error (.fault .selectionExhausted)

/-- The number of rows that a selection speaks of. -/
def coverage (selection : Bytes) : Outcome Nat :=
  Size.mul selection.size 8

/-- One for every selected row and zero for every other. -/
def toWeights (selection : Bytes) (rows : Nat) : Outcome (List Element) := do
  let covered ← coverage selection
  require (rows ≤ covered) (.fault .selectionExhausted)
  (List.range rows).mapM fun row => do
    let selected ← isSelected selection row
    return if selected then 1 else 0

end Selection
end PrivateRetrieval
