import PrivateRetrieval.Database
import PrivateRetrieval.Size

namespace PrivateRetrieval
namespace Workers

/-!
# Sharing rows among workers

The rows are cut into as many consecutive ranges as there are workers.  All ranges but the last have
the same length, the largest multiple of the alignment that does not exceed an equal share; the last
range takes what is left.  With more workers than rows, all ranges but the last are empty.
-/

/-- The first number of ranges whose list exceeds the memory that can be addressed. -/
def maxShares : Nat := 1 <<< 59

/-- The range of one worker, given the length that all ranges but the last have. -/
def shareOf (rows workers share worker : Nat) : Outcome RowRange := do
  let start ← Size.mul worker share
  let stop ← if worker + 1 = workers then pure rows else Size.add start share
  return ⟨start, stop⟩

/-- The ranges of all workers, each starting at a multiple of `align`. -/
def partitionAligned (rows workers align : Nat) : Outcome (List RowRange) := do
  require (0 < workers) (.fault .noWorkersToShare)
  require (0 < align) (.fault .zeroAlignment)
  let share ← Size.mul (rows / workers / align) align
  require (workers < maxShares) (.fault .tooManyShares)
  (List.range workers).mapM (shareOf rows workers share)

/-- The ranges of all workers, starting at any row. -/
def partition (rows workers : Nat) : Outcome (List RowRange) :=
  partitionAligned rows workers 1

end Workers
end PrivateRetrieval
