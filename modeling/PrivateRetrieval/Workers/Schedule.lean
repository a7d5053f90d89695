import PrivateRetrieval.Update
import PrivateRetrieval.Workers.Partition

namespace PrivateRetrieval
namespace Workers

/-!
# The order in which workers run

Workers run side by side, and nothing is promised about the order in which their tasks happen.  Here
the order is data: a scheduler names, for every number of tasks, one order in which each of them runs
once.  An operation that takes a scheduler is parallel in the sense that a statement about it for
every scheduler is a statement about every order.

Tasks write to pieces of one buffer that do not overlap.  `runPartitioned` hands the rows of a buffer
out to the workers: the pieces are cut off the buffer one after the other, each as long as its range of
rows, and a worker is told its range.
-/

/-- For every number of tasks, an order in which each of them runs once. -/
structure Scheduler where
  /-- The order of the tasks. -/
  order : (count : Nat) → List (Fin count)
  order_perm : ∀ count, (order count).Perm (List.finRange count)

/-- The scheduler that runs tasks by their number. -/
def Scheduler.inOrder : Scheduler where
  order := List.finRange
  order_perm := fun _ => List.Perm.refl _

/-- An update confined to a piece of a buffer. -/
structure Task (α : Type) where
  slice : Slice
  update : Update α Unit

/-- Run all tasks on one buffer. -/
def Scheduler.run {α : Type} (scheduler : Scheduler) (tasks : List (Task α)) : Update α Unit :=
  (scheduler.order tasks.length).forM fun i => (tasks.get i).slice.update (tasks.get i).update

/-- Compute the results of all tasks and file each under its number.  The first failure in the order
of the scheduler is the answer if there is one. -/
def Scheduler.collect {α : Type} (scheduler : Scheduler) (count : Nat)
    (task : Fin count → Outcome α) : Outcome (List α) := do
  let filed ← (scheduler.order count).foldlM
    (fun (results : List (Option α)) i => do
      let result ← task i
      return results.set i (some result))
    (List.replicate count none)
  return filed.filterMap id

/-- The tasks for consecutive ranges, with pieces cut off from `offset` on.  An empty range has no
task. -/
def tasksFrom {α : Type} (width : Nat) (kernel : RowRange → Update α Unit) :
    (offset : Nat) → List RowRange → Outcome (List (Task α))
  | _, [] => .ok []
  | offset, range :: rest => do
      let length ← Size.mul range.length width
      let later ← tasksFrom width kernel (offset + length) rest
      return if range.isEmpty then later else ⟨⟨offset, length⟩, kernel range⟩ :: later

/-- Share `rows` rows of `width` entries among workers, who run `kernel` on their own rows. -/
def runPartitioned {α : Type} (scheduler : Scheduler) (workers rows width : Nat)
    (kernel : RowRange → Update α Unit) : Update α Unit := do
  let buffer ← get
  let expected ← Size.mul rows width
  require (buffer.size = expected) (.fault .lengthMismatch)
  require (0 < workers) (.aggregation .noWorkers)
  let ranges ← partition rows workers
  let tasks ← tasksFrom width kernel 0 ranges
  scheduler.run tasks

end Workers
end PrivateRetrieval
