import PrivateRetrieval.Matrix.Entry
import PrivateRetrieval.Matrix.Product
import PrivateRetrieval.Proofs.Workers.Rows

namespace PrivateRetrieval
namespace Matrix

open Update Workers

/-!
# What a product kernel computes

A kernel brings in one entry of the left factor after the other, each together with a whole row of the
right factor.  Every entry of an output row is changed by itself, so what the kernel makes of it can be
said for the entry alone: it goes through the inner dimension, with its row of the left factor and its
column of the right one.

The lemmas do not ask how an entry is brought in, and so hold of the product and of the indicator
product alike.
-/

variable {w : Nat} {β : Type}

/-! ## Rows -/

theorem row_eq_read {matrix : Matrix β} {index : Nat} (inside : index < matrix.rows) :
    matrix.row index = .ok ((rowSlice matrix.cols index).read matrix.data) := by
  rw [row_eq_ok inside, Nat.succ_mul]
  rfl

theorem size_rowRead {matrix : Matrix β} {index : Nat} (inside : index < matrix.rows) :
    ((rowSlice matrix.cols index).read matrix.data).size = matrix.cols :=
  size_read_rowSlice inside matrix.size_eq

variable [Inhabited β]

/-- The entry in a row and a column of a matrix over any type. -/
def cell (matrix : Matrix β) (i j : Nat) : β :=
  matrix.data.getD (i * matrix.cols + j) default

theorem entry_eq_cell (matrix : Matrix (BitVec w)) (i j : Nat) : matrix.entry i j = matrix.cell i j :=
  rfl

theorem getD_rowRead (matrix : Matrix β) (index : Nat) {column : Nat}
    (inside : column < matrix.cols) :
    ((rowSlice matrix.cols index).read matrix.data).getD column default = matrix.cell index column := by
  rw [Array.getD_eq_getD_getElem?, Slice.getElem?_read _ _ inside, ← Array.getD_eq_getD_getElem?]
  rfl

/-! ## One output row -/

/-- An entry of the left factor and a row of the right one are brought into an output row entry by
entry. -/
def Entrywise (add : BitVec w → Array β → Array (BitVec w) → Array (BitVec w))
    (combine : BitVec w → BitVec w → β → BitVec w) : Prop :=
  ∀ entry other output, add entry other output = Array.zipWith (combine entry) output other

/-- An entry after everything that belongs to its row of the left factor and its column of the right
one. -/
def combined (combine : BitVec w → BitVec w → β → BitVec w) (left : Matrix (BitVec w))
    (right : Matrix β) (i j : Nat) (start : BitVec w) : BitVec w :=
  (List.range left.cols).foldl (fun sum k => combine (left.entry i k) sum (right.cell k j)) start

theorem addMultiple_entrywise :
    Entrywise (w := w) addMultiple fun entry sum factor => sum + entry * factor := by
  intro entry other output
  rfl

theorem addWhereOne_entrywise :
    Entrywise (w := w) addWhereOne fun entry sum bit => if bit = 1 then sum + entry else sum := by
  intro entry other output
  rfl

variable {add : BitVec w → Array β → Array (BitVec w) → Array (BitVec w)}
  {combine : BitVec w → BitVec w → β → BitVec w} {left : Matrix (BitVec w)} {right : Matrix β}

/-- One entry of the left factor is brought in. -/
theorem add_computes (entrywise : Entrywise add combine) (entry : BitVec w) {k : Nat}
    (inside : k < right.rows) :
    Computes
      (do
        let other ← right.row k
        modify (add entry other))
      right.cols
      fun output => output.mapIdx fun j sum => combine entry sum (right.cell k j) := by
  have row := size_rowRead inside
  refine Computes.afterCheck (row_eq_read inside) ?_
  have kept : ∀ output : Array (BitVec w), output.size = right.cols →
      (add entry ((rowSlice right.cols k).read right.data) output).size = right.cols := by
    intro output fits
    rw [entrywise, Array.size_zipWith, fits, row, Nat.min_self]
  refine (Computes.modify kept).congr ?_
  intro output fits
  rw [entrywise, zipWith_eq_mapIdx (combine entry) (fits.trans row.symm) default]
  apply mapIdx_congr
  intro j sum within
  rw [fits] at within
  rw [getD_rowRead right k within]

/-- A whole row of the left factor is brought in. -/
theorem outputRow_computes (entrywise : Entrywise add combine) (inner : left.cols = right.rows)
    {i : Nat} (inside : i < left.rows) :
    Computes
      (do
        let entries ← left.row i
        entries.toList.zipIdx.forM fun (entry, k) => do
          let other ← right.row k
          modify (add entry other))
      right.cols
      fun output => output.mapIdx (combined combine left right i) := by
  have row := size_rowRead inside
  refine Computes.afterCheck (row_eq_read inside) ?_
  have each : ∀ entry ∈ ((rowSlice left.cols i).read left.data).toList.zipIdx,
      Computes
        (do
          let other ← right.row entry.2
          modify (add entry.1 other))
        right.cols
        fun output => output.mapIdx fun j sum => combine entry.1 sum (right.cell entry.2 j) := by
    intro entry member
    have below := List.snd_lt_add_of_mem_zipIdx member
    rw [Array.length_toList, row, Nat.zero_add, inner] at below
    exact add_computes entrywise entry.1 below
  refine (Computes.loop each).congr ?_
  intro output _
  rw [foldl_mapIdx _ fun (entry : BitVec w × Nat) j sum =>
    combine entry.1 sum (right.cell entry.2 j)]
  apply mapIdx_congr
  intro j start _
  rw [zipIdx_eq_map _ default, List.foldl_map, Array.length_toList, row]
  apply List.foldl_ext
  intro sum k member
  have entry : ((rowSlice left.cols i).read left.data).toList.getD k default = left.entry i k := by
    rw [List.getD_eq_getElem?_getD, Array.getElem?_toList, ← Array.getD_eq_getD_getElem?,
      getD_rowRead left i (List.mem_range.mp member), entry_eq_cell]
  rw [entry]

/-! ## A range of output rows -/

/-- **The kernel of a product.**  On the output rows for any rows of the left factor the kernel succeeds
and brings into every entry what belongs to it, if the factors fit together.  Output rows without
entries are no exception. -/
theorem productRows_computes (entrywise : Entrywise add combine) (inner : left.cols = right.rows)
    {range : RowRange} (ordered : range.start ≤ range.stop) (inside : range.stop ≤ left.rows)
    (small : range.length * right.cols < Size.limit) :
    (productRows add left right range).Computes (range.length * right.cols)
      (changeRows (combined combine left right) right.cols range.start) := by
  refine Computes.afterCheck (require_eq_ok_iff.mpr inner) ?_
  refine Computes.afterCheck (require_eq_ok_iff.mpr inside) ?_
  refine Computes.afterGet fun output fits => ?_
  refine Computes.afterCheck (Size.mul_eq_ok small) ?_
  refine Computes.afterCheck (require_eq_ok_iff.mpr fits) ?_
  by_cases empty : right.cols = 0
  · rw [if_pos empty]
    refine Computes.done.congr ?_
    intro buffer same
    rw [empty, Nat.mul_zero] at same
    exact (changeRows_of_size_eq_zero same).symm
  · rw [if_neg empty]
    apply forM_rows_computes
    intro step below
    apply outputRow_computes entrywise inner
    have length : range.length = range.stop - range.start := rfl
    omega

end Matrix
end PrivateRetrieval
