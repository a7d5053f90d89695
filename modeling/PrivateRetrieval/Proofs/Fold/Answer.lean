import PrivateRetrieval.Proofs.Fold.Selected
import PrivateRetrieval.Proofs.Fold.Sum
import PrivateRetrieval.Proofs.Fold.Weighted

namespace PrivateRetrieval
namespace Database

/-!
# Sums of rows that make one row

A fold into a row of zeros leaves a sum of rows.  Two such sums whose selections differ at one row only
add up to that row.  Two weighted sums whose weights add up to zero at all rows but one add up to a
multiple of that row, which an inverse of the factor turns into the row.

The row may lie past the end of the database; then zeros are left.
-/

variable (database : Database)

/-- The sum of the chosen rows. -/
def sumOfSelected (chosen : Nat → Bool) : Bytes :=
  database.addSelected chosen (Bytes.zeros database.rowLength)

/-- The sum of all rows, each multiplied by its weight. -/
def sumOfWeighted (weight : Nat → Element) : Bytes :=
  database.addWeighted weight (Bytes.zeros database.rowLength)

/-- The row with an index, or zeros if the database ends before it. -/
def rowOrZeros (index : Nat) : Bytes :=
  if index < database.rows then database.rowBytes index else Bytes.zeros database.rowLength

/-! ## One row -/

@[simp]
theorem size_rowOrZeros (index : Nat) : (database.rowOrZeros index).size = database.rowLength := by
  rw [rowOrZeros]
  by_cases inside : index < database.rows
  · rw [if_pos inside, size_rowBytes inside]
  · rw [if_neg inside, Bytes.size_zeros]

theorem getD_rowOrZeros (index : Nat) {position : Nat} (inRow : position < database.rowLength) :
    (database.rowOrZeros index).getD position 0 =
      if index < database.rows then database.byteAt index position else 0 := by
  rw [rowOrZeros]
  by_cases inside : index < database.rows
  · rw [if_pos inside, if_pos inside, getD_rowBytes inside inRow]
  · rw [if_neg inside, if_neg inside, Bytes.getD_zeros]

theorem getElem?_split_rowOrZeros (index : Nat) {block : Nat}
    (within : block < database.rowLength / Block.byteCount) :
    (Element.split (database.rowOrZeros index))[block]? =
      some (if index < database.rows then database.elementAt index block else 0) := by
  rw [rowOrZeros]
  by_cases inside : index < database.rows
  · rw [if_pos inside, if_pos inside, getElem?_split_rowBytes inside within]
  · rw [if_neg inside, if_neg inside, Element.getElem?_split_zeros within]

/-! ## Selected rows -/

@[simp]
theorem size_sumOfSelected (chosen : Nat → Bool) :
    (database.sumOfSelected chosen).size = database.rowLength := by
  rw [sumOfSelected, addSelected, Array.size_mapIdx, Bytes.size_zeros]

theorem getD_sumOfSelected (chosen : Nat → Bool) {position : Nat}
    (inRow : position < database.rowLength) :
    (database.sumOfSelected chosen).getD position 0 = database.selectedSum chosen position 0 := by
  have inside : position < (Bytes.zeros database.rowLength).size := by
    rw [Bytes.size_zeros]
    exact inRow
  rw [sumOfSelected, getD_addSelected _ _ inside, Bytes.getD_zeros]

theorem sumOfSelected_congr {chosen other : Nat → Bool}
    (same : ∀ row, row < database.rows → chosen row = other row) :
    database.sumOfSelected chosen = database.sumOfSelected other := by
  apply mapIdx_congr
  intro position byte _
  exact database.selectedSum_congr position same byte

/-- If two selections differ at one row only, the two sums add up to that row. -/
theorem xor_sumOfSelected {left right : Nat → Bool} {index : Nat}
    (single : ∀ row, row < database.rows → (left row ^^ right row) = decide (row = index)) :
    Bytes.xor (database.sumOfSelected left) (database.sumOfSelected right) =
      database.rowOrZeros index := by
  have sameSize : (database.sumOfSelected left).size = (database.sumOfSelected right).size := by
    rw [size_sumOfSelected, size_sumOfSelected]
  have size := (Bytes.size_xor_of_size_eq sameSize).trans (database.size_sumOfSelected left)
  apply Bytes.eq_of_getD_eq (size.trans (database.size_rowOrZeros index).symm)
  intro position inside
  rw [size] at inside
  rw [Bytes.getD_xor sameSize, getD_sumOfSelected _ _ inside, getD_sumOfSelected _ _ inside,
    selectedSum_xor, database.selectedSum_congr position single, UInt8.xor_self,
    selectedSum_single, getD_rowOrZeros _ _ inside]

/-! ## Weighted rows -/

section Weighted

variable {database : Database} (whole : database.rowLength % Block.byteCount = 0)

include whole

theorem size_sumOfWeighted (weight : Nat → Element) :
    (database.sumOfWeighted weight).size = database.rowLength := by
  have zeros := Bytes.size_zeros database.rowLength
  rw [sumOfWeighted, addWeighted, Element.size_mapBlocks _ (zeros.symm ▸ whole), zeros]

omit whole in
theorem getElem?_split_sumOfWeighted (weight : Nat → Element) {block : Nat}
    (within : block < database.rowLength / Block.byteCount) :
    (Element.split (database.sumOfWeighted weight))[block]? =
      some (database.weightedSum weight block 0) := by
  rw [sumOfWeighted, addWeighted, Element.split_mapBlocks, Array.getElem?_mapIdx,
    Element.getElem?_split_zeros within]
  rfl

omit whole in
theorem addWeighted_congr {weight other : Nat → Element}
    (same : ∀ row, row < database.rows → weight row = other row) (output : Bytes) :
    database.addWeighted weight output = database.addWeighted other output := by
  apply Element.mapBlocks_congr
  intro block element _
  exact database.weightedSum_congr block same element

omit whole in
theorem sumOfWeighted_congr {weight other : Nat → Element}
    (same : ∀ row, row < database.rows → weight row = other row) :
    database.sumOfWeighted weight = database.sumOfWeighted other :=
  addWeighted_congr same _

/-- If two weights add up to zero at all rows but one, the two sums add up to a multiple of that row,
and an inverse of the factor leaves the row. -/
theorem scaled_xor_sumOfWeighted {left right : Nat → Element} {index : Nat}
    {scale inverse : Element} (inverts : inverse * scale = 1)
    (single : ∀ row, row < database.rows →
      left row + right row = if row = index then scale else 0) :
    Element.mapBlocks (fun _ element => inverse * element)
        (Bytes.xor (database.sumOfWeighted left) (database.sumOfWeighted right)) =
      database.rowOrZeros index := by
  have first := size_sumOfWeighted whole left
  have second := size_sumOfWeighted whole right
  have sameSize := first.trans second.symm
  have size := (Bytes.size_xor_of_size_eq sameSize).trans first
  have mapped := (Element.size_mapBlocks (fun _ element => inverse * element)
    (size.symm ▸ whole)).trans size
  apply Element.eq_of_getElem?_split_eq
  · rw [mapped, size_rowOrZeros]
  · rw [mapped, whole]
  · intro block within
    rw [mapped] at within
    have sum := Element.getElem?_split_xor sameSize (first.symm ▸ within)
      (getElem?_split_sumOfWeighted left within) (getElem?_split_sumOfWeighted right within)
    rw [Element.split_mapBlocks, Array.getElem?_mapIdx, sum, weightedSum_add,
      database.weightedSum_congr block single, add_zero, weightedSum_single,
      getElem?_split_rowOrZeros _ _ within]
    refine congrArg some ((mul_assoc inverse scale _).symm.trans ?_)
    rw [inverts, one_mul]

end Weighted

end Database
end PrivateRetrieval
