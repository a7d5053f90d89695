import PrivateRetrieval.Proofs.Matrix.Sharing

namespace PrivateRetrieval
namespace Matrix

open Update Workers

/-!
# The indicator product is a product

A byte mask stands for the matrix that has one where the byte is one and zero everywhere else.  The
indicator product with the mask is the product with that matrix.  To add an entry where the mask is one is
to add the entry times one there and the entry times zero elsewhere, so the two kernels take the same
steps.  They also make the same checks, and where one of them refuses its arguments, so does the other.
-/

variable {w : Nat}

/-- One for the byte one and zero for every other byte. -/
def oneIfOne (byte : UInt8) : BitVec w :=
  if byte = 1 then 1 else 0

/-- The matrix that has one where a mask is one and zero everywhere else. -/
def indicator (mask : Matrix UInt8) : Matrix (BitVec w) where
  shape := mask.shape
  data := mask.data.map oneIfOne
  size_eq := Array.size_map.trans mask.size_eq
  fits := mask.fits

theorem entry_indicator (mask : Matrix UInt8) {i j : Nat} (inside : i < mask.rows)
    (within : j < mask.cols) :
    (indicator mask : Matrix (BitVec w)).entry i j = if mask.cell i j = 1 then 1 else 0 := by
  have present : i * mask.cols + j < mask.data.size := mask.size_eq.symm ▸ position_lt inside within
  change (mask.data.map oneIfOne).getD (i * mask.cols + j) 0 =
    oneIfOne (mask.data.getD (i * mask.cols + j) default)
  rw [Array.getD_eq_getD_getElem?, Array.getD_eq_getD_getElem?, Array.getElem?_map,
    Array.getElem?_eq_getElem present]
  rfl

/-- The rows of the indicator matrix are those of the mask, byte by byte. -/
theorem row_indicator (mask : Matrix UInt8) (index : Nat) :
    (indicator mask : Matrix (BitVec w)).row index = (mask.row index).map (Array.map oneIfOne) := by
  unfold row
  change (if index < mask.rows then _ else _) = _
  split
  · exact congrArg Except.ok Array.map_extract.symm
  · rfl

/-- To add a multiple of a row of ones and zeros is to add where the row is one. -/
theorem addMultiple_map_oneIfOne (entry : BitVec w) (mask : Array UInt8)
    (output : Array (BitVec w)) :
    addMultiple entry (mask.map oneIfOne) output = addWhereOne entry mask output := by
  have step (sum : BitVec w) (byte : UInt8) :
      sum + entry * oneIfOne byte = if byte = 1 then sum + entry else sum := by
    unfold oneIfOne
    split
    · exact congrArg (sum + ·) (BitVec.mul_one entry)
    · exact (congrArg (sum + ·) BitVec.mul_zero).trans (BitVec.add_zero sum)
  rw [addMultiple, addWhereOne, Array.zipWith_map_right]
  simp only [step]

/-- Two kernels are the same if they bring in every row in the same way. -/
theorem productRows_congr {β γ : Type} {add : BitVec w → Array β → Array (BitVec w) → Array (BitVec w)}
    {other : BitVec w → Array γ → Array (BitVec w) → Array (BitVec w)} (left : Matrix (BitVec w))
    {right : Matrix β} {otherRight : Matrix γ} (shapes : right.shape = otherRight.shape)
    (each : ∀ entry k,
      (do let row ← right.row k; modify (add entry row) : Update (BitVec w) Unit) =
        do let row ← otherRight.row k; modify (other entry row))
    (range : RowRange) : productRows add left right range = productRows other left otherRight range := by
  have sameRows : right.rows = otherRight.rows := congrArg Shape.rows shapes
  have sameCols : right.cols = otherRight.cols := congrArg Shape.cols shapes
  rw [productRows, productRows, sameRows, sameCols]
  simp only [each]

/-- The kernels are one, whether they are given arguments that fit or not. -/
theorem indicateRows_eq_multiplyRows (left : Matrix (BitVec w)) (mask : Matrix UInt8)
    (range : RowRange) : indicateRows left mask range = multiplyRows left (indicator mask) range := by
  have shapes : mask.shape = (indicator mask : Matrix (BitVec w)).shape := rfl
  refine productRows_congr left shapes ?_ range
  intro entry k
  rw [row_indicator]
  cases mask.row k with
  | error failure => rfl
  | ok row =>
      have added := funext (addMultiple_map_oneIfOne entry row)
      exact congrArg (fun add => (modify add : Update (BitVec w) Unit)) added.symm

theorem indicate_eq_multiply (left : Matrix (BitVec w)) (mask : Matrix UInt8) (output : Shape) :
    indicate left mask output = multiply left (indicator mask) output := by
  rw [indicate, funext (indicateRows_eq_multiplyRows left mask)]
  rfl

/-- **The indicator product.**  With the matrix that has one where the mask is one and zero elsewhere, the
kernel of the product leaves what the kernel of the indicator product leaves, for every range of rows, and
the product leaves what the indicator product leaves.  Both succeed if the inner dimensions agree, the
range lies in the left factor and the output has the right size. -/
theorem indicate_multiplies_indicator {left : Matrix (BitVec w)} {mask : Matrix UInt8}
    (inner : left.cols = mask.rows) :
    (∀ k j, k < mask.rows → j < mask.cols →
        (indicator mask : Matrix (BitVec w)).entry k j = if mask.cell k j = 1 then 1 else 0) ∧
      (∀ (range : RowRange) (output : Array (BitVec w)), range.start ≤ range.stop →
        range.stop ≤ left.rows → output.size = range.length * mask.cols →
        output.size < Size.limit →
        ∃ product, (indicateRows left mask range).run output = .ok () product ∧
          (multiplyRows left (indicator mask) range).run output = .ok () product) ∧
      ∀ output : Matrix (BitVec w), output.rows = left.rows → output.cols = mask.cols →
        ∃ product, (indicate left mask output.shape).run output.data = .ok () product ∧
          (multiply left (indicator mask) output.shape).run output.data = .ok () product := by
  refine ⟨fun k j inside within => entry_indicator mask inside within, ?_, ?_⟩
  · intro range output ordered inside fits small
    have computes := productRows_computes addWhereOne_entrywise inner ordered inside (fits ▸ small)
    have ran := (computes output fits).1
    rw [← indicateRows_eq_multiplyRows]
    exact ⟨_, ran, ran⟩
  · intro output rows cols
    rcases size_of_outer ⟨rows, cols⟩ with ⟨fits, small⟩
    have computes := overAllRows_computes addWhereOne_entrywise inner ⟨rows, cols⟩ small
    have ran := (computes output.data fits).1
    rw [← indicate_eq_multiply]
    exact ⟨_, ran, ran⟩

/-- A mask with the bytes two and three, over rows 1 to 3 of five and over all rows. -/
theorem indicate_multiplies_indicator_of_five_rows :
    fiveByTwo.cols = maskOfTwoByThree.rows ∧
      maskOfTwoByThree.cell 1 0 = 3 ∧
      (indicator maskOfTwoByThree : Matrix (BitVec 32)).entry 1 0 = 0 ∧
      (∃ product,
        (indicateRows fiveByTwo maskOfTwoByThree ⟨1, 4⟩).run (fiveByThree.data.extract 3 12) =
            .ok () product ∧
          (multiplyRows fiveByTwo (indicator maskOfTwoByThree) ⟨1, 4⟩).run
            (fiveByThree.data.extract 3 12) = .ok () product) ∧
      ∃ product,
        (indicate fiveByTwo maskOfTwoByThree ⟨5, 3⟩).run fiveByThree.data = .ok () product ∧
          (multiply fiveByTwo (indicator maskOfTwoByThree) ⟨5, 3⟩).run fiveByThree.data =
            .ok () product := by
  have inner : fiveByTwo.cols = maskOfTwoByThree.rows := rfl
  rcases indicate_multiplies_indicator inner with ⟨entries, ranges, outputs⟩
  have byte : maskOfTwoByThree.cell 1 0 = 3 := by decide
  have entry := entries 1 0 (by decide) (by decide)
  rw [byte, if_neg (by decide)] at entry
  exact ⟨inner, byte, entry,
    ranges ⟨1, 4⟩ (fiveByThree.data.extract 3 12) (by decide) (by decide) (by decide) (by decide),
    outputs fiveByThree rfl rfl⟩

end Matrix
end PrivateRetrieval
